import YunXi.MultiAgent.Step

/-!
# Calls that fail

A call that returns an error has not changed the document of the session, or has only
saved its recovery after a restart.  A store that asks for more than is stored changes
nothing at all.
-/

namespace YunXi
namespace MultiAgent

/-- A store whose authority exceeds what is stored loads nothing. -/
theorem LoadEnd.not_exceeding {store : CoordinatorStore} {loadedAt : Nat}
    {files final : Files} {loaded stored : SessionDocument}
    (ended : LoadEnd store loadedAt files loaded final)
    (found : files.load = .ok (some stored)) :
    stored.budget.contains store.authority.budget = true ∧
      store.authority.allowedChildGrants ⊆ stored.allowedChildGrants := by
  have fitting : ∀ other, files.load = .ok (some other) → store.fits other = true →
      stored.budget.contains store.authority.budget = true ∧
        store.authority.allowedChildGrants ⊆ stored.allowedChildGrants := by
    intro other otherFound fits
    rw [found, Except.ok.injEq, Option.some.injEq] at otherFound
    subst otherFound
    refine ⟨?_, (fits_eq_true fits).2.2.2.2.2⟩
    simp only [CoordinatorStore.fits, Bool.and_eq_true] at fits
    exact fits.1.2
  cases ended with
  | fresh nothing =>
      rw [found] at nothing
      cases nothing
  | same _ otherFound _ fits => exact fitting _ otherFound fits
  | recovered other _ _ otherFound _ fits => exact fitting other otherFound fits

/-- What a load may have saved: nothing, or the recovered document. -/
theorem LoadEnd.files_eq {store : CoordinatorStore} {loadedAt : Nat} {files final : Files}
    {loaded : SessionDocument} (ended : LoadEnd store loadedAt files loaded final) :
    final = files ∨ ∃ stored recovered, files.load = .ok (some stored) ∧
      Recovered store loadedAt stored recovered ∧
      final = ⟨.document recovered, .absent⟩ := by
  cases ended with
  | fresh => exact .inl rfl
  | same => exact .inl rfl
  | recovered stored _ _ found _ _ recovers _ written =>
      rcases written with ⟨-, unwritten⟩ | ⟨-, saved⟩
      · exact .inl unwritten
      · exact .inr ⟨stored, loaded, found, recovers, saved⟩

/-- A call that fails leaves the files as they were, or as they were with the document
recovered; and a call on a store whose budget or grants exceed those stored leaves the
files as they were. -/
theorem failed_call_keeps_document (size : Encoder) (action : StoreAction) (files : Files) :
    (∀ error, ((action.perform size).exec files).1 = .error error →
      storeStep size files action = files ∨
      ∃ stored recovered, files.load = .ok (some stored) ∧
        Recovered action.store action.loadedAt stored recovered ∧
        storeStep size files action = ⟨.document recovered, .absent⟩) ∧
    ∀ stored, files.load = .ok (some stored) →
      (stored.budget.contains action.store.authority.budget = false ∨
        ¬ action.store.authority.allowedChildGrants ⊆ stored.allowedChildGrants) →
      storeStep size files action = files := by
  have ended : CallEnd action files _ (storeStep size files action) :=
    perform_spec size action files
  constructor
  · intro error failed
    rcases ended.failed error failed with unchanged | ⟨loaded, loads⟩
    · exact .inl unchanged
    · exact loads.files_eq
  · intro stored found exceeds
    have impossible : ∀ loaded final,
        LoadEnd action.store action.loadedAt files loaded final → False := by
      intro loaded final loads
      obtain ⟨budget, grants⟩ := loads.not_exceeding found
      rcases exceeds with overBudget | overGrants
      · rw [budget] at overBudget
        cases overBudget
      · exact overGrants grants
    rcases ended.steps with unchanged | ⟨loaded, loads⟩ | ⟨loaded, middle, _, loads, -⟩
    · exact unchanged
    · exact (impossible loaded _ loads).elim
    · exact (impossible loaded middle loads).elim

/-- An authority over a session, with a budget. -/
def sampleAuthority (budget : AgentBudget) : AgentDelegationGrant where
  workspaceRoot := "/workspace"
  allowsNextWrite := true
  sessionId := "session-1"
  ticket := "ticket"
  budget := budget
  allowedChildGrants := [.workspaceRead]

/-- The conservative budget. -/
def sampleBudget : AgentBudget := ⟨4, 2, 4, 12⟩

/-- A store of the first coordinator instance. -/
def sampleStore : CoordinatorStore where
  instanceId := "first"
  authority := sampleAuthority sampleBudget
  stateEscapes := false
  authorityValid := by decide
  instanceValid := by decide

/-- A store of another instance, with a larger budget. -/
def largerStore : CoordinatorStore where
  instanceId := "second"
  authority := sampleAuthority ⟨4, 3, 4, 12⟩
  stateEscapes := false
  authorityValid := by decide
  instanceValid := by decide

/-- A session whose only agent runs a turn. -/
def sampleDocument : SessionDocument :=
  { SessionDocument.new sampleStore.authority "earlier" with
    totalTurns := 1
    nextAgentSequence := 2
    agents := [⟨"agent-1", rootAgentId, "Agent 1", 1, .running, 1, [],
      [⟨.user, "go on"⟩], 0, 0⟩] }

/-- A message for an agent. -/
def sampleStart (grant : AgentDelegationGrant) (agentId : String) : AgentTurnStartRequest :=
  ⟨grant, agentId, "next"⟩

/-- Starting a turn of an agent that does not exist fails after the restart was
recovered; with more authority than is stored it fails and changes nothing. -/
theorem failed_call_keeps_sampleDocument :
    (storeStep (fun _ => 0) ⟨.document sampleDocument, .absent⟩
        ⟨sampleStore, 5, .startTurn 6 (sampleStart sampleStore.authority "agent-9")⟩ =
      ⟨.document sampleDocument, .absent⟩ ∨
      ∃ stored recovered, Files.load ⟨.document sampleDocument, .absent⟩ = .ok (some stored) ∧
        Recovered sampleStore 5 stored recovered ∧
        storeStep (fun _ => 0) ⟨.document sampleDocument, .absent⟩
          ⟨sampleStore, 5, .startTurn 6 (sampleStart sampleStore.authority "agent-9")⟩ =
            ⟨.document recovered, .absent⟩) ∧
    storeStep (fun _ => 0) ⟨.document sampleDocument, .absent⟩
        ⟨largerStore, 5, .startTurn 6 (sampleStart largerStore.authority "agent-1")⟩ =
      ⟨.document sampleDocument, .absent⟩ := by
  constructor
  · apply (failed_call_keeps_document (fun _ => 0)
      ⟨sampleStore, 5, .startTurn 6 (sampleStart sampleStore.authority "agent-9")⟩
      ⟨.document sampleDocument, .absent⟩).1 (.agentNotFound "agent-9")
    decide
  · apply (failed_call_keeps_document (fun _ => 0)
      ⟨largerStore, 5, .startTurn 6 (sampleStart largerStore.authority "agent-1")⟩
      ⟨.document sampleDocument, .absent⟩).2 sampleDocument rfl
    left
    decide

end MultiAgent
end YunXi
