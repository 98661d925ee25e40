import YunXi.MultiAgent.Store
import YunXi.Program.Run

/-!
# What an operation may do to a document

Every change of a persisted document is a sequence of small steps: an agent is added,
one agent starts, completes, fails or loses its turn or its branch, or another
coordinator instance takes the document over.  Each operation of the store is shown
once to make only such steps; what holds of all documents is then proved step by step.
-/

namespace YunXi
namespace MultiAgent

open Fallible
open Protocol (GrantKind)

/-- What the parent of a new agent is: the session itself or an agent of the document
that was not interrupted. -/
inductive ParentFor (document : SessionDocument) : String → Nat → List GrantKind → Prop
  | root : ParentFor document rootAgentId 0 document.allowedChildGrants
  | agent (parent : StoredAgent) (index : Nat)
      (found : document.agents[index]? = some parent)
      (available : parent.status ≠ .interrupted) :
      ParentFor document parent.id parent.depth parent.childGrants

/-- A change of one agent that begins no turn, with the kind of event it is logged as. -/
inductive AgentStep (now : Nat) (agent : StoredAgent) : StoredAgent → AgentEventKind → Prop
  | complete (reply : String) (running : agent.status = .running) :
      AgentStep now agent (agent.record ⟨.assistant, reply⟩ .completed now) .completed
  | fail (running : agent.status = .running) :
      AgentStep now agent (agent.setStatus .failed now) .failed
  | interrupt (notInterrupted : agent.status ≠ .interrupted) :
      AgentStep now agent (agent.setStatus .interrupted now) .interrupted

/-- One small step of a document. -/
inductive DocumentStep (document : SessionDocument) : SessionDocument → Prop
  | spawn (stored : StoredAgent) (depth : Nat) (grants : List GrantKind) (detail : String)
      (now : Nat)
      (parent : ParentFor document stored.parentId depth grants)
      (named : stored.id = "agent-" ++ toString document.nextAgentSequence)
      (deeper : stored.depth = nextU16 depth)
      (shallow : stored.depth ≤ document.budget.maxDepth)
      (contained : stored.childGrants ⊆ grants)
      (fresh : stored.status = .pending ∧ stored.turnsUsed = 0 ∧ stored.transcript = [])
      (room : document.agents.length < document.budget.maxAgents) :
      DocumentStep document
        ((document.takeSequence.log
          (document.takeSequence.nextEvent stored.id .spawned detail now)).addAgent stored)
  | start (index : Nat) (agent : StoredAgent) (message detail : String) (now : Nat)
      (found : document.agents[index]? = some agent)
      (notRunning : agent.status ≠ .running)
      (notInterrupted : agent.status ≠ .interrupted)
      (allowed : agent.turnsUsed < document.budget.maxTurnsPerAgent)
      (room : document.totalTurns < document.budget.maxTotalTurns) :
      DocumentStep document
        ((document.changeAgent index fun _ =>
          agent.beginTurn ⟨.user, message⟩ now).countTurn.log
            (document.nextEvent agent.id .turnStarted detail now))
  | change (index : Nat) (agent changed : StoredAgent) (kind : AgentEventKind)
      (detail : String) (now : Nat)
      (found : document.agents[index]? = some agent)
      (step : AgentStep now agent changed kind) :
      DocumentStep document
        ((document.changeAgent index fun _ => changed).log
          (document.nextEvent agent.id kind detail now))
  | adopt (instanceId : String) :
      DocumentStep document { document with coordinatorInstanceId := instanceId }

/-- Some steps after each other. -/
abbrev DocumentSteps : SessionDocument → SessionDocument → Prop :=
  Relation.ReflTransGen DocumentStep

variable {document : SessionDocument} {now : Nat} {event : AgentEvent} {after : SessionDocument}

theorem pushEvent_eq_ok {agentId detail : String}
    {kind : AgentEventKind}
    (pushed : document.pushEvent agentId kind detail now = .ok (event, after)) :
    event = document.nextEvent agentId kind detail now ∧
      after = document.log (document.nextEvent agentId kind detail now) := by
  simp only [SessionDocument.pushEvent, Except.bind_eq_ok, Except.pure_eq_ok,
    Prod.mk.injEq] at pushed
  obtain ⟨_, -, rfl, rfl⟩ := pushed
  exact ⟨rfl, rfl⟩

theorem agentIndex_eq_ok {id : String} {index : Nat}
    (found : document.agentIndex id = .ok index) :
    ∃ agent, document.agents[index]? = some agent ∧ agent.id = id := by
  unfold SessionDocument.agentIndex at found
  cases located : document.agents.findIdx? (·.id == id) with
  | none => simp [located] at found
  | some position =>
      simp only [located, Except.ok.injEq] at found
      subst found
      obtain ⟨bound, matched, -⟩ := List.findIdx?_eq_some_iff_getElem.mp located
      exact ⟨document.agents[position], List.getElem?_eq_getElem bound, by simpa using matched⟩

variable {store : CoordinatorStore}

/-- What `fits` says of the authority and the stored limits. -/
theorem fits_eq_true (fits : store.fits document = true) :
    document.sessionId = store.authority.sessionId ∧
      store.authority.budget.maxAgents ≤ document.budget.maxAgents ∧
      store.authority.budget.maxDepth ≤ document.budget.maxDepth ∧
      store.authority.budget.maxTurnsPerAgent ≤ document.budget.maxTurnsPerAgent ∧
      store.authority.budget.maxTotalTurns ≤ document.budget.maxTotalTurns ∧
      store.authority.allowedChildGrants ⊆ document.allowedChildGrants := by
  simp only [CoordinatorStore.fits, AgentBudget.contains, Bool.and_eq_true, beq_iff_eq,
    decide_eq_true_eq, List.all_eq_true, List.contains_iff_mem] at fits
  obtain ⟨⟨session, ⟨⟨agents, depth⟩, turns⟩, total⟩, grants⟩ := fits
  exact ⟨session, agents, depth, turns, total, grants⟩

theorem validateLimit_eq_ok {field : String} {value maximum : Nat} :
    validateLimit field value maximum = .ok () ↔ 0 < value ∧ value ≤ maximum := by
  unfold validateLimit
  rw [Except.ite_error_eq_ok]
  constructor
  · rintro ⟨inside, -⟩
    omega
  · rintro ⟨positive, fits⟩
    exact ⟨by omega, rfl⟩

/-- The limits of a valid budget. -/
theorem AgentBudget.validate_eq_ok {budget : AgentBudget}
    (valid : budget.validate = .ok ()) :
    budget.maxAgents ≤ maxAgentCount ∧ budget.maxDepth ≤ maxAgentDepth ∧
      budget.maxTurnsPerAgent ≤ maxAgentTurnsPerAgent ∧
      budget.maxTotalTurns ≤ maxAgentTotalTurns := by
  simp only [AgentBudget.validate, Except.bind_eq_ok] at valid
  obtain ⟨_, agents, _, depth, _, turns, total⟩ := valid
  exact ⟨(validateLimit_eq_ok.mp agents).2, (validateLimit_eq_ok.mp depth).2,
    (validateLimit_eq_ok.mp turns).2, (validateLimit_eq_ok.mp total).2⟩

theorem CoordinatorStore.budget_valid (store : CoordinatorStore) :
    store.authority.budget.validate = .ok () := by
  have valid := store.authorityValid
  simp only [AgentDelegationGrant.validate, Except.bind_eq_ok] at valid
  obtain ⟨_, -, _, -, _, budget, -⟩ := valid
  exact budget

/-- Counters that are far from their bounds do not saturate. -/
theorem nextU16_of_lt {value : Nat} (small : value < 65535) :
    nextU16 value = value + 1 := by
  unfold nextU16
  omega

theorem nextU64_of_lt {value : Nat} (small : value < 18446744073709551615) :
    nextU64 value = value + 1 := by
  unfold nextU64
  omega

variable {snapshot : AgentSnapshot} {snapshots : List AgentSnapshot} {events : List AgentEvent}
  {targets : List String}

section Changes

variable {store : CoordinatorStore} {document after : SessionDocument}

theorem parentOf_eq_ok {parentId : String} {depth : Nat} {grants : List GrantKind}
    (found : parentOf store.authority document parentId = .ok (depth, grants))
    (fits : store.fits document = true) :
    ∃ stored, ParentFor document parentId depth stored ∧ grants ⊆ stored := by
  unfold parentOf at found
  split at found
  · case isTrue isRoot =>
      cases found
      rw [isRoot]
      exact ⟨_, .root, (fits_eq_true fits).2.2.2.2.2⟩
  · case isFalse =>
      cases located : document.agents.find? (·.id == parentId) with
      | none => simp [located] at found
      | some parent =>
          simp only [located, Except.ite_error_eq_ok, Except.ok.injEq,
            Prod.mk.injEq] at found
          obtain ⟨available, rfl, rfl⟩ := found
          obtain ⟨index, position⟩ := List.mem_iff_getElem?.mp
            (List.mem_of_find?_eq_some located)
          have same : parent.id = parentId := by simpa using List.find?_some located
          rw [← same]
          exact ⟨_, .agent parent index position available, List.Subset.refl _⟩

theorem spawnIn_step {request : AgentSpawnRequest} {stored : StoredAgent}
    (fits : store.fits document = true)
    (changed : spawnIn store.authority request now document = .ok (after, stored, event)) :
    DocumentStep document after ∧ stored ∈ after.agents := by
  obtain ⟨-, agentsFit, depthFits, -⟩ := fits_eq_true fits
  simp only [spawnIn, Except.ite_throw_eq_ok, Except.bind_eq_ok, Prod.exists,
    Except.pure_eq_ok, Prod.mk.injEq] at changed
  obtain ⟨room, depth, grants, parent, permitted, shallow, logged, middle, pushed, rfl, rfl,
    rfl⟩ := changed
  obtain ⟨rfl, rfl⟩ := pushEvent_eq_ok pushed
  obtain ⟨storedGrants, parentFor, subset⟩ := parentOf_eq_ok parent fits
  have contained : request.requestedChildGrants ⊆ storedGrants := by
    intro grant member
    apply subset
    simp only [not_not, List.all_eq_true, List.contains_iff_mem] at permitted
    exact permitted grant member
  constructor
  · exact .spawn _ depth storedGrants _ now parentFor rfl rfl
      (Nat.le_trans (Nat.le_of_not_lt shallow) depthFits) contained ⟨rfl, rfl, rfl⟩
      (Nat.lt_of_lt_of_le (Nat.lt_of_not_le room) agentsFit)
  · simp [SessionDocument.addAgent]

/-- The changed agent is in the changed document. -/
theorem mem_changeAgent {index : Nat} {agent : StoredAgent}
    (found : document.agents[index]? = some agent) (changed : StoredAgent) :
    changed ∈ (document.changeAgent index fun _ => changed).agents := by
  apply List.mem_iff_getElem?.mpr
  exact ⟨index, by simp [SessionDocument.changeAgent, found]⟩

theorem startTurnIn_step {request : AgentTurnStartRequest}
    {transcript : List AgentTranscriptEntry}
    (fits : store.fits document = true)
    (changed : startTurnIn store.authority request now document =
      .ok (after, snapshot, transcript, event)) :
    DocumentStep document after ∧
      ∃ agent ∈ after.agents, transcript = agent.transcript := by
  obtain ⟨-, -, -, turnsFit, totalFits, -⟩ := fits_eq_true fits
  simp only [startTurnIn, Except.ite_throw_eq_ok, Except.bind_eq_ok] at changed
  obtain ⟨room, index, located, rest⟩ := changed
  obtain ⟨agent, found, sameId⟩ := agentIndex_eq_ok located
  simp only [found, Except.ite_throw_eq_ok, Except.bind_eq_ok, Prod.exists,
    Except.pure_eq_ok, Prod.mk.injEq, Except.mapError_eq_ok, protocol,
    AgentTranscriptEntry.new] at rest
  obtain ⟨notRunning, notInterrupted, allowed, -, entry, ⟨_, -, rfl⟩, logged, middle, pushed,
    _, -, rfl, rfl, rfl, rfl⟩ := rest
  obtain ⟨rfl, rfl⟩ := pushEvent_eq_ok pushed
  rw [← sameId]
  constructor
  · exact .start index agent request.message _ now found notRunning notInterrupted
      (Nat.lt_of_lt_of_le (Nat.lt_of_not_le allowed) turnsFit)
      (Nat.lt_of_lt_of_le (Nat.lt_of_not_le room) totalFits)
  · exact ⟨_, mem_changeAgent found _, rfl⟩

theorem completeTurnIn_step {request : AgentTurnCompleteRequest}
    (changed : completeTurnIn request now document = .ok (after, snapshot, event)) :
    DocumentStep document after := by
  simp only [completeTurnIn, Except.bind_eq_ok] at changed
  obtain ⟨index, located, rest⟩ := changed
  obtain ⟨agent, found, sameId⟩ := agentIndex_eq_ok located
  simp only [found, Except.ite_throw_eq_ok, Except.bind_eq_ok, Prod.exists,
    Except.pure_eq_ok, Prod.mk.injEq, Except.mapError_eq_ok, protocol,
    AgentTranscriptEntry.new, not_not] at rest
  obtain ⟨running, -, entry, ⟨_, -, rfl⟩, logged, middle, pushed, _, -, rfl, rfl, rfl⟩ := rest
  obtain ⟨rfl, rfl⟩ := pushEvent_eq_ok pushed
  rw [← sameId]
  exact .change index agent _ _ _ now found (.complete request.reply running)

theorem failTurnIn_step {request : AgentTurnFailRequest}
    (changed : failTurnIn request now document = .ok (after, snapshot, event)) :
    DocumentStep document after := by
  simp only [failTurnIn, Except.bind_eq_ok] at changed
  obtain ⟨index, located, rest⟩ := changed
  obtain ⟨agent, found, sameId⟩ := agentIndex_eq_ok located
  simp only [found, Except.ite_throw_eq_ok, Except.bind_eq_ok, Prod.exists,
    Except.pure_eq_ok, Prod.mk.injEq, not_not] at rest
  obtain ⟨running, logged, middle, pushed, _, -, rfl, rfl, rfl⟩ := rest
  obtain ⟨rfl, rfl⟩ := pushEvent_eq_ok pushed
  rw [← sameId]
  exact .change index agent _ _ _ now found (.fail running)

/-- One target of an interrupt. -/
theorem interruptEach_cons {target : String} {rest : List String}
    (changed : interruptEach now (target :: rest) document = .ok (after, snapshots, events)) :
    ∃ index agent, document.agents[index]? = some agent ∧ agent.id = target ∧
      document.agentIndex target = .ok index ∧
      ((agent.status = .interrupted ∧
          interruptEach now rest document = .ok (after, snapshots, events)) ∨
        ∃ snapshot restSnapshots restEvents,
          agent.status ≠ .interrupted ∧
          interruptEach now rest ((document.changeAgent index fun _ =>
            agent.setStatus .interrupted now).log (document.nextEvent target .interrupted
              "branch interrupted by the Host" now)) = .ok (after, restSnapshots, restEvents) ∧
          snapshots = snapshot :: restSnapshots ∧
          events = document.nextEvent target .interrupted
            "branch interrupted by the Host" now :: restEvents) := by
  simp only [interruptEach, Except.bind_eq_ok] at changed
  obtain ⟨index, located, continued⟩ := changed
  obtain ⟨agent, found, sameId⟩ := agentIndex_eq_ok located
  refine ⟨index, agent, found, sameId, located, ?_⟩
  simp only [found] at continued
  by_cases stopped : agent.status = .interrupted
  · rw [if_pos stopped] at continued
    exact .inl ⟨stopped, continued⟩
  · rw [if_neg stopped] at continued
    simp only [Except.bind_eq_ok, Prod.exists, Except.pure_eq_ok, Prod.mk.injEq] at continued
    obtain ⟨logged, middle, pushed, snapshot, -, final, restSnapshots, restEvents, continues,
      rfl, rfl, rfl⟩ := continued
    obtain ⟨rfl, rfl⟩ := pushEvent_eq_ok pushed
    exact .inr ⟨snapshot, restSnapshots, restEvents, stopped, continues, rfl, rfl⟩

theorem interruptEach_steps
    (changed : interruptEach now targets document = .ok (after, snapshots, events)) :
    DocumentSteps document after := by
  induction targets generalizing document snapshots events with
  | nil =>
      simp only [interruptEach, Except.ok.injEq, Prod.mk.injEq] at changed
      rw [changed.1]
  | cons target rest ih =>
      obtain ⟨index, agent, found, rfl, -, unchanged | interrupted⟩ :=
        interruptEach_cons changed
      · exact ih unchanged.2
      · obtain ⟨_, _, _, stopped, continues, -, -⟩ := interrupted
        exact .head (.change index agent _ _ _ now found (.interrupt stopped))
          (ih continues)

theorem interruptIn_steps {request : AgentInterruptRequest}
    (changed : interruptIn request now document = .ok (after, snapshots, events)) :
    DocumentSteps document after := by
  simp only [interruptIn, Except.bind_eq_ok] at changed
  obtain ⟨_, -, each⟩ := changed
  exact interruptEach_steps each

end Changes

theorem checkAgents_eq_ok {seen : List String} {agents : List StoredAgent} :
    checkAgents seen agents = .ok () ↔
      (∀ agent ∈ agents, agent.validate = .ok ()) ∧ (agents.map StoredAgent.id).Nodup ∧
        ∀ agent ∈ agents, agent.id ∉ seen := by
  induction agents generalizing seen with
  | nil => simp [checkAgents]
  | cons agent rest ih =>
      simp only [checkAgents, Except.bind_eq_ok, Except.ite_throw_eq_ok, List.map_cons,
        List.nodup_cons, List.forall_mem_cons, ih]
      constructor
      · rintro ⟨_, valid, fresh, validRest, distinct, freshRest⟩
        refine ⟨⟨valid, validRest⟩, ⟨?_, distinct⟩, fresh, ?_⟩
        · intro repeated
          obtain ⟨other, member, same⟩ := List.mem_map.mp repeated
          apply freshRest other member
          simp [same]
        · intro other member found
          exact freshRest other member (List.mem_cons_of_mem _ found)
      · rintro ⟨⟨valid, validRest⟩, ⟨unrepeated, distinct⟩, fresh, freshRest⟩
        refine ⟨(), valid, fresh, validRest, distinct, ?_⟩
        intro other member found
        rcases List.mem_cons.mp found with same | seenBefore
        · apply unrepeated
          rw [← same]
          exact List.mem_map_of_mem member
        · exact freshRest other member seenBefore

/-- What holds of a document that passes its check. -/
structure SessionDocument.Valid (document : SessionDocument) : Prop where
  budget : document.budget.validate = .ok ()
  count : document.agents.length ≤ maxAgentCount
  agents : ∀ agent ∈ document.agents, agent.validate = .ok ()
  distinct : (document.agents.map StoredAgent.id).Nodup
  parents : ∀ agent ∈ document.agents, agent.parentId = rootAgentId ∨
    agent.parentId ∈ document.agents.map StoredAgent.id
  sequence : document.nextEventSequence ≠ 0

theorem SessionDocument.validate_eq_ok (valid : document.validate = .ok ()) :
    document.Valid := by
  simp only [SessionDocument.validate, Except.ite_throw_eq_ok, Except.bind_eq_ok, protocol,
    Except.mapError_eq_ok, not_or] at valid
  obtain ⟨-, _, budget, _, -, ⟨-, sequence⟩, ⟨count, -⟩, _, agents, _, parents, -⟩ := valid
  obtain ⟨validAgents, distinct, -⟩ := checkAgents_eq_ok.mp agents
  refine ⟨budget, Nat.le_of_not_lt count, validAgents, distinct, ?_, sequence⟩
  intro agent member
  have checked := checkAll_eq_ok.mp parents agent member
  simp only [checkParent, Except.ite_error_eq_ok, not_and, not_not] at checked
  by_cases isRoot : agent.parentId = rootAgentId
  · exact .inl isRoot
  · exact .inr (checked.1 isRoot)

/-- An agent that passes its check has a snapshot and valid transcript entries. -/
theorem StoredAgent.validate_eq_ok {agent : StoredAgent} (valid : agent.validate = .ok ()) :
    agent.snapshot = .ok agent.view ∧
      agent.transcript.length ≤ maxAgentTranscriptEntries ∧
      ∀ entry ∈ agent.transcript, entry.validate = .ok () := by
  simp only [StoredAgent.validate, Except.bind_eq_ok, Except.ite_throw_eq_ok] at valid
  obtain ⟨_, snapshot, fits, entries⟩ := valid
  refine ⟨?_, Nat.le_of_not_lt fits, ?_⟩
  · obtain ⟨view, taken⟩ := Except.discard_eq_ok.mp snapshot
    rw [taken]
    simp only [StoredAgent.snapshot, Except.bind_eq_ok, Except.pure_eq_ok] at taken
    obtain ⟨_, -, rfl⟩ := taken
    rfl
  · intro entry member
    have checked := checkAll_eq_ok.mp entries entry member
    simpa [protocol] using checked

/-- Changing the element at an index changes the element of its key, when keys differ. -/
theorem modify_eq_map {agents : List StoredAgent} {index : Nat} {agent : StoredAgent}
    (distinct : (agents.map StoredAgent.id).Nodup) (found : agents[index]? = some agent)
    (change : StoredAgent → StoredAgent) :
    agents.modify index change =
      agents.map fun other => if other.id = agent.id then change other else other := by
  apply List.ext_getElem?
  intro position
  rw [List.getElem?_modify, List.getElem?_map]
  by_cases same : index = position
  · rw [← same, found]
    simp
  · cases located : agents[position]? with
    | none => simp
    | some other =>
        have differs : other.id ≠ agent.id := by
          intro sameId
          apply same
          obtain ⟨bound, -⟩ := List.getElem?_eq_some_iff.mp found
          have keys : (agents.map StoredAgent.id)[index]? =
              (agents.map StoredAgent.id)[position]? := by
            simp [found, located, sameId]
          exact (List.getElem?_inj (by simpa using bound) distinct).mp keys
        simp [same, differs]

/-- Fields of a document that no recovery and no interrupt touches. -/
structure SameFrame (before after : SessionDocument) : Prop where
  version : after.version = before.version
  sessionId : after.sessionId = before.sessionId
  budget : after.budget = before.budget
  allowed : after.allowedChildGrants = before.allowedChildGrants
  turns : after.totalTurns = before.totalTurns
  sequence : after.nextAgentSequence = before.nextAgentSequence

/-- Fail the agents with some ids. -/
def failAgents (ids : List String) (now : Nat) (agents : List StoredAgent) :
    List StoredAgent :=
  agents.map fun agent => if agent.id ∈ ids then agent.setStatus .failed now else agent

theorem failAbandoned_spec {ids : List String}
    (distinctIds : ids.Nodup) (distinct : (document.agents.map StoredAgent.id).Nodup)
    (running : ∀ agent ∈ document.agents, agent.id ∈ ids → agent.status = .running)
    (recovered : failAbandoned now ids document = .ok after) :
    DocumentSteps document after ∧ after.agents = failAgents ids now document.agents ∧
      SameFrame document after := by
  induction ids generalizing document with
  | nil =>
      simp only [failAbandoned, Except.ok.injEq] at recovered
      subst recovered
      refine ⟨.refl, ?_, rfl, rfl, rfl, rfl, rfl, rfl⟩
      simp [failAgents]
  | cons id rest ih =>
      obtain ⟨freshId, distinctRest⟩ := List.nodup_cons.mp distinctIds
      simp only [failAbandoned, Except.bind_eq_ok, Prod.exists] at recovered
      obtain ⟨index, located, logged, middle, pushed, continues⟩ := recovered
      obtain ⟨agent, found, sameId⟩ := agentIndex_eq_ok located
      obtain ⟨rfl, rfl⟩ := pushEvent_eq_ok pushed
      have isRunning : agent.status = .running := by
        apply running agent (List.mem_iff_getElem?.mpr ⟨index, found⟩)
        simp [sameId]
      have changedAgents : document.agents.modify index (fun agent =>
          agent.setStatus .failed now) =
          document.agents.map fun other =>
            if other.id = id then other.setStatus .failed now else other := by
        rw [modify_eq_map distinct found, sameId]
      have sameChange : document.changeAgent index (fun agent =>
          agent.setStatus .failed now) =
          document.changeAgent index fun _ => agent.setStatus .failed now := by
        unfold SessionDocument.changeAgent
        rw [List.modify_eq_set_getElem?, List.modify_eq_set_getElem?, found]
        rfl
      have step : DocumentStep document ((document.changeAgent index fun agent =>
          agent.setStatus .failed now).log (document.nextEvent id .failed
            "child turn abandoned after coordinator restart" now)) := by
        rw [sameChange, ← sameId]
        exact .change index agent _ _ _ now found (.fail isRunning)
      have sameIds : (document.agents.map fun other =>
          if other.id = id then other.setStatus .failed now else other).map StoredAgent.id =
          document.agents.map StoredAgent.id := by
        rw [List.map_map]
        apply List.map_congr_left
        intro other _
        by_cases same : other.id = id <;> simp [same, StoredAgent.setStatus]
      obtain ⟨steps, agents, frame⟩ := ih distinctRest
        (by
          change (List.map _ (document.agents.modify _ _)).Nodup
          rw [changedAgents, sameIds]
          exact distinct)
        (by
          intro other member later
          change other ∈ document.agents.modify _ _ at member
          rw [changedAgents] at member
          obtain ⟨original, present, rfl⟩ := List.mem_map.mp member
          by_cases same : original.id = id
          · simp only [same, if_true, StoredAgent.setStatus] at later
            exact absurd later freshId
          · simp only [same, if_false] at later ⊢
            exact running original present (List.mem_cons_of_mem _ later))
        continues
      refine ⟨.head step steps, ?_, ?_⟩
      · rw [agents]
        change failAgents rest now (document.agents.modify _ _) = _
        rw [changedAgents, failAgents, failAgents, List.map_map]
        apply List.map_congr_left
        intro other _
        by_cases same : other.id = id
        · simp [same, StoredAgent.setStatus, freshId]
        · simp [same]
      · exact ⟨frame.version, frame.sessionId, frame.budget, frame.allowed, frame.turns,
          frame.sequence⟩

/-- What recovery makes of a document: the running agents have failed, and the document belongs to the
store's instance. -/
structure Recovered (store : CoordinatorStore) (now : Nat)
    (stored recovered : SessionDocument) : Prop where
  other : stored.coordinatorInstanceId ≠ store.instanceId
  recovers : store.recover now stored = .ok recovered
  adopted : recovered.coordinatorInstanceId = store.instanceId
  agents : recovered.agents = stored.agents.map fun agent =>
    if agent.status = .running then agent.setStatus .failed now else agent
  frame : SameFrame stored recovered

theorem recover_spec {stored recovered : SessionDocument} (valid : stored.Valid)
    (other : stored.coordinatorInstanceId ≠ store.instanceId)
    (recovers : store.recover now stored = .ok recovered) :
    DocumentSteps stored recovered ∧ Recovered store now stored recovered := by
  have result := recovers
  simp only [CoordinatorStore.recover, Except.bind_eq_ok, Except.pure_eq_ok] at recovers
  obtain ⟨failed, abandoned, rfl⟩ := recovers
  have sublist : ((stored.agents.filter (·.status == .running)).map StoredAgent.id).Sublist
      (stored.agents.map StoredAgent.id) := List.Sublist.map _ List.filter_sublist
  have idOf : ∀ agent ∈ stored.agents,
      agent.id ∈ (stored.agents.filter (·.status == .running)).map StoredAgent.id ↔
        agent.status = .running := by
    intro agent member
    constructor
    · intro listed
      obtain ⟨twin, present, same⟩ := List.mem_map.mp listed
      obtain ⟨twinMember, running⟩ := List.mem_filter.mp present
      rw [← List.inj_on_of_nodup_map valid.distinct twinMember member same]
      simpa using running
    · intro running
      exact List.mem_map.mpr ⟨agent, List.mem_filter.mpr ⟨member, by simp [running]⟩, rfl⟩
  obtain ⟨steps, agents, frame⟩ := failAbandoned_spec (sublist.nodup valid.distinct)
    valid.distinct (fun agent member listed => (idOf agent member).mp listed) abandoned
  refine ⟨steps.tail (.adopt _), other, result, rfl, ?_, frame.version, frame.sessionId,
    frame.budget, frame.allowed, frame.turns, frame.sequence⟩
  change failed.agents = _
  rw [agents, failAgents]
  apply List.map_congr_left
  intro agent member
  simp only [idOf agent member]

/-- How `load_or_new` returns: a new document, the stored one, or the stored one
recovered, which a store that may write has saved. -/
inductive LoadEnd (store : CoordinatorStore) (loadedAt : Nat) (files : Files) :
    SessionDocument → Files → Prop
  | fresh (nothing : files.load = .ok none) :
      LoadEnd store loadedAt files
        (SessionDocument.new store.authority store.instanceId) files
  | same (stored : SessionDocument) (found : files.load = .ok (some stored))
      (valid : stored.validate = .ok ()) (fits : store.fits stored = true) :
      LoadEnd store loadedAt files stored files
  | recovered (stored recovered : SessionDocument) (final : Files)
      (found : files.load = .ok (some stored)) (valid : stored.validate = .ok ())
      (fits : store.fits stored = true)
      (recovers : Recovered store loadedAt stored recovered)
      (steps : DocumentSteps stored recovered)
      (written : store.authority.allowsNextWrite = false ∧ final = files ∨
        recovered.validate = .ok () ∧ final = ⟨.document recovered, .absent⟩) :
      LoadEnd store loadedAt files recovered final

theorem save_wp (store : CoordinatorStore) (size : Encoder) (document : SessionDocument)
    (post : Except MultiAgentStoreError Unit → Files → Prop) (files : Files)
    (saved : document.validate = .ok () → post (.ok ()) ⟨.document document, .absent⟩)
    (refused : ∀ error, post (.error error) files) :
    (store.save size document).wp post files := by
  simp only [CoordinatorStore.save, wp_bind, wp_ofExcept]
  cases checked : store.checkSave size document with
  | error error => exact refused error
  | ok _ =>
      rw [andThen_ok, wp_modify]
      simp only [CoordinatorStore.checkSave, Except.bind_eq_ok] at checked
      obtain ⟨_, -, _, valid, -⟩ := checked
      exact saved valid

theorem loadOrNew_spec (store : CoordinatorStore) (size : Encoder) (loadedAt : Nat)
    (files : Files) :
    (store.loadOrNew size loadedAt).wp (fun result final =>
      (∀ loaded, result = .ok loaded → LoadEnd store loadedAt files loaded final) ∧
      ∀ error, result = .error error → final = files) files := by
  have fails : ∀ error : MultiAgentStoreError,
      (∀ loaded, (.error error : StoreResult SessionDocument) = .ok loaded →
        LoadEnd store loadedAt files loaded files) ∧
      ∀ other, (.error error : StoreResult SessionDocument) = .error other →
        files = files :=
    fun error => ⟨(fun _ impossible => by cases impossible), fun _ _ => rfl⟩
  simp only [CoordinatorStore.loadOrNew, wp_bind, wp_get,
    andThen_ok, wp_ofExcept]
  cases loads : files.load with
  | error error => exact fails error
  | ok found =>
      rw [andThen_ok]
      cases found with
      | none =>
          refine ⟨?_, fun _ impossible => by cases impossible⟩
          rintro _ ⟨⟩
          exact .fresh loads
      | some stored =>
          simp only [wp_bind, wp_ofExcept]
          cases valid : stored.validate with
          | error error => exact fails error
          | ok _ =>
              simp only [andThen_ok, wp_bind, wp_throwIf,
                andThen_error]
              refine ⟨fun _ => ⟨(fails _).1, fun _ _ => trivial⟩, ?_⟩
              intro fitting
              have fits : store.fits stored = true := by simpa using fitting
              split
              · refine ⟨?_, fun _ impossible => by cases impossible⟩
                rintro _ ⟨⟩
                exact .same stored loads valid fits
              · case isFalse other =>
                  simp only [wp_bind, wp_ofExcept]
                  cases recovers : store.recover loadedAt stored with
                  | error error => exact fails error
                  | ok recovered =>
                      rw [andThen_ok]
                      obtain ⟨steps, spec⟩ := recover_spec
                        (SessionDocument.validate_eq_ok valid) other recovers
                      split
                      · rw [wp_bind]
                        apply save_wp
                        · intro validRecovered
                          refine ⟨?_, fun _ impossible => by cases impossible⟩
                          rintro _ ⟨⟩
                          exact .recovered stored recovered _ loads valid fits spec steps
                            (.inr ⟨validRecovered, rfl⟩)
                        · exact fails
                      · case isFalse mayNotWrite =>
                          refine ⟨?_, fun _ impossible => by cases impossible⟩
                          rintro _ ⟨⟩
                          exact .recovered stored recovered _ loads valid fits spec steps
                            (.inl ⟨by simpa using mayNotWrite, rfl⟩)

/-- How an operation that changes the graph returns: it has saved the changed document
and made its result, or it has failed and saved nothing but a recovery. -/
inductive OperateEnd {ρ α : Type} (store : CoordinatorStore) (loadedAt : Nat)
    (files : Files) (change : SessionDocument → StoreResult (SessionDocument × ρ))
    (finish : ρ → StoreResult α) : StoreResult α → Files → Prop
  | saved (loaded document : SessionDocument) (made : ρ) (middle : Files)
      (loads : LoadEnd store loadedAt files loaded middle)
      (changes : change loaded = .ok (document, made))
      (valid : document.validate = .ok ()) :
      OperateEnd store loadedAt files change finish (finish made)
        ⟨.document document, .absent⟩
  | unchanged (error : MultiAgentStoreError) :
      OperateEnd store loadedAt files change finish (.error error) files
  | loaded (error : MultiAgentStoreError) (loaded : SessionDocument) (final : Files)
      (loads : LoadEnd store loadedAt files loaded final) :
      OperateEnd store loadedAt files change finish (.error error) final

theorem operate_spec {ρ α : Type} (store : CoordinatorStore) (size : Encoder)
    (loadedAt : Nat) (grant : AgentDelegationGrant) (valid : Except AgentProtocolError Unit)
    (change : SessionDocument → StoreResult (SessionDocument × ρ))
    (finish : ρ → StoreResult α) (files : Files) :
    (store.operate size loadedAt grant valid change finish).wp
      (OperateEnd store loadedAt files change finish) files := by
  simp only [CoordinatorStore.operate, wp_bind, wp_ofExcept]
  cases store.requireMatchingAuthority grant with
  | error error => exact .unchanged error
  | ok _ =>
      simp only [andThen_ok, wp_bind, wp_ofExcept]
      cases protocol valid with
      | error error => exact .unchanged error
      | ok _ =>
          simp only [andThen_ok, wp_bind, wp_ofExcept]
          cases store.requireWrite with
          | error error => exact .unchanged error
          | ok _ =>
              simp only [andThen_ok, wp_bind]
              refine wp_mono (loadOrNew_spec store size loadedAt files) ?_
              rintro result middle ⟨loads, failed⟩
              cases result with
              | error error =>
                  rw [failed error rfl]
                  exact .unchanged error
              | ok loaded =>
                  have ended := loads loaded rfl
                  simp only [andThen_ok, wp_bind, wp_ofExcept]
                  cases changes : change loaded with
                  | error error => exact .loaded error loaded middle ended
                  | ok changed =>
                      obtain ⟨document, made⟩ := changed
                      simp only [andThen_ok, wp_bind]
                      apply save_wp
                      · intro validDocument
                        exact .saved loaded document made middle ended changes validDocument
                      · intro error
                        exact .loaded error loaded middle ended

/-- A loaded document fits the store that loaded it. -/
theorem LoadEnd.fits {loadedAt : Nat} {files final : Files}
    {loaded : SessionDocument} (ended : LoadEnd store loadedAt files loaded final) :
    store.fits loaded = true := by
  cases ended with
  | fresh =>
      simp [CoordinatorStore.fits, SessionDocument.new, AgentBudget.contains]
  | same _ _ _ fits => exact fits
  | recovered stored _ _ _ _ fits recovers =>
      simp only [CoordinatorStore.fits] at fits ⊢
      rw [recovers.frame.sessionId, recovers.frame.budget, recovers.frame.allowed]
      exact fits

/-- How a call returns. -/
structure CallEnd (action : StoreAction) (files : Files) (result : StoreResult Unit)
    (final : Files) : Prop where
  steps : final = files ∨
    (∃ loaded, LoadEnd action.store action.loadedAt files loaded final) ∨
    ∃ loaded middle document, LoadEnd action.store action.loadedAt files loaded middle ∧
      DocumentSteps loaded document ∧ document.validate = .ok () ∧
      final = ⟨.document document, .absent⟩
  failed : ∀ error, result = .error error → final = files ∨
    ∃ loaded, LoadEnd action.store action.loadedAt files loaded final

/-- What has to be shown of an operation: its changes are steps, and the result of a
change that was saved can be made. -/
theorem OperateEnd.callEnd {ρ α : Type} {action : StoreAction} {files final : Files}
    {change : SessionDocument → StoreResult (SessionDocument × ρ)}
    {finish : ρ → StoreResult α} {result : StoreResult α}
    (ended : OperateEnd action.store action.loadedAt files change finish result final)
    (steps : ∀ loaded document made, action.store.fits loaded = true →
      change loaded = .ok (document, made) → DocumentSteps loaded document)
    (makes : ∀ loaded document made, action.store.fits loaded = true →
      change loaded = .ok (document, made) → document.Valid →
      ∃ value, finish made = .ok value) :
    CallEnd action files (result.map fun _ => ()) final := by
  cases ended with
  | saved loaded document made middle loads changes valid =>
      constructor
      · exact .inr (.inr ⟨loaded, middle, document, loads,
          steps loaded document made loads.fits changes, valid, rfl⟩)
      · intro error failed
        obtain ⟨value, makesValue⟩ := makes loaded document made loads.fits changes
          (SessionDocument.validate_eq_ok valid)
        rw [makesValue] at failed
        cases failed
  | unchanged error => exact ⟨.inl rfl, fun _ _ => .inl rfl⟩
  | loaded error loaded _ loads =>
      exact ⟨.inr (.inl ⟨loaded, loads⟩), fun _ _ => .inr ⟨loaded, loads⟩⟩

/-- The rule for an operation whose value is dropped. -/
theorem wp_discard_of {α : Type} {program : StoreM α}
    {post : StoreResult Unit → Files → Prop} {files : Files}
    (holds : program.wp (fun result final => post (result.map fun _ => ()) final) files) :
    (discard program).wp post files := by
  change (program >>= fun _ => pure ()).wp post files
  rw [wp_bind]
  refine wp_mono holds ?_
  intro result final reached
  cases result with
  | ok value => exact reached
  | error error => exact reached

theorem startTurn_result {transcript : List AgentTranscriptEntry}
    (valid : document.Valid)
    (stored : ∃ agent ∈ document.agents, transcript = agent.transcript) :
    ∃ value, protocol (AgentTurnStartResult.new snapshot transcript event) = .ok value := by
  obtain ⟨agent, member, rfl⟩ := stored
  obtain ⟨-, fits, entries⟩ := StoredAgent.validate_eq_ok (valid.agents agent member)
  refine ⟨⟨snapshot, agent.transcript, event⟩, ?_⟩
  unfold protocol
  rw [Except.mapError_eq_ok, AgentTurnStartResult.new, if_neg (Nat.not_lt.mpr fits),
    Except.bind_eq_ok]
  exact ⟨(), checkAll_eq_ok.mpr entries, rfl⟩

/-- Agents of a document that were interrupted. -/
def interruptedCount (agents : List StoredAgent) : Nat :=
  agents.countP (·.status == .interrupted)

/-- Every snapshot an interrupt makes is of one more interrupted agent. -/
theorem interruptEach_count
    (changed : interruptEach now targets document = .ok (after, snapshots, events)) :
    interruptedCount document.agents + snapshots.length = interruptedCount after.agents ∧
      events.length = snapshots.length := by
  induction targets generalizing document snapshots events with
  | nil =>
      simp only [interruptEach, Except.ok.injEq, Prod.mk.injEq] at changed
      obtain ⟨rfl, rfl, rfl⟩ := changed
      exact ⟨rfl, rfl⟩
  | cons target rest ih =>
      obtain ⟨index, agent, found, rfl, -, unchanged | interrupted⟩ :=
        interruptEach_cons changed
      · exact ih unchanged.2
      · obtain ⟨_, _, _, stopped, continues, rfl, rfl⟩ := interrupted
        obtain ⟨counted, sameLength⟩ := ih continues
        have oneMore : interruptedCount (document.agents.modify index fun _ =>
            agent.setStatus .interrupted now) = interruptedCount document.agents + 1 := by
          obtain ⟨bound, atIndex⟩ := List.getElem?_eq_some_iff.mp found
          rw [List.modify_eq_set_getElem?, found]
          change interruptedCount (document.agents.set index _) = _
          unfold interruptedCount
          rw [List.countP_set bound, atIndex]
          simp [stopped, StoredAgent.setStatus]
        change interruptedCount (document.agents.modify index _) + _ = _ at counted
        rw [oneMore] at counted
        simp only [List.length_cons]
        omega

theorem interrupt_result (valid : after.Valid)
    (changed : interruptEach now targets document = .ok (after, snapshots, events)) :
    protocol (AgentMutationResult.new snapshots events) = .ok ⟨snapshots, events⟩ := by
  obtain ⟨counted, sameLength⟩ := interruptEach_count changed
  have bound : interruptedCount after.agents ≤ after.agents.length := List.countP_le_length
  have few := valid.count
  unfold maxAgentCount at few
  unfold protocol
  rw [Except.mapError_eq_ok, AgentMutationResult.new, if_neg, if_neg]
  · unfold maxAgentEvents
    omega
  · unfold maxAgentCount
    omega

theorem perform_spec (size : Encoder) (action : StoreAction) (files : Files) :
    (action.perform size).wp (CallEnd action files) files := by
  obtain ⟨store, loadedAt, call⟩ := action
  cases call with
  | spawn now request =>
      refine wp_discard_of (wp_mono (operate_spec store size loadedAt _ _ _ _ files)
        fun result final ended => ended.callEnd ?_ ?_)
      · rintro loaded document ⟨stored, event⟩ fits changes
        exact .single (spawnIn_step fits changes).1
      · rintro loaded document ⟨stored, event⟩ fits changes valid
        have member := (spawnIn_step fits changes).2
        refine ⟨⟨stored.view, event⟩, ?_⟩
        simp [(StoredAgent.validate_eq_ok (valid.agents stored member)).1]
  | startTurn now request =>
      refine wp_discard_of (wp_mono (operate_spec store size loadedAt _ _ _ _ files)
        fun result final ended => ended.callEnd ?_ ?_)
      · rintro loaded document ⟨snapshot, transcript, event⟩ fits changes
        exact .single (startTurnIn_step fits changes).1
      · rintro loaded document ⟨snapshot, transcript, event⟩ fits changes valid
        exact startTurn_result valid (startTurnIn_step fits changes).2
  | completeTurn now request =>
      refine wp_discard_of (wp_mono (operate_spec store size loadedAt _ _ _ _ files)
        fun result final ended => ended.callEnd ?_ ?_)
      · rintro loaded document ⟨snapshot, event⟩ - changes
        exact .single (completeTurnIn_step changes)
      · rintro loaded document ⟨snapshot, event⟩ - - -
        exact ⟨_, rfl⟩
  | failTurn now request =>
      refine wp_discard_of (wp_mono (operate_spec store size loadedAt _ _ _ _ files)
        fun result final ended => ended.callEnd ?_ ?_)
      · rintro loaded document ⟨snapshot, event⟩ - changes
        exact .single (failTurnIn_step changes)
      · rintro loaded document ⟨snapshot, event⟩ - - -
        exact ⟨_, rfl⟩
  | interrupt now request =>
      refine wp_discard_of (wp_mono (operate_spec store size loadedAt _ _ _ _ files)
        fun result final ended => ended.callEnd ?_ ?_)
      · rintro loaded document ⟨snapshots, events⟩ - changes
        exact interruptIn_steps changes
      · rintro loaded document ⟨snapshots, events⟩ - changes valid
        simp only [interruptIn, Except.bind_eq_ok] at changes
        obtain ⟨_, -, each⟩ := changes
        exact ⟨_, interrupt_result valid each⟩
  | list =>
      apply wp_discard_of
      simp only [CoordinatorStore.list, wp_bind]
      refine wp_mono (loadOrNew_spec store size loadedAt files) ?_
      rintro result middle ⟨loads, failed⟩
      cases result with
      | error error =>
          rw [failed error rfl]
          exact ⟨.inl rfl, fun _ _ => .inl rfl⟩
      | ok loaded =>
          have ended : ∀ result : StoreResult AgentListResult,
              CallEnd ⟨store, loadedAt, .list⟩ files (result.map fun _ => ()) middle :=
            fun _ => ⟨.inr (.inl ⟨loaded, loads loaded rfl⟩),
              fun _ _ => .inr ⟨loaded, loads loaded rfl⟩⟩
          simp only [andThen_ok, wp_bind, wp_ofExcept]
          cases loaded.agents.mapM StoredAgent.snapshot with
          | error error => exact ended (.error error)
          | ok agents =>
              rw [andThen_ok, wp_ofExcept]
              exact ended _

end MultiAgent
end YunXi
