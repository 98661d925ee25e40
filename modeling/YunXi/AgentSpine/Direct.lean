import YunXi.AgentSpine.Approval
import YunXi.AgentSpine.Lifecycle

/-!
# The approval-aware path beside the direct path

A turn is run twice from the same agent: directly, and on the approval-aware
path with every request answered at once.  The direct path counts a call for
each call it runs.  The approval-aware path counts a call when it is tried, and
once more when it is tried again after its approval, so the two reports differ
as soon as the turn reaches a call that the broker does not run unasked.
-/

namespace YunXi
namespace AgentSpine

open Fallible
open Protocol

variable {σ : Type}

/-- What a caller supplies for both paths: the tools are a catalog and an executing
hook, and a policy decides which calls need an approval. -/
structure Behaviour (σ : Type) where
  complete : ModelRequest → SharedToken σ → Fallible σ ComponentError ChatResult
  assemble : ContextAssemblyRequest → Fallible σ ComponentError ChatRequest
  catalog : Fallible σ ComponentError ToolCatalog
  execute : ExecuteHook σ
  policy : ToolRequest → Except ComponentError ToolDecision := requireApproval

variable (behaviour : Behaviour σ)

/-- The components of a behaviour. -/
def Behaviour.components : Components σ where
  complete := behaviour.complete
  assemble := behaviour.assemble
  tools := {
    catalog := behaviour.catalog
    execute := behaviour.execute
    decide := fun request => Fallible.ofExcept (behaviour.policy request) }

/-- The components with an executing hook that notes its calls. -/
def Behaviour.observed (behaviour : Behaviour σ) : Components (Observed σ) :=
  behaviour.components.observedBy behaviour.components.tools.observed

/-- Answer requests one after the other until the turn ends; `none` when the answers
run out first. -/
def Agent.answerAll (components : Components σ)
    (answer : ToolApprovalRequest → ToolApprovalDecision) (cancellation : SharedToken σ) :
    Nat → AgentTurnOutcome → AgentProgram σ (Option TurnResult)
  | _, .completed result => pure (some result)
  | 0, .awaitingApproval _ => pure none
  | answers + 1, .awaitingApproval request => do
      let outcome ← approvePendingTool components (answer request) cancellation
      answerAll components answer cancellation answers outcome

/-- A turn on the approval-aware path with every request answered at once. -/
def Agent.runTurnAnswered (components : Components σ)
    (answer : ToolApprovalRequest → ToolApprovalDecision)
    (userMessage : ChatMessage) (cancellation : SharedToken σ) :
    AgentProgram σ (Option TurnResult) := do
  let outcome ← runTurnWithApproval components userMessage cancellation
  let agent ← get
  answerAll components answer cancellation agent.config.budget.maxToolCalls outcome

/-- What a caller sees of a turn: the calls that were executed, the response or the
error, and the round, model-call and tool-call counters of its snapshot. -/
structure TurnReport where
  calls : List ToolRequest
  response : Except AgentError (Option ChatResult)
  usage : Option (Nat × Nat × Nat)

def TurnReport.of (run : Except AgentError (Option TurnResult) × Agent (Observed σ)) :
    TurnReport where
  calls := run.2.calls
  response := run.1.map (Option.map TurnResult.response)
  usage := run.2.lastTurn.map fun snapshot =>
    (snapshot.round, snapshot.modelCalls, snapshot.toolCalls)

/-- The report of the direct path. -/
def Agent.directReport (agent : Agent (Observed σ))
    (userMessage : ChatMessage) (cancellation : SharedToken σ) : TurnReport :=
  .of ((do
    let result ← runTurn behaviour.observed userMessage cancellation.observed
    return some result).exec agent)

variable (answer : ToolApprovalRequest → ToolApprovalDecision)

/-- The report of the approval-aware path. -/
def Agent.answeredReport (agent : Agent (Observed σ))
    (userMessage : ChatMessage) (cancellation : SharedToken σ) : TurnReport :=
  .of ((runTurnAnswered behaviour.observed answer userMessage
    cancellation.observed).exec agent)

section Unasked

variable (behaviour : Behaviour σ) (budget : TurnBudget) (turnId : String)

/-- Every call the batch reaches is one the policy runs unasked. -/
def CallsUnasked (batch : ToolCallBatch) (cancellation : SharedToken σ) :
    List (ToolCall × Nat) → Live (Observed σ) → Prop
  | [], _ => True
  | (call, index) :: calls, live =>
      (live.Admits budget cancellation.observed →
        behaviour.policy ⟨turnId, batch.round, call⟩ = .ok .execute) ∧
      match (processCall behaviour.observed budget turnId batch none
        cancellation.observed .legacy call index).exec live with
      | (.ok none, live) => CallsUnasked batch cancellation calls live
      | _ => True

/-- Every call the rounds reach is one the policy runs unasked. -/
def RoundsUnasked (userMessage : ChatMessage) (cancellation : SharedToken σ) :
    Nat → Nat → Live (Observed σ) → Prop
  | 0, _, _ => True
  | remaining + 1, round, live =>
      match (askModel behaviour.observed budget turnId userMessage
        cancellation.observed round).exec live with
      | (.error _, _) => True
      | (.ok response, live) =>
          match (acceptResponse budget turnId round response).exec live with
          | (.error _, _) | (.ok none, _) => True
          | (.ok (some batch), live) =>
              CallsUnasked behaviour budget turnId batch cancellation batch.calls.zipIdx
                live ∧
              match (processToolBatch behaviour.observed budget turnId batch 0 none
                cancellation.observed .legacy).exec live, nextRound budget round with
              | (.ok none, live), .ok round =>
                  RoundsUnasked userMessage cancellation remaining round live
              | _, _ => True

/-- If the turn is admitted, every call it reaches is one the policy runs unasked. -/
def Agent.RunsUnasked (agent : Agent (Observed σ)) (userMessage : ChatMessage)
    (cancellation : SharedToken σ) : Prop :=
  ∀ turnId started live,
    (startTurn "start a turn" userMessage cancellation.observed).exec agent =
      (.ok turnId, started) →
    (TurnProgram.record (.turnStarted turnId userMessage)).exec
      (agent.newLive started.components) = (.ok (), live) →
    RoundsUnasked behaviour agent.config.budget turnId userMessage cancellation
      agent.config.budget.maxRounds 1 live

end Unasked

variable {cancellation : SharedToken σ} {live : Live (Observed σ)} {batch : ToolCallBatch}
  {userMessage : ChatMessage}

section Alike

variable {behaviour : Behaviour σ} {budget : TurnBudget} {turnId : String}

/-- A call the policy runs unasked runs as on the direct path. -/
theorem exec_executeTool_unasked {request : ToolRequest}
    (unasked : behaviour.policy request = .ok .execute)
    (cancellation : SharedToken (Observed σ)) (state : Observed σ) :
    (executeTool behaviour.observed .approvalAware request none cancellation).exec state =
      (executeTool behaviour.observed .legacy request none cancellation).exec state := by
  have decision : (behaviour.observed.tools.decide request).exec state =
      (.ok .execute, state) := by
    change ((Fallible.ofExcept (behaviour.policy request)).onFirst.exec state) = _
    rw [unasked]
    rfl
  change ((behaviour.observed.tools.decide request) >>= _).exec state = _
  rw [exec_bind, decision]
  rfl

theorem exec_processCall_unasked {call : ToolCall} {index : Nat}
    (unasked : live.Admits budget cancellation.observed →
      behaviour.policy ⟨turnId, batch.round, call⟩ = .ok .execute) :
    (processCall behaviour.observed budget turnId batch none cancellation.observed
      .approvalAware call index).exec live =
    (processCall behaviour.observed budget turnId batch none cancellation.observed
      .legacy call index).exec live := by
  unfold processCall
  rw [exec_bind, exec_bind]
  obtain ⟨admits, admitted⟩ | ⟨-, error, refused⟩ :=
    exec_admitCall budget cancellation.observed live
  · rw [admitted]
    dsimp only
    unfold TurnProgram.tryComponent Fallible.attempt
    rw [exec_bind, exec_bind, exec_ofFunction,
      exec_ofFunction, exec_executeTool_unasked (unasked admits)]
  · rw [refused]

theorem exec_processCalls_unasked {entries : List (ToolCall × Nat)} (startCall : Nat)
    (unasked : CallsUnasked behaviour budget turnId batch cancellation entries live) :
    (processCalls behaviour.observed budget turnId batch startCall none
      cancellation.observed .approvalAware entries).exec live =
    (processCalls behaviour.observed budget turnId batch startCall none
      cancellation.observed .legacy entries).exec live := by
  induction entries generalizing live with
  | nil => rfl
  | cons entry entries ih =>
      unfold processCalls
      rw [exec_bind, exec_bind, Option.filter_none,
        exec_processCall_unasked unasked.1]
      have rest := unasked.2
      generalize (processCall behaviour.observed budget turnId batch none
        cancellation.observed .legacy entry.1 entry.2).exec live = ran at rest ⊢
      obtain ⟨result, middle⟩ := ran
      cases result with
      | error error => rfl
      | ok pending =>
          cases pending with
          | some pending => rfl
          | none => exact ih rest

theorem exec_turnLoop_unasked {remaining round : Nat}
    (unasked : RoundsUnasked behaviour budget turnId userMessage cancellation remaining
      round live) :
    (turnLoop behaviour.observed budget turnId userMessage cancellation.observed
      .approvalAware none remaining round).exec live =
    (turnLoop behaviour.observed budget turnId userMessage cancellation.observed
      .legacy none remaining round).exec live := by
  induction remaining generalizing round live with
  | zero => rfl
  | succ remaining ih =>
      unfold turnLoop
      rw [exec_bind, exec_bind]
      unfold RoundsUnasked at unasked
      generalize (askModel behaviour.observed budget turnId userMessage
        cancellation.observed round).exec live = asked at unasked ⊢
      match asked with
      | (.error error, answered) => rfl
      | (.ok response, answered) =>
          dsimp only at unasked ⊢
          rw [exec_bind, exec_bind]
          generalize (acceptResponse budget turnId round response).exec answered =
            accepts at unasked ⊢
          match accepts with
          | (.error error, accepted) => rfl
          | (.ok none, accepted) => rfl
          | (.ok (some batch), accepted) =>
              dsimp only at unasked ⊢
              rw [exec_bind, exec_bind]
              have alike := exec_processCalls_unasked 0 unasked.1
              have rest := unasked.2
              unfold processToolBatch at rest ⊢
              rw [List.drop_zero] at rest ⊢
              rw [alike]
              generalize (processCalls behaviour.observed budget turnId batch 0 none
                cancellation.observed .legacy batch.calls.zipIdx).exec accepted =
                processed at rest ⊢
              match processed with
              | (.error error, ran) => rfl
              | (.ok (some pending), ran) => rfl
              | (.ok none, ran) =>
                  dsimp only at rest ⊢
                  rw [exec_bind, exec_bind, exec_ofExcept]
                  cases next : nextRound budget round with
                  | error error => rfl
                  | ok round =>
                      rw [next] at rest
                      exact ih rest

end Alike

/-- The turn counted at least `extra` calls more than it executed. -/
def Surplus (extra : Nat) (before after : Live (Observed σ)) : Prop :=
  before.tracker.toolCalls + after.components.2.length + extra ≤
    after.tracker.toolCalls + before.components.2.length

/-- The turn counted exactly the calls it executed. -/
def Balanced (before after : Live (Observed σ)) : Prop :=
  before.tracker.toolCalls + after.components.2.length =
    after.tracker.toolCalls + before.components.2.length

instance : Std.Refl (Surplus (σ := σ) 0) where
  refl _ := Nat.le_refl _

variable {before after : Live (Observed σ)}

theorem Surplus.trans {first second : Nat} {middle : Live (Observed σ)}
    (earlier : Surplus first before middle) (later : Surplus second middle after) :
    Surplus (first + second) before after := by
  unfold Surplus at *
  omega

instance : IsTrans (Live (Observed σ)) (Surplus 0) where
  trans _ _ _ earlier later := earlier.trans later

instance : Std.Refl (Balanced (σ := σ)) where
  refl _ := rfl

instance : IsTrans (Live (Observed σ)) Balanced where
  trans _ _ _ earlier later := by
    unfold Balanced at *
    omega

section Counting

variable (behaviour : Behaviour σ) (budget : TurnBudget) (turnId : String)

/-- Neither calls nor their count change between two states. -/
def Idle (before after : Live (Observed σ)) : Prop :=
  after.tracker.toolCalls = before.tracker.toolCalls ∧
    after.components.2 = before.components.2

theorem Idle.surplus (idle : Idle before after) :
    Surplus 0 before after := by
  unfold Surplus
  rw [idle.1, idle.2]
  omega

theorem Idle.balanced (idle : Idle before after) :
    Balanced before after := by
  unfold Balanced
  rw [idle.1, idle.2]

theorem idle_of_logsOnly (logsOnly : LogsOnly before after) :
    Idle before after :=
  ⟨congrArg TurnTracker.toolCalls logsOnly.tracker, congrArg Prod.snd logsOnly.components⟩

/-- A relation that allows idle steps is kept by the parts of a round. -/
theorem roundClosed_of_idle {related : Live (Observed σ) → Live (Observed σ) → Prop}
    (allows : ∀ before after, Idle before after → related before after)
    (cancellation : SharedToken σ) :
    RoundClosed behaviour.observed turnId cancellation.observed related where
  record event _ _ _ live :=
    allows _ _ (idle_of_logsOnly (TurnProgram.logsOnly_record event live))
  checkCancellation _ := allows _ _ ⟨rfl, rfl⟩
  catalog _ := allows _ _ ⟨rfl, rfl⟩
  assemble _ _ := allows _ _ ⟨rfl, rfl⟩
  complete _ _ := allows _ _ ⟨rfl, rfl⟩
  updateTracker _ toolCalls _ live := allows _ _ ⟨toolCalls live.tracker, rfl⟩

/-- The calls an execution noted. -/
theorem calls_executeTool_legacy (request : ToolRequest)
    (approval : Option ToolApprovalDecision) (cancellation : SharedToken (Observed σ))
    (state : Observed σ) :
    ((executeTool behaviour.observed .legacy request approval cancellation).exec
      state).2.2 = state.2 ++ [request] := by
  rw [exec_executeTool_legacy]
  change ((noteCall request _).exec state).2.2 = _
  rw [exec_noteCall]

theorem calls_executeTool_asked {request : ToolRequest}
    (asked : behaviour.policy request ≠ .ok .execute)
    (cancellation : SharedToken (Observed σ)) (state : Observed σ) :
    ((executeTool behaviour.observed .approvalAware request none cancellation).exec
      state).2.2 = state.2 :=
  quiet_without_approval .broker request cancellation state asked

theorem calls_executeTool_le (request : ToolRequest)
    (approval : Option ToolApprovalDecision) (cancellation : SharedToken (Observed σ))
    (state : Observed σ) :
    ((executeTool behaviour.observed .approvalAware request approval cancellation).exec
      state).2.2.length ≤ state.2.length + 1 := by
  cases approval with
  | none =>
      by_cases unasked : behaviour.policy request = .ok .execute
      · rw [exec_executeTool_unasked unasked, calls_executeTool_legacy]
        simp
      · rw [calls_executeTool_asked behaviour unasked]
        omega
  | some decision =>
      obtain same | ⟨-, -, noted⟩ :=
        @notes_with_approval _ behaviour.components _ _ .broker request decision
          cancellation state
      · exact (congrArg List.length same).trans_le (Nat.le_succ _)
      · exact ((congrArg List.length noted).trans (by simp)).le

/-- The direct path counts exactly the calls it executes. -/
theorem callClosed_balanced (cancellation : SharedToken σ) :
    RoundClosed.CallClosed budget .legacy none behaviour.observed turnId
      cancellation.observed Balanced := by
  intro batch call index used _ before
  have counts := processCall_counts behaviour.observed budget turnId batch used
    cancellation.observed .legacy call index before
  unfold wp at counts
  obtain ⟨-, tracker, components⟩ | ⟨-, counted, components⟩ := counts
  · exact Idle.balanced ⟨congrArg TurnTracker.toolCalls tracker, by rw [components]; rfl⟩
  · unfold Balanced
    rw [counted, components, calls_executeTool_legacy, List.length_append]
    change before.tracker.toolCalls + (before.components.2.length + 1) = _
    omega

/-- The approval-aware path counts every call it executes. -/
theorem callClosed_surplus (approval : Option ToolApprovalDecision)
    (cancellation : SharedToken σ) :
    RoundClosed.CallClosed budget .approvalAware approval behaviour.observed turnId
      cancellation.observed (Surplus 0) := by
  intro batch call index used _ before
  have counts := processCall_counts behaviour.observed budget turnId batch used
    cancellation.observed .approvalAware call index before
  unfold wp at counts
  obtain ⟨-, tracker, components⟩ | ⟨-, counted, components⟩ := counts
  · exact Idle.surplus ⟨congrArg TurnTracker.toolCalls tracker, by rw [components]; rfl⟩
  · have executed := calls_executeTool_le behaviour ⟨turnId, batch.round, call⟩ used
      cancellation.observed (cancellation.observed before.components).2
    change _ ≤ before.components.2.length + 1 at executed
    unfold Surplus
    rw [counted, components]
    omega

/-- A call that needs an approval is counted and not executed. -/
theorem processCall_asked {call : ToolCall} {index : Nat}
    (admits : before.Admits budget cancellation.observed)
    (asked : behaviour.policy ⟨turnId, batch.round, call⟩ ≠ .ok .execute) :
    (processCall behaviour.observed budget turnId batch none cancellation.observed
      .approvalAware call index).wp (fun _ after => Surplus 1 before after) before := by
  refine wp_mono (processCall_counts behaviour.observed budget turnId batch none
    cancellation.observed .approvalAware call index before) ?_
  rintro _ after (⟨refused, -, -⟩ | ⟨-, counted, components⟩)
  · exact absurd admits refused
  · unfold Surplus
    rw [counted, components, calls_executeTool_asked behaviour asked]
    change before.tracker.toolCalls + before.components.2.length + 1 ≤ _
    omega

variable {behaviour budget turnId}

/-- A batch that reaches a call that needs an approval counts it without executing it. -/
theorem processCalls_asked {entries : List (ToolCall × Nat)} (startCall : Nat)
    (asked : ¬ CallsUnasked behaviour budget turnId batch cancellation entries before) :
    (processCalls behaviour.observed budget turnId batch startCall none
      cancellation.observed .approvalAware entries).wp
      (fun _ after => Surplus 1 before after) before := by
  have closed := callClosed_surplus behaviour budget turnId none cancellation
  induction entries generalizing before with
  | nil => exact absurd trivial asked
  | cons entry entries ih =>
      unfold processCalls
      rw [Option.filter_none]
      by_cases unasked : before.Admits budget cancellation.observed →
          behaviour.policy ⟨turnId, batch.round, entry.1⟩ = .ok .execute
      · -- The first call runs as on the direct path, so a later one needs the approval.
        unfold CallsUnasked at asked
        rw [not_and] at asked
        have rest := asked unasked
        have first : Surplus 0 before _ := closed batch entry.1 entry.2 none (.inl rfl) before
        unfold wp
        rw [exec_bind]
        rw [exec_processCall_unasked unasked] at first ⊢
        generalize (processCall behaviour.observed budget turnId batch none
          cancellation.observed .legacy entry.1 entry.2).exec before = ran at first rest ⊢
        obtain ⟨result, middle⟩ := ran
        cases result with
        | error error => exact absurd trivial rest
        | ok pending =>
            cases pending with
            | some pending => exact absurd trivial rest
            | none => exact first.trans (ih rest)
      · rw [Classical.not_imp] at unasked
        refine wp_bind_of (processCall_asked behaviour budget turnId unasked.1
          unasked.2) ?_ (fun _ _ surplus => surplus)
        intro pending middle surplus
        cases pending with
        | some pending => exact surplus
        | none =>
            refine wp_mono
              ((RoundClosed.processCalls closed batch startCall entries).wp middle) ?_
            exact fun _ _ rest => surplus.trans rest

/-- A turn that reaches a call that needs an approval counts more calls than it
executes. -/
theorem turnLoop_asked {remaining round : Nat}
    (asked : ¬ RoundsUnasked behaviour budget turnId userMessage cancellation remaining
      round before) :
    (turnLoop behaviour.observed budget turnId userMessage cancellation.observed
      .approvalAware none remaining round).wp
      (fun _ after => Surplus 1 before after) before := by
  have closed := roundClosed_of_idle behaviour turnId (fun _ _ => Idle.surplus) cancellation
  have logs : ∀ event : SessionEvent, event.turnId = turnId →
      Preserves (Surplus 0) (TurnProgram.record event : TurnProgram (Observed σ) Unit) :=
    fun _ _ live => (idle_of_logsOnly (TurnProgram.logsOnly_record _ live)).surplus
  have calls := callClosed_surplus behaviour budget turnId none cancellation
  induction remaining generalizing round before with
  | zero => exact absurd trivial asked
  | succ remaining ih =>
      unfold RoundsUnasked at asked
      have asking := closed.askModel budget userMessage round before
      unfold turnLoop wp
      rw [exec_bind]
      generalize (askModel behaviour.observed budget turnId userMessage
        cancellation.observed round).exec before = answered at asked asking ⊢
      match answered with
      | (.error error, middle) => exact absurd trivial asked
      | (.ok response, middle) =>
          dsimp only at asked asking ⊢
          have accepting := closed.acceptResponse logs budget round response middle
          rw [exec_bind]
          generalize (acceptResponse budget turnId round response).exec middle = accepted
            at asked accepting ⊢
          match accepted with
          | (.error error, logged) => exact absurd trivial asked
          | (.ok none, logged) => exact absurd trivial asked
          | (.ok (some batch), logged) =>
              dsimp only at asked accepting ⊢
              have reached := asking.trans accepting
              by_cases unasked : CallsUnasked behaviour budget turnId batch cancellation
                  batch.calls.zipIdx logged
              · rw [not_and] at asked
                have rest := asked unasked
                have ran := RoundClosed.processCalls calls batch 0 batch.calls.zipIdx logged
                unfold processToolBatch at rest ⊢
                rw [List.drop_zero] at rest ⊢
                rw [exec_bind]
                rw [exec_processCalls_unasked 0 unasked] at ran ⊢
                generalize (processCalls behaviour.observed budget turnId batch 0 none
                  cancellation.observed .legacy batch.calls.zipIdx).exec logged = processed
                  at rest ran ⊢
                match processed with
                | (.error error, final) => exact absurd trivial rest
                | (.ok (some pending), final) => exact absurd trivial rest
                | (.ok none, final) =>
                    dsimp only at rest ran ⊢
                    rw [exec_bind, exec_ofExcept]
                    cases next : nextRound budget round with
                    | error error =>
                        rw [next] at rest
                        exact absurd trivial rest
                    | ok round =>
                        rw [next] at rest
                        exact (reached.trans ran).trans (ih rest)
              · have processing : wp _ _ logged := processCalls_asked 0 unasked
                change wp _ (fun _ after => Surplus 1 before after) logged
                refine wp_bind_of processing ?_
                  (fun _ _ surplus => reached.trans surplus)
                intro pending processed surplus
                cases pending with
                | some pending => exact reached.trans surplus
                | none =>
                    have counting : Preserves (Surplus 0)
                        (Fallible.ofExcept (nextRound budget round) :
                          TurnProgram (Observed σ) Nat) := .ofExcept _
                    refine counting.wp_bind ?_ (fun _ _ later => (reached.trans surplus).trans later)
                    intro round middle later
                    refine wp_mono ((closed.turnLoop logs calls userMessage
                      remaining round).wp middle) ?_
                    exact fun _ _ rest => ((reached.trans surplus).trans later).trans rest

end Counting

/-- The report of a turn that ended with an outcome. -/
def TurnReport.ofTurn (outcome : Except AgentError InnerTurnOutcome)
    (live : Live (Observed σ)) : TurnReport where
  calls := live.components.2
  response := outcome.map fun
    | .completed response => some response
    | .awaitingApproval _ => none
  usage := some (live.tracker.round, live.tracker.modelCalls, live.tracker.toolCalls)

variable {agent : Agent (Observed σ)}

namespace Agent

section Reports

variable {behaviour : Behaviour σ} {agent started : Agent (Observed σ)}
variable {userMessage : ChatMessage} {cancellation : SharedToken σ} {turnId : String}
variable {answer : ToolApprovalRequest → ToolApprovalDecision} {live : Live (Observed σ)}
variable {outcome : Except AgentError InnerTurnOutcome}

/-- The turn program a path runs once its turn is admitted. -/
def pathProgram (behaviour : Behaviour σ) (agent : Agent (Observed σ))
    (mode : ExecutionMode) (turnId : String) (userMessage : ChatMessage)
    (cancellation : SharedToken σ) : TurnProgram (Observed σ) InnerTurnOutcome :=
  runTurnInner behaviour.observed agent.config.budget turnId userMessage
    cancellation.observed 1 true mode none

/-- The parts of an admitted turn. -/
def startedLive (started : Agent (Observed σ)) (turnId : String) : Live (Observed σ) :=
  ⟨started.session, .new turnId, started.components⟩

/-- The name of the operation only appears in the refusal of a busy agent. -/
theorem startTurn_congr (first second : String) (ready : agent.state = .ready)
    (userMessage : ChatMessage) (cancellation : SharedToken (Observed σ)) :
    (startTurn first userMessage cancellation).exec agent =
      (startTurn second userMessage cancellation).exec agent := by
  unfold startTurn
  simp only [exec_bind, exec_get, throwIf, ready, ne_eq,
    not_true_eq_false, if_false, exec_ofExcept]

/-- Both paths admit a turn alike or refuse it alike. -/
theorem startTurn_alike (ready : agent.state = .ready) (userMessage : ChatMessage)
    (cancellation : SharedToken σ) :
    (∃ turnId started,
      started.config = agent.config ∧
      started.startedLive turnId = agent.newLive started.components ∧
      (startTurn "start a turn" userMessage cancellation.observed).exec agent =
        (.ok turnId, started) ∧
      (startTurn "start an approval-aware turn" userMessage cancellation.observed).exec
        agent = (.ok turnId, started)) ∨
    ∃ error refused,
      (startTurn "start a turn" userMessage cancellation.observed).exec agent =
        (.error error, refused) ∧
      (startTurn "start an approval-aware turn" userMessage cancellation.observed).exec
        agent = (.error error, refused) := by
  have same := startTurn_congr "start a turn" "start an approval-aware turn" ready
    userMessage cancellation.observed
  obtain ⟨-, -, -, admitted⟩ | ⟨error, state, -, refused⟩ :=
    startTurn_cases agent "start a turn" userMessage cancellation.observed
  · exact .inl ⟨_, agent.started (cancellation.observed agent.components).2, rfl, rfl,
      admitted, same.symm.trans admitted⟩
  · exact .inr ⟨error, _, refused, same.symm.trans refused⟩

/-- A program of the direct path is never suspended. -/
theorem ended_of_legacy
    (ran : (started.pathProgram behaviour .legacy turnId userMessage cancellation).exec
      before = (outcome, live)) :
    ∀ pending, outcome ≠ .ok (.awaitingApproval pending) :=
  of_wp (runTurnInner_legacy _ _ turnId userMessage _ 1 true none before) ran

/-- The direct path reports how its program ended. -/
theorem directReport_of_admitted
    (admitted : (startTurn "start a turn" userMessage cancellation.observed).exec agent =
      (.ok turnId, started))
    (ran : (started.pathProgram behaviour .legacy turnId userMessage cancellation).exec
      (started.startedLive turnId) = (outcome, live))
    (ended : ∀ pending, outcome ≠ .ok (.awaitingApproval pending)) :
    agent.directReport behaviour userMessage cancellation = .ofTurn outcome live := by
  unfold pathProgram startedLive at ran
  unfold directReport runTurn
  simp only [exec_bind, admitted, exec_get, runLive,
    exec_ofFunction, ran]
  match outcome with
  | .ok (.completed response) => rfl
  | .ok (.awaitingApproval pending) => exact absurd rfl (ended pending)
  | .error error =>
      unfold finishDirectTurn closeTurn TurnTracker.closeWith
      cases error <;> rfl

/-- The first operation of the approval-aware path. -/
theorem exec_runTurnWithApproval_of_admitted
    (admitted : (startTurn "start an approval-aware turn" userMessage
      cancellation.observed).exec agent = (.ok turnId, started))
    (ran : (started.pathProgram behaviour .approvalAware turnId userMessage
      cancellation).exec (started.startedLive turnId) = (outcome, live)) :
    (runTurnWithApproval behaviour.observed userMessage cancellation.observed).exec agent =
      (finishTurnOutcome outcome live.tracker userMessage).exec
        { started with session := live.session, components := live.components } := by
  unfold pathProgram startedLive at ran
  unfold runTurnWithApproval
  simp only [exec_bind, admitted, exec_get, runLive,
    exec_ofFunction, ran]

/-- A turn that is not suspended is reported by its first operation. -/
theorem answeredReport_of_admitted
    (admitted : (startTurn "start an approval-aware turn" userMessage
      cancellation.observed).exec agent = (.ok turnId, started))
    (ran : (started.pathProgram behaviour .approvalAware turnId userMessage
      cancellation).exec (started.startedLive turnId) = (outcome, live))
    (ended : ∀ pending, outcome ≠ .ok (.awaitingApproval pending)) :
    agent.answeredReport behaviour answer userMessage cancellation =
      .ofTurn outcome live := by
  unfold answeredReport runTurnAnswered
  rw [exec_bind, exec_runTurnWithApproval_of_admitted admitted ran]
  match outcome with
  | .ok (.completed response) =>
      unfold finishTurnOutcome
      simp only [exec_bind, exec_modify, exec_pure,
        exec_get]
      cases started.config.budget.maxToolCalls <;> rfl
  | .ok (.awaitingApproval pending) => exact absurd rfl (ended pending)
  | .error error =>
      unfold finishTurnOutcome closeTurn TurnTracker.closeWith
      cases error <;> rfl

/-- If the policy runs every call unasked, both programs run alike. -/
theorem exec_pathProgram_unasked
    (admitted : (startTurn "start a turn" userMessage cancellation.observed).exec agent =
      (.ok turnId, started))
    (config : started.config = agent.config)
    (sameLive : started.startedLive turnId = agent.newLive started.components)
    (unasked : agent.RunsUnasked behaviour userMessage cancellation) :
    (started.pathProgram behaviour .approvalAware turnId userMessage cancellation).exec
        (started.startedLive turnId) =
      (started.pathProgram behaviour .legacy turnId userMessage cancellation).exec
        (started.startedLive turnId) := by
  unfold pathProgram runTurnInner
  have rounds := unasked turnId started
  rw [sameLive, config, exec_bind, exec_bind]
  simp only [if_true]
  generalize (TurnProgram.record (.turnStarted turnId userMessage)).exec
    (agent.newLive started.components) = recorded at rounds ⊢
  match recorded with
  | (.error error, middle) => rfl
  | (.ok passed, middle) => exact exec_turnLoop_unasked (rounds middle admitted rfl)

/-- Otherwise the approval-aware program counts a call it does not execute. -/
theorem pathProgram_asked (config : started.config = agent.config)
    (sameLive : started.startedLive turnId = agent.newLive started.components)
    {recorded : Live (Observed σ)}
    (records : (TurnProgram.record (.turnStarted turnId userMessage)).exec
      (agent.newLive started.components) = (.ok (), recorded))
    (asked : ¬ RoundsUnasked behaviour agent.config.budget turnId userMessage cancellation
      agent.config.budget.maxRounds 1 recorded) :
    (started.pathProgram behaviour .approvalAware turnId userMessage cancellation).wp
      (fun _ after => Surplus 1 (started.startedLive turnId) after)
      (started.startedLive turnId) := by
  unfold pathProgram runTurnInner wp
  rw [sameLive, config, exec_bind]
  simp only [if_true, records]
  have recording : Surplus 0 (agent.newLive started.components) recorded := by
    have idle := idle_of_logsOnly (TurnProgram.logsOnly_record
      (.turnStarted turnId userMessage) (agent.newLive started.components))
    rw [records] at idle
    exact idle.surplus
  exact recording.trans (turnLoop_asked asked)

end Reports

section Endings

variable (components : Components σ) {answer : ToolApprovalRequest → ToolApprovalDecision}
  {cancellation : SharedToken σ}

/-- With an answer for every call left in the budget, and one more, the turn ends. -/
theorem answerAll_ends
    (matching : ∀ request, validatePendingDecision request (answer request) = .ok ())
    (live : ∀ state, (cancellation state).1.check = .ok ())
    {budget : TurnBudget} {kept : Option PendingTurn} {calls : Nat} (answers : Nat)
    (enough : budget.maxToolCalls ≤ calls + answers) {agent : Agent σ}
    {outcome : AgentTurnOutcome} (left : TurnLeft budget kept calls (.ok outcome) agent) :
    (answerAll components answer cancellation answers outcome).wp
      (fun result final => result ≠ .ok none ∧ final.state = .ready ∧
        (final.pendingTurn = none ∨ final.pendingTurn = kept)) agent := by
  induction answers generalizing agent calls kept outcome with
  | zero =>
      cases left with
      | ended answered ready released config =>
          cases outcome with
          | completed result => exact ⟨by simp [answerAll], ready, released⟩
          | awaitingApproval request => exact absurd rfl (answered request)
      | waits pending awaiting suspended config counted bounded => omega
  | succ answers ih =>
      cases left with
      | ended answered ready released config =>
          cases outcome with
          | completed result => exact ⟨by simp [answerAll], ready, released⟩
          | awaitingApproval request => exact absurd rfl (answered request)
      | waits pending awaiting suspended config counted bounded =>
          have next : (approvePendingTool components (answer pending.request)
              cancellation).wp _ agent :=
            approvePendingTool_left suspended (admitApproval_eq_some.mpr
              ⟨awaiting, matching pending.request, live agent.components, rfl⟩)
          rw [config] at next
          unfold answerAll
          refine wp_bind_of next ?_ ?_
          · intro outcome middle left
            refine wp_mono (ih (by omega) left) fun result final ends => ?_
            exact ⟨ends.1, ends.2.1, .inl (by simpa using ends.2.2)⟩
          · intro error middle left
            cases left with
            | ended answered ready released config =>
                exact ⟨by simp, ready, .inl (by simpa using released)⟩

/-- Answering as often as the budget allows calls ends every turn of a ready agent. -/
theorem runTurnAnswered_ends {agent : Agent σ} (ready : agent.state = .ready)
    (matching : ∀ request, validatePendingDecision request (answer request) = .ok ())
    (live : ∀ state, (cancellation state).1.check = .ok ()) (userMessage : ChatMessage) :
    (runTurnAnswered components answer userMessage cancellation).wp
      (fun result final => result ≠ .ok none ∧ final.state = .ready ∧
        (final.pendingTurn = none ∨ final.pendingTurn = agent.pendingTurn)) agent := by
  unfold runTurnAnswered
  refine wp_bind_of (runTurnWithApproval_left ready userMessage cancellation) ?_ ?_
  · intro outcome middle left
    rw [wp_bind, wp_get, andThen_ok]
    rw [left.budget]
    exact answerAll_ends components matching live _ (by omega) left
  · intro error middle left
    cases left with
    | ended answered ready released config => exact ⟨by simp, ready, released⟩

/-- The decision that approves the requested call. -/
def permit (request : ToolApprovalRequest) : ToolApprovalDecision where
  protocolVersion := toolProtocolVersion
  round := request.round
  callId := request.callId
  toolName := request.toolName
  state := .approved "ticket-1"
  valid := by
    unfold validateDecision
    rw [ToolApprovalRequest.round_valid request]
    rfl

/-- The rule applies to a turn whose only call is asked for, approved and run. -/
theorem runTurnAnswered_ends_permitted :
    (runTurnAnswered askingComponents permit (.user "hello") .fresh).wp
      (fun result final => result ≠ .ok none ∧ final.state = .ready ∧
        (final.pendingTurn = none ∨ final.pendingTurn = none))
      (.fresh [askFor [echoCall], .ok (.new "done" none)]) :=
  runTurnAnswered_ends askingComponents rfl
    (fun request => by
      have named : isBlank "ticket-1" = false := by decide
      unfold validatePendingDecision
      rw [ToolApprovalDecision.validate_ok]
      simp [permit, named])
    (fun _ => rfl) _

end Endings

section Answers

variable {behaviour : Behaviour σ}

/-- An agent whose last turn counted a call it did not execute, and whose suspended
turn goes on from there. -/
structure Overcounts (executed : Nat) (agent : Agent (Observed σ)) : Prop where
  reported : ∃ snapshot, agent.lastTurn = some snapshot ∧
    agent.calls.length + 1 ≤ snapshot.toolCalls + executed
  suspended : ∀ pending, agent.state = .awaitingApproval →
    agent.pendingTurn = some pending →
    agent.calls.length + 1 ≤ pending.tracker.toolCalls + executed

theorem overcounts_afterTurn {executed : Nat}
    (agent : Agent (Observed σ)) (userMessage : ChatMessage)
    (outcome : Except AgentError InnerTurnOutcome)
    (surplus : live.components.2.length + 1 ≤ live.tracker.toolCalls + executed) :
    Overcounts executed (agent.afterTurn userMessage outcome live) := by
  match outcome with
  | .ok (.completed _) => exact ⟨⟨_, rfl, surplus⟩, fun _ awaiting => by cases awaiting⟩
  | .ok (.awaitingApproval _) =>
      refine ⟨⟨_, rfl, surplus⟩, fun pending _ kept => ?_⟩
      cases kept
      exact surplus
  | .error error =>
      refine ⟨⟨_, rfl, ?_⟩, fun _ awaiting => by cases awaiting⟩
      unfold TurnTracker.closeWith
      cases error <;> exact surplus

/-- Answering a request never gives the count back. -/
theorem overcounts_approve (behaviour : Behaviour σ) {executed : Nat}
    (overcounts : Overcounts executed agent) (decision : ToolApprovalDecision)
    (cancellation : SharedToken σ) :
    Overcounts executed (agent.perform behaviour.observed
      (AgentOp.approvePendingTool decision cancellation).observed) := by
  have step := agent.perform_step behaviour.observed
    (AgentOp.approvePendingTool decision cancellation).observed
  generalize agent.perform behaviour.observed
    (AgentOp.approvePendingTool decision cancellation).observed = final at step
  unfold AgentOp.observed at step
  cases step with
  | refused state consulted noTurn noCancel =>
      have calls := @Consulted.calls _ _ (.approvePendingTool decision cancellation) _
        consulted
      obtain ⟨snapshot, reported, surplus⟩ := overcounts.reported
      refine ⟨⟨snapshot, reported, ?_⟩, fun pending awaiting kept => ?_⟩
      · change state.2.length + 1 ≤ _
        rwa [calls]
      · change state.2.length + 1 ≤ _
        rw [calls]
        exact overcounts.suspended pending awaiting kept
  | @resumed _ _ state consulted pending outcome live awaiting kept _ _ ran =>
      have calls := @Consulted.calls _ _ (.approvePendingTool decision cancellation) _
        consulted
      have closed := roundClosed_of_idle behaviour pending.tracker.snapshot.id
        (fun _ _ => Idle.surplus) cancellation
      have resumes : Surplus 0 ⟨agent.session, pending.tracker, state⟩ live :=
        of_wp ((closed.continuePendingTurn
          (fun _ _ live => (idle_of_logsOnly (TurnProgram.logsOnly_record _ live)).surplus)
          (callClosed_surplus behaviour agent.config.budget pending.tracker.snapshot.id
            (some decision) cancellation)
          pending.userMessage pending.batch pending.nextCall).wp _) ran
      have surplus := overcounts.suspended pending awaiting kept
      rw [← calls] at surplus
      unfold Surplus at resumes
      dsimp only at resumes
      exact overcounts_afterTurn _ _ _ (by omega)

theorem overcounts_answerAll {executed : Nat}
    (overcounts : Overcounts executed agent)
    (answer : ToolApprovalRequest → ToolApprovalDecision) (cancellation : SharedToken σ)
    (answers : Nat) (outcome : AgentTurnOutcome) :
    Overcounts executed ((answerAll behaviour.observed answer cancellation.observed answers
      outcome).exec agent).2 := by
  induction answers generalizing agent outcome with
  | zero => cases outcome <;> exact overcounts
  | succ answers ih =>
      cases outcome with
      | completed result => exact overcounts
      | awaitingApproval request =>
          have answered := overcounts_approve behaviour overcounts
            (answer request) cancellation
          unfold answerAll
          rw [exec_bind]
          change Overcounts executed ((approvePendingTool behaviour.observed
            (answer request) cancellation.observed).exec agent).2 at answered
          generalize (approvePendingTool behaviour.observed (answer request)
            cancellation.observed).exec agent = ran at answered ⊢
          match ran with
          | (.error error, middle) => exact answered
          | (.ok outcome, middle) => exact ih answered outcome

/-- The answered turn reports more counted calls than executed ones. -/
theorem overcounts_runTurnAnswered {started : Agent (Observed σ)} {turnId : String}
    (admitted : (startTurn "start an approval-aware turn" userMessage
      cancellation.observed).exec agent = (.ok turnId, started))
    (surplus : (started.pathProgram behaviour .approvalAware turnId userMessage
      cancellation).wp (fun _ after => Surplus 1 (started.startedLive turnId) after)
      (started.startedLive turnId)) :
    Overcounts started.calls.length ((runTurnAnswered behaviour.observed answer
      userMessage cancellation.observed).exec agent).2 := by
  unfold wp at surplus
  cases ran : (started.pathProgram behaviour .approvalAware turnId userMessage
    cancellation).exec (started.startedLive turnId) with
  | mk outcome live =>
      rw [ran] at surplus
      unfold Surplus startedLive TurnTracker.new at surplus
      have overcounts : Overcounts started.calls.length
          (started.afterTurn userMessage outcome live) := by
        refine overcounts_afterTurn _ _ _ ?_
        change live.components.2.length + 1 ≤
          live.tracker.toolCalls + started.components.2.length
        dsimp only at surplus
        omega
      rw [← exec_finishTurnOutcome] at overcounts
      unfold runTurnAnswered
      rw [exec_bind, exec_runTurnWithApproval_of_admitted admitted ran]
      generalize (finishTurnOutcome outcome live.tracker userMessage).exec
        { started with session := live.session, components := live.components } =
        finished at overcounts ⊢
      match finished with
      | (.error error, middle) => exact overcounts
      | (.ok outcome, middle) =>
          dsimp only
          rw [exec_bind, exec_get]
          exact overcounts_answerAll overcounts answer cancellation _ outcome

end Answers

end Agent

/-- The direct path reports as many counted calls as executed ones. -/
theorem directReport_balanced {started : Agent (Observed σ)}
    {turnId : String}
    (admitted : (Agent.startTurn "start a turn" userMessage cancellation.observed).exec
      agent = (.ok turnId, started)) :
    ∃ round modelCalls toolCalls,
      (agent.directReport behaviour userMessage cancellation).usage =
        some (round, modelCalls, toolCalls) ∧
      (agent.directReport behaviour userMessage cancellation).calls.length =
        toolCalls + started.calls.length := by
  cases ran : (started.pathProgram behaviour .legacy turnId userMessage cancellation).exec
    (started.startedLive turnId) with
  | mk outcome live =>
      have ended := Agent.ended_of_legacy ran
      have balanced : Balanced (started.startedLive turnId) live := by
        refine of_wp (Preserves.wp ?_ _) ran
        exact (roundClosed_of_idle behaviour turnId (fun _ _ => Idle.balanced)
          cancellation).runTurnInner
          (fun _ _ live => (idle_of_logsOnly (TurnProgram.logsOnly_record _ live)).balanced)
          (callClosed_balanced behaviour started.config.budget turnId cancellation)
          userMessage 1 true
      rw [Agent.directReport_of_admitted admitted ran ended]
      refine ⟨_, _, _, rfl, ?_⟩
      unfold Balanced Agent.startedLive TurnTracker.new at balanced
      dsimp only at balanced
      change live.components.2.length =
        live.tracker.toolCalls + started.components.2.length
      omega

/-- Both paths agree on a turn exactly when it reaches no call that the policy would
not run unasked. -/
theorem paths_agree_iff (agent : Agent (Observed σ))
    (ready : agent.state = .ready) (userMessage : ChatMessage)
    (cancellation : SharedToken σ) :
    agent.answeredReport behaviour answer userMessage cancellation =
        agent.directReport behaviour userMessage cancellation ↔
      agent.RunsUnasked behaviour userMessage cancellation := by
  obtain ⟨turnId, started, config, sameLive, admitted, alsoAdmitted⟩ |
    ⟨error, refusal, refused, alsoRefused⟩ :=
      Agent.startTurn_alike ready userMessage cancellation
  · constructor
    · intro agree turnId' started' recorded starts records
      rw [admitted] at starts
      cases starts
      by_contra asked
      have asks := Agent.pathProgram_asked config sameLive records asked
      obtain ⟨⟨snapshot, reported, surplus⟩, -⟩ :=
        Agent.overcounts_runTurnAnswered answer alsoAdmitted asks
      obtain ⟨round, modelCalls, toolCalls, usage, balanced⟩ :=
        directReport_balanced behaviour admitted
      rw [← agree] at usage balanced
      unfold Agent.answeredReport TurnReport.of at usage balanced
      dsimp only at usage balanced
      rw [reported] at usage
      simp only [Option.map_some, Option.some.injEq, Prod.mk.injEq] at usage
      omega
    · intro unasked
      have alike := Agent.exec_pathProgram_unasked admitted config sameLive unasked
      cases ran : (started.pathProgram behaviour .legacy turnId userMessage
        cancellation).exec (started.startedLive turnId) with
      | mk outcome live =>
          have ended := Agent.ended_of_legacy ran
          rw [Agent.directReport_of_admitted admitted ran ended,
            Agent.answeredReport_of_admitted alsoAdmitted (alike.trans ran) ended]
  · constructor
    · intro _ turnId started recorded starts _
      rw [refused] at starts
      cases starts
    · intro _
      unfold Agent.answeredReport Agent.directReport Agent.runTurnAnswered
        Agent.runTurnWithApproval Agent.runTurn
      simp only [exec_bind, refused, alsoRefused]

/-- A scripted model before a tool that completes, with the default policy. -/
def echoBehaviour : Behaviour Script where
  complete := askingComponents.complete
  assemble := askingComponents.assemble
  catalog := pure ToolCatalog.empty
  execute := fun _ _ => pure (.completed .null)

/-- The same with a policy that runs every call unasked. -/
def openBehaviour : Behaviour Script := { echoBehaviour with policy := fun _ => .ok .execute }

/-- The rule applies to a turn with a call that is run unasked. -/
theorem paths_agree_iff_unasked :
    (Agent.fresh ([askFor [echoCall], .ok (.new "done" none)], [])).answeredReport
          openBehaviour (fun _ => echoApproval) (.user "hello") .fresh =
        (Agent.fresh ([askFor [echoCall], .ok (.new "done" none)], [])).directReport
          openBehaviour (.user "hello") .fresh ↔
      (Agent.fresh ([askFor [echoCall], .ok (.new "done" none)], [])).RunsUnasked
        openBehaviour (.user "hello") .fresh :=
  paths_agree_iff openBehaviour _ _ rfl _ _

/-- One call that is approved and run is reported as two. -/
theorem approved_call_is_counted_twice :
    (Agent.fresh ([askFor [echoCall], .ok (.new "done" none)], [])).answeredReport
        echoBehaviour (fun _ => echoApproval) (.user "hello") .fresh ≠
      (Agent.fresh ([askFor [echoCall], .ok (.new "done" none)], [])).directReport
        echoBehaviour (.user "hello") .fresh := by
  have usage :
      ((Agent.fresh ([askFor [echoCall], .ok (.new "done" none)], [])).answeredReport
        echoBehaviour (fun _ => echoApproval) (.user "hello") .fresh).usage =
          some (2, 2, 2) ∧
      ((Agent.fresh ([askFor [echoCall], .ok (.new "done" none)], [])).directReport
        echoBehaviour (.user "hello") .fresh).usage = some (2, 2, 1) := by
    decide +kernel
  intro agree
  rw [agree, usage.2] at usage
  cases usage.1

end AgentSpine
end YunXi
