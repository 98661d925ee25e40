import YunXi.AgentSpine.Journal
import YunXi.Program.Run

/-!
# The life cycle of an agent

Between operations an agent is ready or waits for an approval, and it waits
exactly while it keeps a suspended turn.  A suspended turn can always be brought
to an end, because every further suspension uses up tool-call budget.  One
operation breaks this: `cancel_pending_turn` drops the suspended turn before the
append that may refuse its reason, and an agent that lost its turn this way
waits for ever.
-/

namespace YunXi
namespace AgentSpine

open Protocol

variable {σ : Type}

/-- The agent waits for an approval exactly while it keeps a suspended turn. -/
structure Agent.InStep (agent : Agent σ) : Prop where
  idle : agent.state ≠ .running
  waits : agent.state = .awaitingApproval ↔ agent.pendingTurn.isSome = true

/-- The operations that resolve a suspended turn. -/
def AgentOp.Resolves : AgentOp σ → Prop
  | .approvePendingTool _ _ | .cancelPendingTurn _ => True
  | .runTurn _ _ | .runTurnWithApproval _ _ | .resetConversation _ => False

variable (components : Components σ)

/-- Approving and cancelling can bring the agent back to ready. -/
def Agent.Recoverable (agent : Agent σ) : Prop :=
  ∃ ops : List (AgentOp σ), (∀ op ∈ ops, op.Resolves) ∧
    (finalState (Agent.perform components) agent ops).state = .ready

/-- The contract of an agent between two operations. -/
structure Agent.Settled (agent : Agent σ) : Prop where
  inStep : agent.InStep
  recoverable : agent.Recoverable components

/-- The log accepts the record of the cancellation of a suspended turn. -/
def CancelRecorded (agent : Agent σ) (op : AgentOp σ) : Prop :=
  ∀ reason pending, op = .cancelPendingTurn reason → agent.state = .awaitingApproval →
    agent.pendingTurn = some pending →
    agent.session.Accepts (.turnCancelled pending.tracker.snapshot.id reason)

/-- The parts of a valid approval request are valid on their own. -/
theorem ToolApprovalRequest.round_valid (request : ToolApprovalRequest) :
    validateRound request.round = .ok () := by
  have valid := request.valid
  unfold validateApprovalRequestFields at valid
  cases version : validateVersion request.protocolVersion with
  | error error =>
      rw [version] at valid
      cases valid
  | ok passed =>
      cases round : validateRound request.round with
      | ok passed => rfl
      | error error =>
          rw [version, round] at valid
          cases valid

/-- A decision that denies the requested call. -/
def ToolApprovalRequest.denial (request : ToolApprovalRequest) : ToolApprovalDecision where
  protocolVersion := toolProtocolVersion
  round := request.round
  callId := request.callId
  toolName := request.toolName
  state := .denied "denied"
  valid := by
    unfold validateDecision
    rw [ToolApprovalRequest.round_valid request]
    rfl

theorem validatePendingDecision_denial (request : ToolApprovalRequest) :
    validatePendingDecision request (ToolApprovalRequest.denial request) = .ok () := by
  unfold validatePendingDecision
  rw [ToolApprovalDecision.validate_ok]
  simp [ToolApprovalRequest.denial]

/-- The operation that denies the waiting call with a token nobody cancels. -/
def Agent.deny (pending : PendingTurn) : AgentOp σ :=
  .approvePendingTool (ToolApprovalRequest.denial pending.request) .fresh

variable {agent : Agent σ}

section Recovery

variable (components : Components σ)

/-- Denying the waiting call ends the turn or suspends it later in its budget. -/
theorem Agent.deny_cases {pending : PendingTurn}
    (awaiting : agent.state = .awaitingApproval)
    (suspended : agent.pendingTurn = some pending) :
    (agent.perform components (Agent.deny pending)).state = .ready ∨
    ∃ later, (agent.perform components (Agent.deny pending)).state = .awaitingApproval ∧
      (agent.perform components (Agent.deny pending)).pendingTurn = some later ∧
      (agent.perform components (Agent.deny pending)).config.budget = agent.config.budget ∧
      pending.tracker.toolCalls < later.tracker.toolCalls ∧
      later.tracker.toolCalls ≤ agent.config.budget.maxToolCalls := by
  have left : (approvePendingTool components (ToolApprovalRequest.denial pending.request)
      .fresh).wp _ agent :=
    Agent.approvePendingTool_left suspended (Agent.admitApproval_eq_some.mpr
      ⟨awaiting, validatePendingDecision_denial pending.request, rfl, rfl⟩)
  unfold Fallible.wp at left
  unfold Agent.deny
  simp only [Agent.perform]
  generalize (approvePendingTool components (ToolApprovalRequest.denial pending.request)
    .fresh).exec agent = answered at left ⊢
  obtain ⟨result, final⟩ := answered
  cases left with
  | ended answered ready released config => exact .inl ready
  | waits later awaiting suspended config counted bounded =>
      exact .inr ⟨later, awaiting, suspended, config, counted, bounded⟩

/-- A suspended turn can be brought to an end by denying its calls. -/
theorem Agent.recoverable_of_suspended {pending : PendingTurn}
    (awaiting : agent.state = .awaitingApproval)
    (suspended : agent.pendingTurn = some pending) :
    agent.Recoverable components := by
  -- The budget left bounds the number of further suspensions.
  generalize budgetLeft :
    agent.config.budget.maxToolCalls - pending.tracker.toolCalls = left
  induction left using Nat.strong_induction_on generalizing agent pending with
  | _ left ih =>
      obtain ready | ⟨later, stillAwaiting, keeps, config, counted, bounded⟩ :=
        Agent.deny_cases components awaiting suspended
      · exact ⟨[Agent.deny pending], by simp [Agent.deny, AgentOp.Resolves], ready⟩
      · obtain ⟨ops, resolve, final⟩ := ih _
          (by rw [config]; omega) stillAwaiting keeps rfl
        refine ⟨Agent.deny pending :: ops, ?_, final⟩
        intro op member
        rcases List.mem_cons.mp member with rfl | member
        · trivial
        · exact resolve op member

/-- An agent in step can always be brought back to ready. -/
theorem Agent.InStep.recoverable (inStep : agent.InStep) :
    agent.Recoverable components := by
  cases state : agent.state with
  | ready => exact ⟨[], by simp, state⟩
  | running => exact absurd state inStep.idle
  | awaitingApproval =>
      obtain ⟨pending, suspended⟩ := Option.isSome_iff_exists.mp (inStep.waits.mp state)
      exact Agent.recoverable_of_suspended components state suspended

end Recovery

/-- The end of an approval-aware turn keeps state and suspended turn in step. -/
theorem Agent.inStep_afterTurn (agent : Agent σ) (userMessage : ChatMessage)
    (outcome : Except AgentError InnerTurnOutcome) (live : Live σ)
    (taken : agent.pendingTurn = none) :
    (agent.afterTurn userMessage outcome live).InStep := by
  match outcome with
  | .ok (.completed _) => exact ⟨by simp [afterTurn], by simp [afterTurn, taken]⟩
  | .ok (.awaitingApproval _) => exact ⟨by simp [afterTurn], by simp [afterTurn]⟩
  | .error _ => exact ⟨by simp [afterTurn], by simp [afterTurn]⟩

theorem Agent.inStep_afterDirectTurn (agent : Agent σ)
    (outcome : Except AgentError InnerTurnOutcome) (live : Live σ)
    (taken : agent.pendingTurn = none) :
    (agent.afterDirectTurn outcome live).InStep := by
  match outcome with
  | .ok (.completed _) | .ok (.awaitingApproval _) | .error _ =>
      exact ⟨by simp [afterDirectTurn], by simp [afterDirectTurn, taken]⟩

/-- A ready agent in step keeps no suspended turn. -/
theorem Agent.InStep.none_of_ready (inStep : agent.InStep)
    (ready : agent.state = .ready) :
    agent.pendingTurn = none := by
  cases suspended : agent.pendingTurn with
  | none => rfl
  | some pending =>
      have awaiting := inStep.waits.mpr (by rw [suspended]; rfl)
      rw [ready] at awaiting
      cases awaiting

/-- Every operation whose cancellation is recorded keeps the agent in step. -/
theorem Agent.inStep_perform (agent : Agent σ)
    (op : AgentOp σ) (inStep : agent.InStep) (recorded : CancelRecorded agent op) :
    (agent.perform components op).InStep := by
  have step := Agent.perform_step components agent op
  generalize agent.perform components op = final at step
  cases step with
  | refused state consulted noTurn noCancel => exact ⟨inStep.idle, inStep.waits⟩
  | direct state consulted ready fromUser inRange turn ran =>
      exact inStep_afterDirectTurn _ _ _ (inStep.none_of_ready ready)
  | approvalAware state consulted ready fromUser inRange turn ran =>
      exact inStep_afterTurn _ _ _ _ (inStep.none_of_ready ready)
  | resumed state consulted awaiting suspended matching turn ran =>
      exact inStep_afterTurn _ _ _ _ rfl
  | cancelled awaiting suspended accepts => exact ⟨by simp, by simp⟩
  | @cancelRefused reason pending awaiting suspended refuses =>
      exact absurd (recorded reason pending rfl awaiting suspended) refuses
  | reset ready replaced => exact ⟨inStep.idle, inStep.waits⟩

/-- An operation whose cancellation is refused leaves an agent that waits for a
turn it no longer has. -/
theorem Agent.wedged_of_refused (agent : Agent σ)
    (op : AgentOp σ) (unrecorded : ¬ CancelRecorded agent op) :
    (agent.perform components op).state = .awaitingApproval ∧
      (agent.perform components op).pendingTurn = none := by
  unfold CancelRecorded at unrecorded
  push Not at unrecorded
  obtain ⟨reason, pending, rfl, awaiting, suspended, refuses⟩ := unrecorded
  have step := Agent.perform_step components agent (.cancelPendingTurn reason)
  generalize agent.perform components (.cancelPendingTurn reason) = final at step
  cases step with
  | refused state consulted noTurn noCancel =>
      rw [noCancel reason rfl awaiting] at suspended
      cases suspended
  | cancelled _ kept accepts =>
      rw [kept] at suspended
      cases suspended
      exact absurd accepts refuses
  | cancelRefused _ _ _ => exact ⟨awaiting, rfl⟩

/-- An agent that waits for a turn it no longer has stays that way. -/
theorem Agent.wedged_perform (agent : Agent σ)
    (op : AgentOp σ) (awaiting : agent.state = .awaitingApproval)
    (lost : agent.pendingTurn = none) :
    (agent.perform components op).state = .awaitingApproval ∧
      (agent.perform components op).pendingTurn = none := by
  have step := Agent.perform_step components agent op
  generalize agent.perform components op = final at step
  cases step with
  | refused state consulted noTurn noCancel => exact ⟨awaiting, lost⟩
  | direct state _ ready | approvalAware state _ ready =>
      rw [awaiting] at ready
      cases ready
  | resumed state _ _ suspended | cancelled _ suspended | cancelRefused _ suspended =>
      rw [lost] at suspended
      cases suspended
  | reset ready =>
      rw [awaiting] at ready
      cases ready

/-- No operation brings such an agent back to ready. -/
theorem Agent.not_recoverable_of_wedged (agent : Agent σ)
    (awaiting : agent.state = .awaitingApproval) (lost : agent.pendingTurn = none) :
    ¬ agent.Recoverable components := by
  rintro ⟨ops, -, ready⟩
  have always := throughout_of_invariant
    (fun current : Agent σ =>
      current.state = .awaitingApproval ∧ current.pendingTurn = none)
    (fun current op wedged => current.wedged_perform components op wedged.1 wedged.2)
    ⟨awaiting, lost⟩ ops
  have final := always.last.1
  rw [ready] at final
  cases final

theorem Agent.inStep_new {id : String} {state : σ} {config : AgentConfig}
    (created : Agent.new id state config = .ok agent) :
    agent.InStep := by
  cases Agent.new_eq_ok created
  exact ⟨by simp, by simp⟩

/-- In every run of an agent, the contract holds after every operation exactly
when no cancellation of a suspended turn was refused by the log. -/
theorem settled_throughout_iff {id : String} {outside : σ}
    {config : AgentConfig}
    (created : Agent.new id outside config = .ok agent) (ops : List (AgentOp σ)) :
    Throughout (Agent.perform components) (Agent.Settled components) agent ops ↔
      EachStep (Agent.perform components) CancelRecorded agent ops :=
  throughout_iff_eachStep Agent.InStep (fun _ _ => True)
    (fun _ inStep => ⟨inStep, inStep.recoverable components⟩)
    (fun agent op inStep _ recorded => Agent.inStep_perform components agent op inStep recorded)
    (fun agent op _ _ unrecorded settled =>
      have wedged := Agent.wedged_of_refused components agent op unrecorded
      Agent.not_recoverable_of_wedged components _ wedged.1 wedged.2 settled.recoverable)
    (Agent.inStep_new created) (eachStep_true agent ops)

/-- The rule applies to a turn that is suspended and then cancelled. -/
theorem settled_throughout_iff_asking :
    Throughout (Agent.perform askingComponents) (Agent.Settled askingComponents)
        (.fresh [askFor [echoCall]])
        [.runTurnWithApproval (.user "hello") .fresh, .cancelPendingTurn "no"] ↔
      EachStep (Agent.perform askingComponents) CancelRecorded
        (.fresh [askFor [echoCall]])
        [.runTurnWithApproval (.user "hello") .fresh, .cancelPendingTurn "no"] :=
  settled_throughout_iff askingComponents (Agent.new_default _) _

/-- Cancelling with an empty reason leaves an agent that waits for no turn. -/
theorem empty_reason_loses_turn :
    Agent.new "agent" [askFor [echoCall]] .default = .ok (.fresh [askFor [echoCall]]) ∧
    ¬ Throughout (Agent.perform askingComponents) (Agent.Settled askingComponents)
      (.fresh [askFor [echoCall]])
      [.runTurnWithApproval (.user "hello") .fresh, .cancelPendingTurn ""] := by
  refine ⟨rfl, ?_⟩
  intro holds
  have settled := holds.last
  have final : (finalState (Agent.perform askingComponents) (.fresh [askFor [echoCall]])
        [.runTurnWithApproval (.user "hello") .fresh, .cancelPendingTurn ""]).state =
        .awaitingApproval ∧
      (finalState (Agent.perform askingComponents) (.fresh [askFor [echoCall]])
        [.runTurnWithApproval (.user "hello") .fresh,
          .cancelPendingTurn ""]).pendingTurn.isSome = false := by
    decide +kernel
  have kept := settled.inStep.waits.mp final.1
  rw [final.2] at kept
  cases kept

end AgentSpine
end YunXi
