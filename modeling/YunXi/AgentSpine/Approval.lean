import YunXi.AgentSpine.Operation
import YunXi.Program.Run

/-!
# No tool call without consent

To see which calls reach the executing hooks of a broker, the hooks are run over
a state that also keeps the list of requests they were called with; nothing
else can touch that list.  An approval-aware operation then extends the list
only when it resumes a suspended turn under an approval, and by that one call.
-/

namespace YunXi
namespace AgentSpine

open Fallible
open Protocol

variable {σ : Type}

/-- A component state beside the calls the executing hooks were given so far. -/
abbrev Observed (σ : Type) := σ × List ToolRequest

/-- A token whose cells are part of the observed state. -/
def SharedToken.observed (token : SharedToken σ) : SharedToken (Observed σ) :=
  fun state => ((token state.1).1, (token state.1).2, state.2)

/-- The token an observed hook passes on. -/
def SharedToken.inner (token : SharedToken (Observed σ)) : SharedToken σ :=
  fun state => ((token (state, [])).1, (token (state, [])).2.1)

/-- Note a request and run the hook that was called with it. -/
def noteCall (request : ToolRequest)
    (hook : Fallible σ ComponentError ToolResultOutcome) :
    Fallible (Observed σ) ComponentError ToolResultOutcome := do
  modify fun state => (state.1, state.2 ++ [request])
  hook.onFirst

@[simp] theorem exec_noteCall (request : ToolRequest)
    (hook : Fallible σ ComponentError ToolResultOutcome) (state : Observed σ) :
    (noteCall request hook).exec state =
      ((hook.exec state.1).1, (hook.exec state.1).2, state.2 ++ [request]) := by
  unfold noteCall
  rw [exec_bind]
  rfl

/-- A broker whose executing hooks note their calls. -/
def ToolBroker.observed (broker : ToolBroker σ) : ToolBroker (Observed σ) where
  catalog := broker.catalog.onFirst
  execute := fun request cancellation =>
    noteCall request (broker.execute request cancellation.inner)
  executeApproved := fun request approval cancellation =>
    noteCall request (broker.executeApproved request approval cancellation.inner)
  decide := fun request => (broker.decide request).onFirst

/-- The ways to run the hooks of a broker behind a decision: the broker's own, or an
approval policy wrapped around it. -/
inductive DecidedBy (broker : ToolBroker σ) :
    DecideHook σ → ToolBroker (Observed σ) → Prop
  | broker : DecidedBy broker broker.decide broker.observed
  | policy (policy : DecideHook σ) :
      DecidedBy broker policy
        (.approvalAware broker.observed fun request => (policy request).onFirst)

/-- The components with an observed broker. -/
def Components.observedBy (components : Components σ) (tools : ToolBroker (Observed σ)) :
    Components (Observed σ) where
  complete := fun request cancellation =>
    (components.complete request cancellation.inner).onFirst
  assemble := fun request => (components.assemble request).onFirst
  tools := tools

/-- An operation whose token is part of the observed state. -/
def AgentOp.observed : AgentOp σ → AgentOp (Observed σ)
  | .runTurn userMessage cancellation => .runTurn userMessage cancellation.observed
  | .runTurnWithApproval userMessage cancellation =>
      .runTurnWithApproval userMessage cancellation.observed
  | .approvePendingTool decision cancellation =>
      .approvePendingTool decision cancellation.observed
  | .cancelPendingTurn reason => .cancelPendingTurn reason
  | .resetConversation messages => .resetConversation messages

/-- The operations of callers that need approval semantics. -/
def AgentOp.IsApprovalAware : AgentOp σ → Prop
  | .runTurn _ _ => False
  | _ => True

/-- The calls the executing hooks have been given so far. -/
def Agent.calls (agent : Agent (Observed σ)) : List ToolRequest := agent.components.2

/-- The decision an operation carries is accepted for the waiting call and approves
it. -/
structure Agent.Consents (agent : Agent (Observed σ)) (op : AgentOp (Observed σ))
    (pending : PendingTurn) (decision : ToolApprovalDecision) : Prop where
  carries : ∃ cancellation, op = .approvePendingTool decision cancellation
  awaiting : agent.state = .awaitingApproval
  suspended : agent.pendingTurn = some pending
  accepted : validatePendingDecision pending.request decision = .ok ()
  approved : decision.state.isApproved = true
  round : decision.round = pending.request.round
  callId : decision.callId = pending.request.callId
  toolName : decision.toolName = pending.request.toolName

/-- A request is for the call a decision names. -/
structure ToolRequest.IsFor (request : ToolRequest) (decision : ToolApprovalDecision) :
    Prop where
  round : request.round = decision.round
  callId : request.call.id = decision.callId
  toolName : request.call.name = decision.toolName

/-- An operation reaches an executing hook at most once, and only under an accepted
approval of the call it runs. -/
def Agent.ActsWithConsent (step : Agent (Observed σ) → AgentOp (Observed σ) →
    Agent (Observed σ)) (agent : Agent (Observed σ)) (op : AgentOp (Observed σ)) : Prop :=
  (step agent op).calls = agent.calls ∨
  ∃ pending decision request, agent.Consents op pending decision ∧
    request.IsFor decision ∧ (step agent op).calls = agent.calls ++ [request]

/-- The executing hooks were not called between two states of a turn. -/
def Quiet (before after : Live (Observed σ)) : Prop :=
  after.components.2 = before.components.2

instance : Std.Refl (Quiet (σ := σ)) where
  refl _ := rfl

instance : IsTrans (Live (Observed σ)) Quiet where
  trans _ _ _ first second := second.trans first

/-- The program never reaches an executing hook. -/
abbrev StaysQuiet {α : Type} (program : TurnProgram (Observed σ) α) : Prop :=
  Preserves Quiet program

namespace StaysQuiet

open TurnProgram

theorem record (event : SessionEvent) : StaysQuiet (σ := σ) (record event) := by
  intro live
  change wp _ (fun _ final => Quiet live final) live
  exact wp_record (fun _ => rfl) (fun _ _ => rfl)

theorem checkCancellation (token : SharedToken σ) :
    StaysQuiet (checkCancellation token.observed) :=
  fun _ => rfl

theorem finishCall (turnId : String) (batch : ToolCallBatch)
    (approval : Option ToolApprovalDecision) (call : ToolCall) (index : Nat)
    (answer : Except ComponentError ToolExecutionOutcome) :
    StaysQuiet (σ := σ) (finishCall turnId batch approval call index answer) :=
  fun live => congrArg Prod.snd
    (logsOnly_finishCall turnId batch approval call index answer live).components

/-- The parts of a round reach no executing hook. -/
theorem roundClosed {components : Components σ} {decide : DecideHook σ}
    {tools : ToolBroker (Observed σ)} (decided : DecidedBy components.tools decide tools)
    (turnId : String) (cancellation : SharedToken σ) :
    RoundClosed (components.observedBy tools) turnId cancellation.observed Quiet where
  record event _ _ _ := record event
  checkCancellation := checkCancellation cancellation
  catalog live := by cases decided <;> rfl
  assemble _ _ := rfl
  complete _ _ := rfl
  updateTracker _ _ _ _ := rfl

end StaysQuiet

section Path

variable {components : Components σ} {decide : DecideHook σ}
variable {tools : ToolBroker (Observed σ)}

/-- Both ways to run a broker go through the same default path. -/
theorem DecidedBy.path {broker : ToolBroker σ} (decided : DecidedBy broker decide tools) :
    tools.executeWithApproval =
      executeWithApprovalDefault broker.observed.execute broker.observed.executeApproved
        fun request => (decide request).onFirst := by
  cases decided <;> rfl

/-- The decision never runs a call on its own. -/
def NeverExecutes (decide : DecideHook σ) : Prop :=
  ∀ request state, ((decide request).exec state).1 ≠ .ok .execute

/-- Without an approval a call the decision does not run reaches no executing hook. -/
theorem quiet_without_approval (decided : DecidedBy components.tools decide tools)
    (request : ToolRequest) (cancellation : SharedToken (Observed σ)) (state : Observed σ)
    (noExecute : ((decide request).exec state.1).1 ≠ .ok .execute) :
    ((tools.executeWithApproval request none cancellation).exec state).2.2 = state.2 := by
  rw [decided.path]
  unfold executeWithApprovalDefault
  rw [exec_bind, exec_onFirst]
  cases answer : ((decide request).exec state.1).1 with
  | error error => rfl
  | ok decision =>
      rw [answer] at noExecute
      cases decision with
      | execute => exact absurd rfl noExecute
      | requestApproval approvalRequest =>
          dsimp only
          rw [exec_bind, exec_ofExcept]
          cases validateApprovalRequest request approvalRequest <;> rfl
      | reject code message => rfl

/-- Under an approval an executing hook is reached at most once, with the approved
call. -/
theorem notes_with_approval (decided : DecidedBy components.tools decide tools)
    (request : ToolRequest) (approval : ToolApprovalDecision)
    (cancellation : SharedToken (Observed σ)) (state : Observed σ) :
    ((tools.executeWithApproval request (some approval) cancellation).exec state).2.2 =
        state.2 ∨
      approval.state.isApproved = true ∧ request.IsFor approval ∧
      ((tools.executeWithApproval request (some approval) cancellation).exec state).2.2 =
        state.2 ++ [request] := by
  rw [decided.path]
  unfold executeWithApprovalDefault
  dsimp only
  rw [exec_bind, exec_ofExcept]
  cases valid : validateApproval request approval with
  | error error => exact .inl rfl
  | ok passed =>
      have isFor : request.IsFor approval := by
        unfold validateApproval at valid
        split at valid
        · cases valid
        · next same =>
            push Not at same
            exact ⟨same.1.symm, same.2.1.symm, same.2.2.symm⟩
      dsimp only
      cases decision : approval.state with
      | denied reason => exact .inl rfl
      | approved ticket =>
          refine .inr ⟨rfl, isFor, ?_⟩
          dsimp only [ToolBroker.observed]
          rw [exec_bind, exec_noteCall]
          split
          · next answered =>
              rw [Prod.mk.injEq] at answered
              rw [exec_pure, ← answered.2]
          · next answered =>
              rw [Prod.mk.injEq] at answered
              rw [← answered.2]

/-- One call of a batch reaches an executing hook at most once, and only under an
approval of that call. -/
def ReachesAtMost (approval : Option ToolApprovalDecision)
    (before after : Live (Observed σ)) : Prop :=
  Quiet before after ∨
  ∃ decision request, approval = some decision ∧ decision.state.isApproved = true ∧
    request.IsFor decision ∧ after.components.2 = before.components.2 ++ [request]

variable {before after : Live (Observed σ)} {approval : Option ToolApprovalDecision}

theorem ReachesAtMost.quiet_after {middle : Live (Observed σ)}
    (reaches : ReachesAtMost approval before middle) (quiet : Quiet middle after) :
    ReachesAtMost approval before after := by
  obtain earlier | ⟨decision, request, used, approved, isFor, noted⟩ := reaches
  · exact .inl (IsTrans.trans _ _ _ earlier quiet)
  · exact .inr ⟨decision, request, used, approved, isFor, quiet.trans noted⟩

theorem ReachesAtMost.after_quiet {middle : Live (Observed σ)}
    (reaches : ReachesAtMost approval middle after) (quiet : Quiet before middle) :
    ReachesAtMost approval before after := by
  obtain later | ⟨decision, request, used, approved, isFor, noted⟩ := reaches
  · exact .inl (IsTrans.trans _ _ _ quiet later)
  · refine .inr ⟨decision, request, used, approved, isFor, ?_⟩
    rw [noted, quiet]

/-- Dropping the approval for other calls loses nothing. -/
theorem ReachesAtMost.weaken {keep : Bool}
    (reaches : ReachesAtMost (approval.filter fun _ => keep) before after) :
    ReachesAtMost approval before after := by
  obtain quiet | ⟨decision, request, used, approved, isFor, noted⟩ := reaches
  · exact .inl quiet
  · exact .inr ⟨decision, request, (Option.filter_eq_some_iff.mp used).1, approved, isFor,
      noted⟩

theorem ReachesAtMost.quiet_of_none (reaches : ReachesAtMost none before after) :
    Quiet before after := by
  obtain quiet | ⟨decision, request, used, -⟩ := reaches
  · exact quiet
  · cases used

variable (budget : TurnBudget) (turnId : String)
variable (decided : DecidedBy components.tools decide tools) (never : NeverExecutes decide)

include decided never

/-- The broker call of one iteration. -/
theorem tryTool_reaches (request : ToolRequest) (approval : Option ToolApprovalDecision)
    (cancellation : SharedToken (Observed σ)) (live : Live (Observed σ)) :
    (TurnProgram.tryComponent (executeTool (components.observedBy tools) .approvalAware
      request approval cancellation)).wp
      (fun _ after => ReachesAtMost approval live after) live := by
  rw [TurnProgram.wp_tryComponent]
  cases approval with
  | none =>
      exact .inl (quiet_without_approval decided request cancellation live.components
        (never request live.components.1))
  | some decision =>
      obtain same | ⟨approved, isFor, noted⟩ :=
        notes_with_approval decided request decision cancellation live.components
      · exact .inl same
      · exact .inr ⟨decision, request, rfl, approved, isFor, noted⟩

theorem processCall_reaches (batch : ToolCallBatch)
    (approval : Option ToolApprovalDecision) (cancellation : SharedToken σ)
    (call : ToolCall) (index : Nat) (before : Live (Observed σ)) :
    (processCall (components.observedBy tools) budget turnId batch approval
      cancellation.observed .approvalAware call index).wp
      (fun _ after => ReachesAtMost approval before after) before := by
  unfold processCall
  rw [wp_bind]
  refine wp_admitCall ?_ (fun _ _ => .inl rfl)
  intro _
  rw [andThen_ok]
  refine wp_bind_of (tryTool_reaches decided never _ approval _ _) ?_
    (fun _ _ reaches => reaches.after_quiet rfl)
  intro answer executed reaches
  refine wp_mono
    ((StaysQuiet.finishCall turnId batch approval call index answer).wp executed) ?_
  exact fun _ _ quiet => (reaches.after_quiet rfl).quiet_after quiet

/-- Calls that are not the approved one reach no hook. -/
theorem processCalls_quiet (batch : ToolCallBatch) (startCall : Nat)
    (approval : Option ToolApprovalDecision) (cancellation : SharedToken σ)
    (calls : List (ToolCall × Nat)) (later : ∀ entry ∈ calls, startCall ≠ entry.2)
    (before : Live (Observed σ)) :
    (processCalls (components.observedBy tools) budget turnId batch startCall approval
      cancellation.observed .approvalAware calls).wp
      (fun _ after => Quiet before after) before := by
  induction calls generalizing before with
  | nil => exact Std.Refl.refl before
  | cons first calls ih =>
      have unapproved : (approval.filter fun _ => first.2 == startCall) = none := by
        have different := later first (by simp)
        simp [Option.filter_eq_none_iff, Ne.symm different]
      have call := processCall_reaches budget turnId decided never batch none cancellation
        first.1 first.2 before
      unfold processCalls
      rw [unapproved]
      refine wp_bind_of call ?_ (fun _ _ reaches => reaches.quiet_of_none)
      intro pending middle reaches
      cases pending with
      | some pending => exact reaches.quiet_of_none
      | none =>
          refine wp_mono (ih (fun entry member =>
            later entry (List.mem_cons_of_mem _ member)) middle) ?_
          exact fun _ _ quiet => IsTrans.trans _ _ _ reaches.quiet_of_none quiet

/-- A batch uses the approval for its first call only. -/
theorem processToolBatch_reaches (batch : ToolCallBatch) (startCall : Nat)
    (approval : Option ToolApprovalDecision) (cancellation : SharedToken σ)
    (before : Live (Observed σ)) :
    (processToolBatch (components.observedBy tools) budget turnId batch startCall approval
      cancellation.observed .approvalAware).wp
      (fun _ after => ReachesAtMost approval before after) before := by
  unfold processToolBatch
  have indices : ∀ entry ∈ (batch.calls.zipIdx.drop startCall).tail,
      startCall ≠ entry.2 := by
    intro entry member
    rw [List.tail_drop, List.mem_iff_getElem?] at member
    obtain ⟨offset, found⟩ := member
    rw [List.getElem?_drop, List.getElem?_zipIdx] at found
    obtain ⟨call, -, rfl⟩ := Option.map_eq_some_iff.mp found
    dsimp only
    omega
  generalize batch.calls.zipIdx.drop startCall = calls at indices
  cases calls with
  | nil => exact .inl (Std.Refl.refl before)
  | cons first calls =>
      unfold processCalls
      refine wp_bind_of (processCall_reaches budget turnId decided never batch _
        cancellation first.1 first.2 before) ?_ ?_
      · intro pending middle reaches
        have reached := reaches.weaken
        cases pending with
        | some pending => exact reached
        | none =>
            refine wp_mono (processCalls_quiet budget turnId decided never batch
              startCall approval cancellation calls indices middle) ?_
            exact fun _ _ quiet => reached.quiet_after quiet
      · exact fun _ _ reaches => reaches.weaken

/-- A turn that is not resumed carries no approval. -/
theorem runTurnInner_quiet (userMessage : ChatMessage) (cancellation : SharedToken σ)
    (startingRound : Nat) (recordStart : Bool) :
    StaysQuiet (runTurnInner (components.observedBy tools) budget turnId userMessage
      cancellation.observed startingRound recordStart .approvalAware none) := by
  refine (StaysQuiet.roundClosed decided turnId cancellation).runTurnInner
    (fun _ _ => StaysQuiet.record _) ?_ userMessage startingRound recordStart
  intro batch call index used unapproved before
  have unused : used = none := by simpa using unapproved
  subst unused
  exact (processCall_reaches budget turnId decided never batch none cancellation call index
    before).quiet_of_none

theorem continuePendingTurn_reaches (userMessage : ChatMessage) (batch : ToolCallBatch)
    (nextCall : Nat) (approval : ToolApprovalDecision) (cancellation : SharedToken σ)
    (before : Live (Observed σ)) :
    (continuePendingTurn (components.observedBy tools) budget turnId userMessage batch
      nextCall approval cancellation.observed).wp
      (fun _ after => ReachesAtMost (some approval) before after) before := by
  unfold continuePendingTurn
  refine wp_bind_of (processToolBatch_reaches budget turnId decided never batch
    nextCall (some approval) cancellation before) ?_ (fun _ _ reaches => reaches)
  intro pending processed reaches
  cases pending with
  | some pending => exact reaches
  | none =>
      rw [wp_bind, wp_ofExcept]
      cases nextRound budget batch.round with
      | error error => exact reaches
      | ok next =>
          rw [andThen_ok]
          refine wp_mono ((runTurnInner_quiet budget turnId decided never
            userMessage cancellation next false).wp processed) ?_
          exact fun _ _ quiet => reaches.quiet_after quiet

end Path

section Operations

variable {components : Components σ} {decide : DecideHook σ}
variable {tools : ToolBroker (Observed σ)}

/-- An accepted decision names the requested call. -/
theorem validatePendingDecision_eq_ok {request : ToolApprovalRequest}
    {decision : ToolApprovalDecision}
    (accepted : validatePendingDecision request decision = .ok ()) :
    decision.round = request.round ∧ decision.callId = request.callId ∧
      decision.toolName = request.toolName := by
  unfold validatePendingDecision at accepted
  rw [ToolApprovalDecision.validate_ok] at accepted
  dsimp only at accepted
  split at accepted
  · cases accepted
  · next same =>
      push Not at same
      exact same

@[simp] theorem Agent.calls_afterTurn (agent : Agent (Observed σ))
    (userMessage : ChatMessage) (outcome : Except AgentError InnerTurnOutcome)
    (live : Live (Observed σ)) :
    (agent.afterTurn userMessage outcome live).calls = live.components.2 := by
  match outcome with
  | .ok (.completed _) | .ok (.awaitingApproval _) | .error _ => rfl

/-- Reading an observed token leaves the calls as they are. -/
theorem Agent.Consulted.calls {agent : Agent (Observed σ)} {op : AgentOp σ}
    {state : Observed σ} (consulted : agent.Consulted op.observed state) :
    state.2 = agent.calls := by
  obtain rfl | ⟨token, given, rfl⟩ := consulted
  · rfl
  · cases op <;> cases given <;> rfl

/-- Every approval-aware operation, in any state of an agent, acts with consent. -/
theorem Agent.actsWithConsent (decided : DecidedBy components.tools decide tools)
    (never : NeverExecutes decide) (agent : Agent (Observed σ)) (op : AgentOp σ)
    (aware : op.IsApprovalAware) :
    ActsWithConsent (perform (components.observedBy tools)) agent op.observed := by
  have step := perform_step (components.observedBy tools) agent op.observed
  unfold ActsWithConsent
  generalize agent.perform (components.observedBy tools) op.observed = final at step
  generalize performed : op.observed = observed at step ⊢
  cases step with
  | refused state consulted noTurn noCancel =>
      rw [← performed] at consulted
      exact .inl consulted.calls
  | direct =>
      cases op with
      | runTurn _ _ => exact aware.elim
      | runTurnWithApproval _ _ | approvePendingTool _ _ | cancelPendingTurn _
      | resetConversation _ => cases performed
  | @approvalAware _ _ state consulted outcome live _ _ _ _ ran =>
      rw [← performed] at consulted
      cases op with
      | runTurnWithApproval userMessage cancellation =>
          injection performed with sameMessage sameToken
          subst sameMessage sameToken
          have quiet : Quiet (agent.newLive state) live :=
            of_wp ((runTurnInner_quiet agent.config.budget
              (turnName agent.nextTurnId) decided never userMessage cancellation 1
              true).wp (agent.newLive state)) ran
          rw [calls_afterTurn, quiet]
          exact .inl consulted.calls
      | runTurn _ _ | approvePendingTool _ _ | cancelPendingTurn _
      | resetConversation _ => cases performed
  | @resumed _ _ state consulted pending outcome live awaiting suspended accepted _ ran =>
      rw [← performed] at consulted
      cases op with
      | approvePendingTool decision cancellation =>
          injection performed with sameDecision sameToken
          subst sameDecision sameToken
          have reaches : ReachesAtMost (some decision)
              ⟨agent.session, pending.tracker, state⟩ live :=
            of_wp (continuePendingTurn_reaches agent.config.budget
              pending.tracker.snapshot.id decided never pending.userMessage pending.batch
              pending.nextCall decision cancellation
              ⟨agent.session, pending.tracker, state⟩) ran
          rw [calls_afterTurn, ← consulted.calls]
          obtain quiet | ⟨used, request, same, approved, isFor, noted⟩ := reaches
          · exact .inl quiet
          · cases same
            obtain ⟨round, callId, toolName⟩ := validatePendingDecision_eq_ok accepted
            exact .inr ⟨pending, decision, request,
              ⟨⟨_, rfl⟩, awaiting, suspended, accepted, approved, round, callId, toolName⟩,
              isFor, noted⟩
      | runTurn _ _ | runTurnWithApproval _ _ | cancelPendingTurn _
      | resetConversation _ => cases performed
  | cancelled | cancelRefused | reset => exact .inl rfl

/-- In every run of approval-aware operations, the executing hooks of a broker whose
decision never executes are reached only by accepted approvals, each at most once. -/
theorem consent_at_each_step (decided : DecidedBy components.tools decide tools)
    (never : NeverExecutes decide) (agent : Agent (Observed σ)) (ops : List (AgentOp σ))
    (aware : ∀ op ∈ ops, op.IsApprovalAware) :
    EachStep (Agent.perform (components.observedBy tools))
      (Agent.ActsWithConsent (Agent.perform (components.observedBy tools))) agent
      (ops.map AgentOp.observed) := by
  induction ops generalizing agent with
  | nil => trivial
  | cons op ops ih =>
      exact ⟨agent.actsWithConsent decided never op (aware op (by simp)),
        ih _ fun later member =>
          aware later (List.mem_cons_of_mem _ member)⟩

end Operations

/-- The fail-closed default of a broker never executes. -/
theorem neverExecutes_requireApproval :
    NeverExecutes fun request => (Fallible.ofExcept (requireApproval request) :
      Fallible σ ComponentError ToolDecision) := by
  intro request state
  rw [exec_ofExcept]
  unfold requireApproval
  cases toolErrorOf _ _ with
  | ok value => simp [Except.map]
  | error error => simp [Except.map]

/-- An approval of the scripted call. -/
def echoApproval : ToolApprovalDecision where
  protocolVersion := toolProtocolVersion
  round := 1
  callId := echoCall.id
  toolName := echoCall.name
  state := .approved "ticket-1"
  valid := by decide

/-- The rule applies to a call that is asked for, approved and run. -/
theorem consent_at_each_step_asking : EachStep
      (Agent.perform (askingComponents.observedBy askingComponents.tools.observed))
      (Agent.ActsWithConsent
        (Agent.perform (askingComponents.observedBy askingComponents.tools.observed)))
      (.fresh ([askFor [echoCall], .ok (.new "done" none)], []))
      ([.runTurnWithApproval (.user "hello") .fresh,
        .approvePendingTool echoApproval .fresh].map AgentOp.observed) :=
  consent_at_each_step .broker neverExecutes_requireApproval _ _
    (by simp [AgentOp.IsApprovalAware])

end AgentSpine
end YunXi
