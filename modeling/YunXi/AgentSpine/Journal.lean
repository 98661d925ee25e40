import YunXi.AgentSpine.Operation

/-!
# What a running turn writes

A turn program only appends to the session log, under its own turn id, and
never lowers its tool-call counter.  `Continues` collects this as one preorder
on the parts a turn updates; every program of the turn loop preserves it, and
`TurnExit` adds what is known of the three ways a turn leaves the loop.
-/

namespace YunXi
namespace AgentSpine

open Fallible
open Protocol

variable {σ : Type}

namespace SessionLog

/-- The log grows by a list of events, each accepted when its turn comes. -/
def Grows : SessionLog → List SessionEvent → SessionLog → Prop
  | log, [], grown => grown = log
  | log, event :: events, grown =>
      log.Accepts event ∧ (log.extend event).Grows events grown

theorem Grows.append {first second third : SessionLog} {earlier later : List SessionEvent}
    (firstGrowth : first.Grows earlier second)
    (secondGrowth : second.Grows later third) :
    first.Grows (earlier ++ later) third := by
  induction earlier generalizing first with
  | nil =>
      cases firstGrowth
      exact secondGrowth
  | cons event earlier ih =>
      exact ⟨firstGrowth.1, ih firstGrowth.2⟩

theorem Grows.single {log : SessionLog} {event : SessionEvent}
    (accepts : log.Accepts event) :
    log.Grows [event] (log.extend event) :=
  ⟨accepts, rfl⟩

/-- A property kept by every accepted event is kept by growth. -/
theorem Grows.keeps {log grown : SessionLog} {events : List SessionEvent}
    (growth : log.Grows events grown)
    (property : SessionLog → Prop)
    (atStart : property log)
    (step : ∀ middle event, property middle → event ∈ events → middle.Accepts event →
      property (middle.extend event)) :
    property grown := by
  induction events generalizing log with
  | nil =>
      cases growth
      exact atStart
  | cons event events ih =>
      refine ih growth.2 (step log event atStart (by simp) growth.1) ?_
      intro middle later holds member accepts
      exact step middle later holds (List.mem_cons_of_mem _ member) accepts

theorem Grows.events {log grown : SessionLog} {events : List SessionEvent}
    (growth : log.Grows events grown) :
    grown.events = log.events ++ events := by
  induction events generalizing log with
  | nil =>
      cases growth
      simp
  | cons event events ih =>
      rw [ih growth.2, events_extend, List.append_assoc]
      rfl

end SessionLog

/-- An event a turn may log before it ends. -/
def SessionEvent.IsProgressOf (turnId : String) (event : SessionEvent) : Prop :=
  event.turnId = turnId ∧ event.isTerminal = false

/-- A turn went on from one state to another without ending. -/
structure Continues (turnId : String) (before after : Live σ) : Prop where
  grows : ∃ events, before.session.Grows events after.session ∧
    ∀ event ∈ events, event.IsProgressOf turnId
  snapshot : after.tracker.snapshot = before.tracker.snapshot
  toolCalls : before.tracker.toolCalls ≤ after.tracker.toolCalls

namespace Continues

variable {turnId : String}

/-- A step that leaves the log alone and does not lower the counter. -/
theorem silent {before after : Live σ}
    (session : after.session = before.session)
    (snapshot : after.tracker.snapshot = before.tracker.snapshot)
    (toolCalls : before.tracker.toolCalls ≤ after.tracker.toolCalls) :
    Continues turnId before after :=
  ⟨⟨[], session, by simp⟩, snapshot, toolCalls⟩

/-- Logging an accepted event of the turn. -/
theorem logged {live : Live σ} {event : SessionEvent}
    (accepts : live.session.Accepts event)
    (progress : event.IsProgressOf turnId) :
    Continues turnId live { live with session := live.session.extend event } :=
  ⟨⟨[event], .single accepts, by simpa using progress⟩, rfl, Nat.le_refl _⟩

instance : Std.Refl (Continues (σ := σ) turnId) where
  refl _ := silent rfl rfl (Nat.le_refl _)

instance : IsTrans (Live σ) (Continues turnId) where
  trans _ _ _ first second := by
    obtain ⟨earlier, firstGrowth, firstProgress⟩ := first.grows
    obtain ⟨later, secondGrowth, secondProgress⟩ := second.grows
    refine ⟨⟨earlier ++ later, firstGrowth.append secondGrowth, ?_⟩,
      second.snapshot.trans first.snapshot, first.toolCalls.trans second.toolCalls⟩
    intro event member
    rcases List.mem_append.mp member with member | member
    · exact firstProgress event member
    · exact secondProgress event member

end Continues

section Preservation

variable {turnId : String}

/-- The program never ends the turn and never lowers its counter. -/
abbrev KeepsRunning {α : Type} (turnId : String) (program : TurnProgram σ α) : Prop :=
  Preserves (Continues turnId) program

namespace KeepsRunning

open TurnProgram

theorem record {event : SessionEvent} (progress : event.IsProgressOf turnId) :
    KeepsRunning (σ := σ) turnId (record event) := by
  intro live
  change wp _ (fun _ final => Continues turnId live final) live
  refine wp_record ?_ ?_
  · exact fun accepts => .logged accepts progress
  · exact fun _ _ => Std.Refl.refl live

theorem checkCancellation (turnId : String) (cancellation : SharedToken σ) :
    KeepsRunning turnId (checkCancellation cancellation) :=
  fun _ => .silent rfl rfl (Nat.le_refl _)

theorem protocolCheck {α : Type} (turnId code : String)
    (result : Except ToolProtocolError α) :
    KeepsRunning (σ := σ) turnId (protocolCheck code result) :=
  fun _ => .silent rfl rfl (Nat.le_refl _)

theorem throwIf (turnId : String) (condition : Prop) [Decidable condition] (error : AgentError) :
    KeepsRunning (σ := σ) turnId (throwIf condition error) :=
  fun _ => .silent rfl rfl (Nat.le_refl _)

theorem recordResolved (approval : Option ToolApprovalDecision) :
    KeepsRunning (σ := σ) turnId (recordResolved turnId approval) := by
  cases approval with
  | none => exact .pure ()
  | some decision => exact record ⟨rfl, rfl⟩

theorem settleCall (round : Nat) (call : ToolCall)
    (approval : Option ToolApprovalDecision) (outcome : ToolResultOutcome) :
    KeepsRunning (σ := σ) turnId (settleCall turnId round call approval outcome) := by
  refine .bind (recordResolved approval) fun _ => ?_
  refine .bind (protocolCheck _ _ _) fun result => ?_
  exact record ⟨rfl, rfl⟩

theorem finishCall (batch : ToolCallBatch) (approval : Option ToolApprovalDecision)
    (call : ToolCall) (index : Nat) (answer : Except ComponentError ToolExecutionOutcome) :
    KeepsRunning (σ := σ) turnId
      (finishCall turnId batch approval call index answer) := by
  match answer with
  | .ok (.awaitingApproval request) => exact .bind (record ⟨rfl, rfl⟩) fun _ => .pure _
  | .ok (.executed outcome) => exact .bind (settleCall _ _ _ _) fun _ => .pure _
  | .error error =>
      exact .bind (protocolCheck _ _ _) fun _ =>
        .bind (settleCall _ _ _ _) fun _ => .pure _

variable (components : Components σ)

/-- The preorder is kept by the parts of a round. -/
theorem roundClosed (turnId : String) (cancellation : SharedToken σ) :
    RoundClosed components turnId cancellation (Continues turnId) where
  record _ ofTurn notTerminal _ := record ⟨ofTurn, notTerminal⟩
  checkCancellation := checkCancellation turnId cancellation
  catalog _ := .silent rfl rfl (Nat.le_refl _)
  assemble _ _ := .silent rfl rfl (Nat.le_refl _)
  complete _ _ := .silent rfl rfl (Nat.le_refl _)
  updateTracker _ toolCalls snapshot live :=
    .silent rfl (snapshot live.tracker) (Nat.le_of_eq (toolCalls live.tracker).symm)

end KeepsRunning
end Preservation

/-- A suspended turn has counted the call that waits. -/
structure CountsSuspension (budget : TurnBudget) (before after : Live σ) : Prop where
  counted : before.tracker.toolCalls < after.tracker.toolCalls
  bounded : after.tracker.toolCalls ≤ budget.maxToolCalls

/-- The exits of a batch. -/
structure BatchExit (turnId : String) (budget : TurnBudget) (before : Live σ)
    (result : Except AgentError (Option PendingTool)) (after : Live σ) : Prop where
  continues : Continues turnId before after
  suspension : ∀ pending, result = .ok (some pending) →
    CountsSuspension budget before after

/-- The exits of a turn: its last event is its completion, or it has not logged an
end. -/
inductive TurnExit (turnId : String) (budget : TurnBudget) (before : Live σ) :
    Except AgentError InnerTurnOutcome → Live σ → Prop
  | completed {response : ChatResult} {middle after : Live σ}
      (continues : Continues turnId before middle)
      (accepts : middle.session.Accepts (.turnCompleted turnId response.content))
      (session : after.session =
        middle.session.extend (.turnCompleted turnId response.content))
      (snapshot : after.tracker.snapshot = middle.tracker.snapshot) :
      TurnExit turnId budget before (.ok (.completed response)) after
  | suspended {pending : PendingTool} {after : Live σ}
      (continues : Continues turnId before after)
      (suspension : CountsSuspension budget before after) :
      TurnExit turnId budget before (.ok (.awaitingApproval pending)) after
  | failed {error : AgentError} {after : Live σ}
      (continues : Continues turnId before after) :
      TurnExit turnId budget before (.error error) after

section Exits

variable {turnId : String} (components : Components σ) (budget : TurnBudget)

/-- An exit of the rest of a turn is an exit of the turn. -/
theorem TurnExit.after {before middle after : Live σ}
    {result : Except AgentError InnerTurnOutcome}
    (continues : Continues turnId before middle)
    (leaves : TurnExit turnId budget middle result after) :
    TurnExit turnId budget before result after := by
  cases leaves with
  | completed rest accepts session snapshot =>
      exact .completed (IsTrans.trans _ _ _ continues rest) accepts session snapshot
  | suspended rest suspension =>
      exact .suspended (IsTrans.trans _ _ _ continues rest)
        ⟨Nat.lt_of_le_of_lt continues.toolCalls suspension.counted, suspension.bounded⟩
  | failed rest => exact .failed (IsTrans.trans _ _ _ continues rest)

theorem processCall_exit (batch : ToolCallBatch) (approval : Option ToolApprovalDecision)
    (cancellation : SharedToken σ) (mode : ExecutionMode) (call : ToolCall) (index : Nat)
    (before : Live σ) :
    (processCall components budget turnId batch approval cancellation mode call index).wp
      (BatchExit turnId budget before) before := by
  unfold processCall
  rw [wp_bind]
  refine wp_admitCall ?_ (fun error _ => ⟨.silent rfl rfl (Nat.le_refl _), by simp⟩)
  intro admits
  rw [andThen_ok, wp_bind, TurnProgram.wp_tryComponent]
  refine wp_of_forall fun answer state => ?_
  rw [andThen_ok]
  have counted : Continues turnId before
      { before.counted (cancellation before.components).2 with components := state } :=
    .silent rfl rfl (Nat.le_succ _)
  refine wp_mono (wp_and
    ((KeepsRunning.finishCall batch approval call index answer).wp _)
    ((logsOnly_finishCall turnId batch approval call index answer).wp _)) ?_
  rintro result after ⟨finished, logsOnly⟩
  refine ⟨IsTrans.trans _ _ _ counted finished, fun _ _ => ?_⟩
  have toolCalls : after.tracker.toolCalls = before.tracker.toolCalls + 1 := by
    rw [logsOnly.tracker]
    rfl
  have inBudget := admits.inBudget
  exact ⟨by omega, by omega⟩

/-- A batch exits as its calls do. -/
theorem processCalls_exit (batch : ToolCallBatch) (startCall : Nat)
    (approval : Option ToolApprovalDecision) (cancellation : SharedToken σ)
    (mode : ExecutionMode) (calls : List (ToolCall × Nat)) (before : Live σ) :
    (processCalls components budget turnId batch startCall approval cancellation mode
      calls).wp (BatchExit turnId budget before) before := by
  induction calls generalizing before with
  | nil => exact ⟨Std.Refl.refl before, fun _ suspended => by cases suspended⟩
  | cons first calls ih =>
      refine wp_bind_of
        (processCall_exit components budget batch _ cancellation mode first.1 first.2 before)
        ?_ ?_
      · intro pending middle firstExit
        cases pending with
        | some pending =>
            exact ⟨firstExit.continues, fun _ _ => firstExit.suspension pending rfl⟩
        | none =>
            refine wp_mono (ih middle) ?_
            intro result after restExit
            refine ⟨IsTrans.trans _ _ _ firstExit.continues restExit.continues, ?_⟩
            intro pending suspended
            have suspension := restExit.suspension pending suspended
            exact ⟨Nat.lt_of_le_of_lt firstExit.continues.toolCalls suspension.counted,
              suspension.bounded⟩
      · exact fun error middle firstExit => ⟨firstExit.continues, by simp⟩

theorem processToolBatch_exit (batch : ToolCallBatch) (startCall : Nat)
    (approval : Option ToolApprovalDecision) (cancellation : SharedToken σ)
    (mode : ExecutionMode) (before : Live σ) :
    (processToolBatch components budget turnId batch startCall approval cancellation
      mode).wp (BatchExit turnId budget before) before :=
  processCalls_exit components budget batch startCall approval cancellation mode _ before

/-- A round either goes on with a batch or completes the turn. -/
theorem acceptResponse_exit (round : Nat) (response : ChatResult) (before : Live σ) :
    (acceptResponse budget turnId round response).wp
      (fun result after =>
        match result with
        | .ok none => TurnExit turnId budget before (.ok (.completed response)) after
        | .ok (some _) | .error _ => Continues turnId before after) before := by
  unfold acceptResponse
  refine (KeepsRunning.protocolCheck turnId _ _).wp_bind ?_ ?_
  · intro batch middle checked
    refine (KeepsRunning.record ⟨rfl, rfl⟩).wp_bind ?_ ?_
    · intro _ logged responded
      have responded := IsTrans.trans _ _ _ checked responded
      cases batch with
      | some batch =>
          refine (KeepsRunning.record ⟨rfl, rfl⟩).wp_bind ?_ ?_
          all_goals exact fun _ _ requested => IsTrans.trans _ _ _ responded requested
      | none =>
          refine (KeepsRunning.throwIf turnId _ _).wp_bind ?_ ?_
          · intro _ judged nonblank
            have nonblank := IsTrans.trans _ _ _ responded nonblank
            rw [wp_bind]
            refine TurnProgram.wp_record ?_ ?_
            · exact fun accepts => .completed nonblank accepts rfl rfl
            · exact fun _ _ => nonblank
          · exact fun _ _ refused => IsTrans.trans _ _ _ responded refused
    · exact fun _ _ refused => IsTrans.trans _ _ _ checked refused
  · exact fun _ _ checked => checked

/-- Every run of the loop leaves it by one of the exits. -/
theorem turnLoop_exit (userMessage : ChatMessage) (cancellation : SharedToken σ)
    (mode : ExecutionMode) (approval : Option ToolApprovalDecision)
    (remaining round : Nat) (before : Live σ) :
    (turnLoop components budget turnId userMessage cancellation mode approval remaining
      round).wp (TurnExit turnId budget before) before := by
  induction remaining generalizing round before with
  | zero =>
      refine (KeepsRunning.checkCancellation turnId cancellation).wp_bind ?_ ?_
      all_goals exact fun _ _ checked => .failed checked
  | succ remaining ih =>
      refine ((KeepsRunning.roundClosed components turnId cancellation).askModel budget
        userMessage round).wp_bind ?_ (fun _ _ asked => .failed asked)
      intro response answered asked
      refine wp_bind_of
        (acceptResponse_exit budget round response answered) ?_ ?_
      · intro batch accepted accepts
        cases batch with
        | none => exact accepts.after _ asked
        | some batch =>
            have requested := IsTrans.trans _ _ _ asked accepts
            refine wp_bind_of
              (processToolBatch_exit components budget batch 0 approval cancellation mode
                accepted) ?_ ?_
            · intro pending processed batchExit
              have ran := IsTrans.trans _ _ _ requested batchExit.continues
              cases pending with
              | some pending =>
                  exact (TurnExit.suspended batchExit.continues
                    (batchExit.suspension pending rfl)).after _ requested
              | none =>
                  rw [wp_bind, wp_ofExcept]
                  cases nextRound budget round with
                  | error error => exact .failed ran
                  | ok next =>
                      refine wp_mono (ih next processed) ?_
                      exact fun _ _ leaves => leaves.after _ ran
            · exact fun _ _ batchExit =>
                .failed (IsTrans.trans _ _ _ requested batchExit.continues)
      · exact fun _ _ refused => .failed (IsTrans.trans _ _ _ asked refused)

/-- A turn logs its start under its own id and then runs the loop. -/
theorem runTurnInner_exit (userMessage : ChatMessage) (cancellation : SharedToken σ)
    (startingRound : Nat) (recordStart : Bool) (mode : ExecutionMode)
    (approval : Option ToolApprovalDecision) (before : Live σ) :
    (runTurnInner components budget turnId userMessage cancellation startingRound
      recordStart mode approval).wp (TurnExit turnId budget before) before := by
  unfold runTurnInner
  have start : KeepsRunning (σ := σ) turnId
      (if recordStart then TurnProgram.record (.turnStarted turnId userMessage)
        else pure ()) := by
    cases recordStart with
    | true => exact .record ⟨rfl, rfl⟩
    | false => exact .pure ()
  refine start.wp_bind ?_ (fun _ _ refused => .failed refused)
  intro _ middle started
  refine wp_mono (turnLoop_exit components budget userMessage cancellation mode
    approval _ startingRound middle) ?_
  exact fun _ _ leaves => leaves.after _ started

theorem continuePendingTurn_exit (userMessage : ChatMessage) (batch : ToolCallBatch)
    (nextCall : Nat) (approval : ToolApprovalDecision) (cancellation : SharedToken σ)
    (before : Live σ) :
    (continuePendingTurn components budget turnId userMessage batch nextCall approval
      cancellation).wp (TurnExit turnId budget before) before := by
  unfold continuePendingTurn
  refine wp_bind_of
    (processToolBatch_exit components budget batch nextCall (some approval) cancellation
      .approvalAware before) ?_ (fun _ _ batchExit => .failed batchExit.continues)
  intro pending processed batchExit
  cases pending with
  | some pending =>
      exact .suspended batchExit.continues (batchExit.suspension pending rfl)
  | none =>
      rw [wp_bind, wp_ofExcept]
      cases nextRound budget batch.round with
      | error error => exact .failed batchExit.continues
      | ok next =>
          refine wp_mono (runTurnInner_exit components budget userMessage
            cancellation next false .approvalAware none processed) ?_
          exact fun _ _ leaves => leaves.after _ batchExit.continues

end Exits

section Legacy

variable (components : Components σ) (budget : TurnBudget) (turnId : String)

/-- The direct path only ever answers with the outcome of the hook. -/
theorem exec_executeTool_legacy (request : ToolRequest)
    (approval : Option ToolApprovalDecision) (cancellation : SharedToken σ) (state : σ) :
    (executeTool components .legacy request approval cancellation).exec state =
      (((components.tools.execute request cancellation).exec state).1.map .executed,
        ((components.tools.execute request cancellation).exec state).2) := by
  unfold executeTool
  rw [exec_bind]
  generalize (components.tools.execute request cancellation).exec state = ran
  match ran with
  | (.ok outcome, after) => rfl
  | (.error error, after) => rfl

theorem processCall_legacy (batch : ToolCallBatch) (approval : Option ToolApprovalDecision)
    (cancellation : SharedToken σ) (call : ToolCall) (index : Nat) (live : Live σ) :
    (processCall components budget turnId batch approval cancellation .legacy call
      index).wp (fun result _ => ∀ pending, result ≠ .ok (some pending)) live := by
  unfold processCall
  rw [wp_bind]
  refine wp_admitCall ?_ (fun _ _ => by simp)
  intro admits
  rw [andThen_ok, wp_bind, TurnProgram.wp_tryComponent]
  unfold wp
  rw [exec_executeTool_legacy]
  dsimp only
  rw [andThen_ok]
  cases ((components.tools.execute ⟨turnId, batch.round, call⟩ cancellation).exec
    (live.counted (cancellation live.components).2).components).1 with
  | ok outcome =>
      exact wp_bind_of_forall (fun _ _ => by simp) (fun _ _ => by simp)
  | error error =>
      refine wp_bind_of_forall (fun outcome middle => ?_) (fun _ _ => by simp)
      exact wp_bind_of_forall (fun _ _ => by simp) (fun _ _ => by simp)

theorem processCalls_legacy (batch : ToolCallBatch) (startCall : Nat)
    (approval : Option ToolApprovalDecision) (cancellation : SharedToken σ)
    (entries : List (ToolCall × Nat)) (live : Live σ) :
    (processCalls components budget turnId batch startCall approval cancellation .legacy
      entries).wp (fun result _ => ∀ pending, result ≠ .ok (some pending)) live := by
  induction entries generalizing live with
  | nil => simp [processCalls]
  | cons entry entries ih =>
      refine wp_bind_of (processCall_legacy components budget turnId batch _
        cancellation entry.1 entry.2 live) ?_ (fun _ _ _ => by simp)
      intro pending middle notSuspended
      cases pending with
      | some pending => exact absurd rfl (notSuspended pending)
      | none => exact ih middle

theorem turnLoop_legacy (userMessage : ChatMessage) (cancellation : SharedToken σ)
    (approval : Option ToolApprovalDecision) (remaining round : Nat) (live : Live σ) :
    (turnLoop components budget turnId userMessage cancellation .legacy approval remaining
      round).wp (fun result _ => ∀ pending, result ≠ .ok (.awaitingApproval pending))
      live := by
  induction remaining generalizing round live with
  | zero =>
      exact wp_bind_of_forall (fun _ _ => by simp) (fun _ _ => by simp)
  | succ remaining ih =>
      refine wp_bind_of_forall (fun response answered => ?_) (fun _ _ => by simp)
      refine wp_bind_of_forall (fun batch accepted => ?_) (fun _ _ => by simp)
      cases batch with
      | none => simp
      | some batch =>
          refine wp_bind_of (processCalls_legacy components budget turnId batch 0
            approval cancellation _ accepted) ?_ (fun _ _ _ => by simp)
          intro pending processed notSuspended
          cases pending with
          | some pending => exact absurd rfl (notSuspended pending)
          | none =>
              refine wp_bind_of_forall (fun round middle => ?_)
                (fun _ _ => by simp)
              exact ih round middle

theorem runTurnInner_legacy (userMessage : ChatMessage) (cancellation : SharedToken σ)
    (startingRound : Nat) (recordStart : Bool) (approval : Option ToolApprovalDecision)
    (live : Live σ) :
    (runTurnInner components budget turnId userMessage cancellation startingRound
      recordStart .legacy approval).wp
      (fun result _ => ∀ pending, result ≠ .ok (.awaitingApproval pending)) live := by
  unfold runTurnInner
  refine wp_bind_of_forall (fun _ middle => ?_) (fun _ _ => by simp)
  exact turnLoop_legacy components budget turnId userMessage cancellation approval _ _ middle

end Legacy

namespace Agent

variable {components : Components σ} {agent : Agent σ}
variable {outcome : Except AgentError InnerTurnOutcome} {before after : Live σ}

variable {cancellation : SharedToken σ}

theorem exit_of_directProgram {userMessage : ChatMessage}
    (ran : (agent.directProgram components userMessage cancellation).exec before =
      (outcome, after)) :
    TurnExit (turnName agent.nextTurnId) agent.config.budget before outcome after :=
  of_wp (runTurnInner_exit components agent.config.budget userMessage cancellation
    1 true .legacy none before) ran

theorem exit_of_approvalProgram {userMessage : ChatMessage}
    (ran : (agent.approvalProgram components userMessage cancellation).exec before =
      (outcome, after)) :
    TurnExit (turnName agent.nextTurnId) agent.config.budget before outcome after :=
  of_wp (runTurnInner_exit components agent.config.budget userMessage cancellation
    1 true .approvalAware none before) ran

theorem exit_of_resumeProgram {pending : PendingTurn} {decision : ToolApprovalDecision}
    (ran : (agent.resumeProgram components pending decision cancellation).exec before =
      (outcome, after)) :
    TurnExit pending.tracker.snapshot.id agent.config.budget before outcome after :=
  of_wp (continuePendingTurn_exit components agent.config.budget
    pending.userMessage pending.batch pending.nextCall decision cancellation before) ran

/-- How an operation leaves a turn that had counted `calls`: over, or waiting later in
its budget. -/
inductive TurnLeft (budget : TurnBudget) (kept : Option PendingTurn) (calls : Nat) :
    Except AgentError AgentTurnOutcome → Agent σ → Prop
  | ended {result : Except AgentError AgentTurnOutcome} {final : Agent σ}
      (answered : ∀ request, result ≠ .ok (.awaitingApproval request))
      (ready : final.state = .ready)
      (released : final.pendingTurn = none ∨ final.pendingTurn = kept)
      (config : final.config.budget = budget) :
      TurnLeft budget kept calls result final
  | waits (pending : PendingTurn) {final : Agent σ}
      (awaiting : final.state = .awaitingApproval)
      (suspended : final.pendingTurn = some pending)
      (config : final.config.budget = budget)
      (counted : calls < pending.tracker.toolCalls)
      (bounded : pending.tracker.toolCalls ≤ budget.maxToolCalls) :
      TurnLeft budget kept calls (.ok (.awaitingApproval pending.request)) final

theorem TurnLeft.budget {budget : TurnBudget} {kept : Option PendingTurn} {calls : Nat}
    {result : Except AgentError AgentTurnOutcome} {final : Agent σ}
    (left : TurnLeft budget kept calls result final) : final.config.budget = budget := by
  cases left <;> assumption

theorem finishTurnOutcome_left (agent : Agent σ) {turnId : String}
    (userMessage : ChatMessage)
    (leaves : TurnExit turnId agent.config.budget before outcome after) :
    (finishTurnOutcome outcome after.tracker userMessage).wp
      (TurnLeft agent.config.budget agent.pendingTurn before.tracker.toolCalls)
      { agent with session := after.session, components := after.components } := by
  cases leaves with
  | completed => exact .ended (fun _ => nofun) rfl (.inr rfl) rfl
  | suspended continues suspends =>
      exact .waits (suspension after.tracker userMessage _) rfl rfl rfl
        suspends.counted suspends.bounded
  | failed => exact .ended (fun _ => nofun) rfl (.inl rfl) rfl

/-- A ready agent is left so by the first operation of an approval-aware turn. -/
theorem runTurnWithApproval_left (ready : agent.state = .ready)
    (userMessage : ChatMessage) (cancellation : SharedToken σ) :
    (runTurnWithApproval components userMessage cancellation).wp
      (TurnLeft agent.config.budget agent.pendingTurn 0) agent := by
  obtain ⟨-, -, -, admitted⟩ | ⟨error, state, -, refused⟩ :=
    startTurn_cases agent "start an approval-aware turn" userMessage cancellation
  · unfold wp
    rw [runTurnWithApproval_admitted components admitted]
    generalize ran : (agent.approvalProgram components userMessage cancellation).exec
      (agent.newLive (cancellation agent.components).2) = turn
    obtain ⟨outcome, after⟩ := turn
    have leaves := exit_of_approvalProgram ran
    exact finishTurnOutcome_left (agent.started _) userMessage leaves
  · unfold wp runTurnWithApproval
    simp only [exec_bind, refused]
    exact .ended (fun _ => nofun) ready (.inr rfl) rfl

/-- A suspended turn is left so by an admitted decision, with nothing else waiting. -/
theorem approvePendingTool_left {pending : PendingTurn} {decision : ToolApprovalDecision}
    {state : σ}
    (suspended : agent.pendingTurn = some pending)
    (admitted : agent.admitApproval pending decision cancellation = some state) :
    (approvePendingTool components decision cancellation).wp
      (TurnLeft agent.config.budget none pending.tracker.toolCalls) agent := by
  unfold wp
  rw [approve_admitted components agent pending decision cancellation state suspended
    admitted]
  generalize ran : (agent.resumeProgram components pending decision cancellation).exec
    ⟨agent.session, pending.tracker, state⟩ = turn
  obtain ⟨outcome, after⟩ := turn
  have leaves := exit_of_resumeProgram ran
  exact finishTurnOutcome_left (agent.resumed state) pending.userMessage leaves

end Agent

end AgentSpine
end YunXi
