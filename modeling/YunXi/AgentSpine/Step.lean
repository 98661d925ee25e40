import YunXi.AgentSpine.Agent

/-!
# Parts of a turn

Spec lemmas for the session log, the primitive turn programs, one round and one
call of a batch, and the rule that lifts a relation on the parts a turn updates
from these steps to a whole turn.
-/

namespace YunXi
namespace AgentSpine

open Fallible
open Protocol

variable {σ : Type}

variable {event : SessionEvent}

namespace SessionLog

/-- The log with one more event. -/
def extend (log : SessionLog) (event : SessionEvent) : SessionLog :=
  { log with
    records := log.records ++ [⟨log.nextSequence, event⟩]
    bytesUsed := log.bytesUsed + event.encodedSize
    nextSequence := log.nextSequence + 1 }

@[simp] theorem events_extend (log : SessionLog) (event : SessionEvent) :
    (log.extend event).events = log.events ++ [event] := by
  simp [extend, events]

@[simp] theorem seed_extend (log : SessionLog) (event : SessionEvent) :
    (log.extend event).seed = log.seed := rfl

/-- The limits of the log leave room for the event. -/
structure HasRoomFor (log : SessionLog) (event : SessionEvent) : Prop where
  eventFits : event.encodedSize ≤ log.limits.maxEventBytes
  recordsFit : log.records.length < log.limits.maxEvents
  bytesFit : log.bytesUsed + event.encodedSize ≤ log.limits.maxBytes
  wordFits : log.bytesUsed + event.encodedSize ≤ maxWord
  sequenceFits : log.nextSequence + 1 ≤ maxWord

variable {log : SessionLog}

theorem checkRoom_of_hasRoomFor (room : log.HasRoomFor event) :
    log.checkRoom event = .ok (log.bytesUsed + event.encodedSize, log.nextSequence + 1) := by
  have eventFits := room.eventFits
  have recordsFit := room.recordsFit
  have bytesFit := room.bytesFit
  simp only [checkRoom, checkedAdd, room.wordFits, room.sequenceFits, if_true]
  rw [if_neg (by omega), if_neg (by omega), if_neg (by omega)]

theorem hasRoomFor_of_checkRoom {room : Nat × Nat} (passes : log.checkRoom event = .ok room) :
    log.HasRoomFor event := by
  unfold checkRoom checkedAdd at passes
  dsimp only at passes
  split at passes
  · cases passes
  split at passes
  · cases passes
  by_cases wordFits : log.bytesUsed + event.encodedSize ≤ maxWord
  · by_cases sequenceFits : log.nextSequence + 1 ≤ maxWord
    · simp only [wordFits, sequenceFits, if_true] at passes
      split at passes
      · cases passes
      · exact ⟨by omega, by omega, by omega, wordFits, sequenceFits⟩
    · simp only [wordFits, sequenceFits, if_true, if_false] at passes
      split at passes <;> cases passes
  · simp only [wordFits, if_false] at passes
    cases passes

/-- The log accepts the event: it is valid and there is room for it. -/
def Accepts (log : SessionLog) (event : SessionEvent) : Prop :=
  event.validate = .ok () ∧ log.HasRoomFor event

/-- An accepted event is appended with the next sequence number. -/
theorem append_of_accepts (accepts : log.Accepts event) :
    log.append event = .ok (log.nextSequence, log.extend event) := by
  unfold append
  rw [accepts.1, checkRoom_of_hasRoomFor accepts.2]
  rfl

/-- A successful reset starts an empty log after the new seed. -/
theorem resetWithMessages_eq_ok {replaced : SessionLog} {messages : List ChatMessage}
    (reset : log.resetWithMessages messages = .ok replaced) :
    replaced = ⟨log.limits, messages, [], 0, 1⟩ := by
  unfold resetWithMessages at reset
  cases valid : validateSeed messages log.limits.maxBytes with
  | error error =>
      rw [valid] at reset
      cases reset
  | ok passed =>
      rw [valid] at reset
      cases reset
      rfl

/-- A successful append accepted its event and did nothing else. -/
theorem append_eq_ok {extended : SessionLog} {sequence : Nat}
    (appended : log.append event = .ok (sequence, extended)) :
    log.Accepts event ∧ sequence = log.nextSequence ∧ extended = log.extend event := by
  cases valid : event.validate with
  | error error =>
      unfold append at appended
      rw [valid] at appended
      cases appended
  | ok passed =>
      cases room : log.checkRoom event with
      | error error =>
          unfold append at appended
          rw [valid, room] at appended
          cases appended
      | ok total =>
          have accepts : log.Accepts event := ⟨valid, hasRoomFor_of_checkRoom room⟩
          rw [append_of_accepts accepts] at appended
          injection appended with same
          injection same with sameSequence sameLog
          exact ⟨accepts, sameSequence.symm, sameLog.symm⟩

/-- The log refuses an event exactly when the append returns an error. -/
theorem append_eq_error_iff :
    (∃ error, log.append event = .error error) ↔ ¬ log.Accepts event := by
  constructor
  · rintro ⟨error, refused⟩ accepts
    rw [append_of_accepts accepts] at refused
    cases refused
  · intro refused
    cases appended : log.append event with
    | error error => exact ⟨error, rfl⟩
    | ok result => exact absurd (append_eq_ok appended).1 refused

theorem appendIgnored_of_accepts (accepts : log.Accepts event) :
    log.appendIgnored event = log.extend event := by
  unfold appendIgnored
  rw [append_of_accepts accepts]

theorem appendIgnored_of_refuses (refuses : ¬ log.Accepts event) :
    log.appendIgnored event = log := by
  obtain ⟨error, refused⟩ := append_eq_error_iff.mpr refuses
  unfold appendIgnored
  rw [refused]

end SessionLog

variable {post : Except AgentError Unit → Live σ → Prop} {live : Live σ}

namespace TurnProgram

/-- A record either extends the log with an accepted event or changes nothing. -/
theorem wp_record (onOk : live.session.Accepts event →
      post (.ok ()) { live with session := live.session.extend event })
    (onError : ∀ error, ¬ live.session.Accepts event →
      post (.error (.session error)) live) :
    (record event).wp post live := by
  unfold record
  rw [wp_ofFunction]
  cases appended : live.session.append event with
  | error error =>
      exact onError error (SessionLog.append_eq_error_iff.mp ⟨error, appended⟩)
  | ok result =>
      obtain ⟨accepts, -, extended⟩ := SessionLog.append_eq_ok appended
      change post (.ok ()) { live with session := result.2 }
      rw [extended]
      exact onOk accepts

/-- A check of the token changes at most the components. -/
theorem wp_checkCancellation {cancellation : SharedToken σ}
    (onOk : ∀ components, post (.ok ()) { live with components })
    (onError : ∀ error components, post (.error (.cancelled error)) { live with components }) :
    (checkCancellation cancellation).wp post live := by
  unfold checkCancellation
  rw [wp_ofFunction]
  cases checked : (cancellation live.components).1.check with
  | ok passed => simpa [checked, Except.mapError] using onOk _
  | error error => simpa [checked, Except.mapError] using onError error _

@[simp] theorem wp_tryComponent {α : Type} (operation : Fallible σ ComponentError α)
    (post : Except AgentError (Except ComponentError α) → Live σ → Prop) (live : Live σ) :
    (tryComponent operation).wp post live ↔
      operation.wp (fun answer components => post (.ok answer) { live with components })
        live.components := Iff.rfl

@[simp] theorem wp_updateTracker (update : TurnTracker → TurnTracker)
    (post : Except AgentError Unit → Live σ → Prop) (live : Live σ) :
    (updateTracker update).wp post live ↔
      post (.ok ()) { live with tracker := update live.tracker } := Iff.rfl

/-- A protocol check returns its value or a protocol error. -/
theorem wp_protocolCheck {α : Type} {code : String} {result : Except ToolProtocolError α}
    {post : Except AgentError α → Live σ → Prop}
    (onOk : ∀ value, result = .ok value → post (.ok value) live)
    (onError : ∀ error, result = .error error →
      post (.error (.newProtocol code error.display)) live) :
    (protocolCheck code result).wp post live := by
  unfold protocolCheck
  rw [wp_ofExcept]
  cases checked : result with
  | ok value => exact onOk value checked
  | error error => exact onError error checked

end TurnProgram

/-- A relation kept by every part of a round that comes before the model answers. -/
structure RoundClosed (components : Components σ) (turnId : String)
    (cancellation : SharedToken σ) (related : Live σ → Live σ → Prop) : Prop where
  record : ∀ event : SessionEvent, event.turnId = turnId → event.isTerminal = false →
    event.messages = [] → Preserves related (TurnProgram.record event)
  checkCancellation :
    Preserves related (TurnProgram.checkCancellation cancellation)
  catalog : Preserves related
    (TurnProgram.callComponent .tool components.tools.catalog)
  assemble : ∀ request, Preserves related
    (TurnProgram.callComponent .context (components.assemble request))
  complete : ∀ request, Preserves related
    (TurnProgram.callComponent .model (components.complete request cancellation))
  updateTracker : ∀ update : TurnTracker → TurnTracker,
    (∀ tracker, (update tracker).toolCalls = tracker.toolCalls) →
    (∀ tracker, (update tracker).snapshot = tracker.snapshot) →
    Preserves related (TurnProgram.updateTracker update)

namespace RoundClosed

variable {components : Components σ} {turnId : String} {cancellation : SharedToken σ}
variable {related : Live σ → Live σ → Prop} [Std.Refl related] [IsTrans (Live σ) related]

theorem askModel (closed : RoundClosed components turnId cancellation related)
    (budget : TurnBudget) (userMessage : ChatMessage) (round : Nat) :
    Preserves related
      (askModel components budget turnId userMessage cancellation round) := by
  refine .bind closed.checkCancellation fun _ => ?_
  refine .bind (.ofExcept _) fun _ => ?_
  refine .bind (closed.updateTracker _ (fun _ => rfl) (fun _ => rfl)) fun _ => ?_
  refine .bind closed.catalog fun catalog => ?_
  refine .bind (closed.updateTracker _ (fun _ => rfl) (fun _ => rfl)) fun _ => ?_
  refine .bind .get fun _ => ?_
  refine .bind (closed.assemble _) fun chat => ?_
  refine .bind (closed.record _ rfl rfl rfl) fun _ => ?_
  refine .bind .get fun _ => ?_
  refine .bind (.ofExcept _) fun _ => ?_
  refine .bind (closed.updateTracker _ (fun _ => rfl) (fun _ => rfl)) fun _ => ?_
  refine .bind (closed.record _ rfl rfl rfl) fun _ => ?_
  exact closed.complete _

/-- A relation that allows every record of the turn is kept by the whole answer of the
model. -/
theorem acceptResponse (closed : RoundClosed components turnId cancellation related)
    (logs : ∀ event : SessionEvent, event.turnId = turnId →
      Preserves related (TurnProgram.record event))
    (budget : TurnBudget) (round : Nat) (response : ChatResult) :
    Preserves related (acceptResponse budget turnId round response) := by
  refine .bind (.ofExcept _) fun batch => ?_
  refine .bind (logs _ rfl) fun _ => ?_
  cases batch with
  | some batch => exact .bind (logs _ rfl) fun _ => .pure _
  | none =>
      refine .bind (.ofExcept _) fun _ => ?_
      refine .bind (logs _ rfl) fun _ => ?_
      refine .bind (closed.updateTracker _ (fun _ => rfl) (fun _ => rfl)) fun _ => ?_
      exact .pure _

section Loop

variable (budget : TurnBudget) (mode : ExecutionMode) (approval : Option ToolApprovalDecision)

/-- The relation is kept by every call, with the approval of the batch or without. -/
def CallClosed (components : Components σ) (turnId : String)
    (cancellation : SharedToken σ) (related : Live σ → Live σ → Prop) : Prop :=
  ∀ batch call index used, used = none ∨ used = approval →
    Preserves related
      (processCall components budget turnId batch used cancellation mode call index)

variable {budget mode approval}

theorem processCalls
    (calls : CallClosed budget mode approval components turnId cancellation related)
    (batch : ToolCallBatch) (startCall : Nat) (entries : List (ToolCall × Nat)) :
    Preserves related (processCalls components budget turnId batch startCall
      approval cancellation mode entries) := by
  induction entries with
  | nil => exact .pure none
  | cons entry entries ih =>
      refine .bind (calls batch entry.1 entry.2 _ ?_) fun pending => ?_
      · cases approval with
        | none => exact .inl rfl
        | some decision =>
            rw [Option.filter_some]
            split
            · exact .inr rfl
            · exact .inl rfl
      · cases pending with
        | some pending => exact .pure _
        | none => exact ih

/-- A relation kept by the rounds and by every call is kept by the loop. -/
theorem turnLoop (closed : RoundClosed components turnId cancellation related)
    (logs : ∀ event : SessionEvent, event.turnId = turnId →
      Preserves related (TurnProgram.record event))
    (calls : CallClosed budget mode approval components turnId cancellation related)
    (userMessage : ChatMessage) (remaining round : Nat) :
    Preserves related (turnLoop components budget turnId userMessage cancellation
      mode approval remaining round) := by
  induction remaining generalizing round with
  | zero => exact .bind closed.checkCancellation fun _ => .throw _
  | succ remaining ih =>
      refine .bind (closed.askModel budget userMessage round) fun response => ?_
      refine .bind (closed.acceptResponse logs budget round response) fun batch => ?_
      cases batch with
      | none => exact .pure _
      | some batch =>
          refine .bind (processCalls calls batch 0 _) fun pending => ?_
          cases pending with
          | some pending => exact .pure _
          | none => exact .bind (.ofExcept _) fun round => ih round

theorem runTurnInner (closed : RoundClosed components turnId cancellation related)
    (logs : ∀ event : SessionEvent, event.turnId = turnId →
      Preserves related (TurnProgram.record event))
    (calls : CallClosed budget mode approval components turnId cancellation related)
    (userMessage : ChatMessage) (startingRound : Nat) (recordStart : Bool) :
    Preserves related (runTurnInner components budget turnId userMessage
      cancellation startingRound recordStart mode approval) := by
  refine .bind ?_ fun _ => closed.turnLoop logs calls userMessage _ startingRound
  cases recordStart with
  | true => exact logs _ rfl
  | false => exact .pure ()

/-- A relation kept by the rounds and by every call is kept by a resumed turn. -/
theorem continuePendingTurn (closed : RoundClosed components turnId cancellation related)
    (logs : ∀ event : SessionEvent, event.turnId = turnId →
      Preserves related (TurnProgram.record event))
    {decision : ToolApprovalDecision}
    (calls : CallClosed budget .approvalAware (some decision) components turnId cancellation
      related)
    (userMessage : ChatMessage) (batch : ToolCallBatch) (nextCall : Nat) :
    Preserves related (continuePendingTurn components budget turnId userMessage
      batch nextCall decision cancellation) := by
  refine .bind (processCalls calls batch nextCall _) fun pending => ?_
  cases pending with
  | some pending => exact .pure _
  | none =>
      refine .bind (.ofExcept _) fun round =>
        closed.runTurnInner logs ?_ userMessage round false
      exact fun batch call index used unapproved =>
        calls batch call index used (.inl (or_self_iff.mp unapproved))

end Loop
end RoundClosed

/-- A turn after a call was counted. -/
def Live.counted (live : Live σ) (components : σ) : Live σ :=
  { live with
    components
    tracker := { live.tracker with
      toolCalls := live.tracker.toolCalls + 1
      state := .toolCalling } }

/-- A call that may be tried: the turn is not cancelled and has budget left. -/
structure Live.Admits (budget : TurnBudget) (cancellation : SharedToken σ)
    (live : Live σ) : Prop where
  notCancelled : (cancellation live.components).1.check = .ok ()
  inBudget : live.tracker.toolCalls < budget.maxToolCalls

/-- An admitted call is counted; another one ends the turn. -/
theorem exec_admitCall (budget : TurnBudget) (cancellation : SharedToken σ)
    (live : Live σ) :
    (live.Admits budget cancellation ∧ (admitCall budget cancellation).exec live =
      (.ok (), live.counted (cancellation live.components).2)) ∨
    (¬ live.Admits budget cancellation ∧ ∃ error,
      (admitCall budget cancellation).exec live =
        (.error error, { live with components := (cancellation live.components).2 })) := by
  have bounded := budget.maxToolCalls_le
  unfold admitCall TurnProgram.checkCancellation
  rw [exec_bind, exec_ofFunction]
  cases checked : (cancellation live.components).1.check with
  | error error =>
      refine .inr ⟨fun admits => ?_, .cancelled error, ?_⟩
      · have passed := admits.notCancelled
        rw [checked] at passed
        cases passed
      · simp [checked, Except.mapError]
  | ok passed =>
      by_cases inBudget : live.tracker.toolCalls < budget.maxToolCalls
      · have counts : min (live.tracker.toolCalls + 1) (2 ^ 32 - 1) =
            live.tracker.toolCalls + 1 := by omega
        refine .inl ⟨⟨checked, inBudget⟩, ?_⟩
        simp only [checked, Except.mapError, exec_bind, exec_get,
          throwIf, ge_iff_le, Nat.not_le.mpr inBudget, if_false,
          exec_ofExcept, TurnProgram.updateTracker, exec_modify,
          saturatingAdd, counts]
        rfl
      · refine .inr ⟨fun admits => inBudget admits.inBudget,
          .budgetExceeded .toolCalls budget.maxToolCalls live.tracker.toolCalls, ?_⟩
        simp only [checked, Except.mapError, exec_bind, exec_get,
          throwIf, ge_iff_le, Nat.not_lt.mp inBudget, if_true,
          exec_ofExcept]

theorem wp_admitCall {budget : TurnBudget} {cancellation : SharedToken σ}
    (onOk : live.Admits budget cancellation →
      post (.ok ()) (live.counted (cancellation live.components).2))
    (onError : ∀ error, ¬ live.Admits budget cancellation →
      post (.error error) { live with components := (cancellation live.components).2 }) :
    (admitCall budget cancellation).wp post live := by
  unfold wp
  obtain ⟨admits, ran⟩ | ⟨refuses, error, ran⟩ := exec_admitCall budget cancellation live
  · rw [ran]
    exact onOk admits
  · rw [ran]
    exact onError error refuses

/-- Only the session log differs between two states of a turn. -/
structure LogsOnly (before after : Live σ) : Prop where
  tracker : after.tracker = before.tracker
  components : after.components = before.components

instance : Std.Refl (LogsOnly (σ := σ)) where
  refl _ := ⟨rfl, rfl⟩

instance : IsTrans (Live σ) LogsOnly where
  trans _ _ _ first second :=
    ⟨second.tracker.trans first.tracker, second.components.trans first.components⟩

theorem TurnProgram.logsOnly_record (event : SessionEvent) :
    Preserves (LogsOnly (σ := σ)) (record event) := by
  intro live
  change wp _ (fun _ final => LogsOnly live final) live
  exact wp_record (fun _ => ⟨rfl, rfl⟩) (fun _ _ => ⟨rfl, rfl⟩)

theorem TurnProgram.logsOnly_protocolCheck {α : Type} (code : String)
    (result : Except ToolProtocolError α) :
    Preserves (LogsOnly (σ := σ)) (protocolCheck code result) :=
  fun _ => ⟨rfl, rfl⟩

theorem logsOnly_settleCall (turnId : String) (round : Nat) (call : ToolCall)
    (approval : Option ToolApprovalDecision) (outcome : ToolResultOutcome) :
    Preserves (LogsOnly (σ := σ))
      (settleCall turnId round call approval outcome) := by
  refine .bind ?_ fun _ => .bind (TurnProgram.logsOnly_protocolCheck _ _) fun _ =>
    TurnProgram.logsOnly_record _
  cases approval with
  | none => exact .pure ()
  | some decision => exact TurnProgram.logsOnly_record _

theorem logsOnly_finishCall (turnId : String) (batch : ToolCallBatch)
    (approval : Option ToolApprovalDecision) (call : ToolCall) (index : Nat)
    (answer : Except ComponentError ToolExecutionOutcome) :
    Preserves (LogsOnly (σ := σ))
      (finishCall turnId batch approval call index answer) := by
  match answer with
  | .ok (.awaitingApproval request) =>
      exact .bind (TurnProgram.logsOnly_record _) fun _ => .pure _
  | .ok (.executed outcome) =>
      exact .bind (logsOnly_settleCall _ _ _ _ _) fun _ => .pure _
  | .error error =>
      exact .bind (TurnProgram.logsOnly_protocolCheck _ _) fun _ =>
        .bind (logsOnly_settleCall _ _ _ _ _) fun _ => .pure _

/-- A call is either not admitted, or counted once and given to the broker once. -/
theorem processCall_counts (components : Components σ) (budget : TurnBudget)
    (turnId : String) (batch : ToolCallBatch) (approval : Option ToolApprovalDecision)
    (cancellation : SharedToken σ) (mode : ExecutionMode) (call : ToolCall) (index : Nat)
    (before : Live σ) :
    (processCall components budget turnId batch approval cancellation mode call index).wp
      (fun _ after =>
        (¬ before.Admits budget cancellation ∧ after.tracker = before.tracker ∧
          after.components = (cancellation before.components).2) ∨
        (before.Admits budget cancellation ∧
          after.tracker.toolCalls = before.tracker.toolCalls + 1 ∧
          after.components = ((executeTool components mode ⟨turnId, batch.round, call⟩
            approval cancellation).exec (cancellation before.components).2).2)) before := by
  unfold processCall
  rw [wp_bind]
  refine wp_admitCall ?_ (fun _ refused => .inl ⟨refused, rfl, rfl⟩)
  intro admits
  rw [andThen_ok, wp_bind, TurnProgram.wp_tryComponent]
  unfold wp
  dsimp only
  rw [andThen_ok]
  refine wp_mono ((logsOnly_finishCall _ _ _ _ _ _).wp _) ?_
  intro result after logsOnly
  refine .inr ⟨admits, ?_, logsOnly.components⟩
  rw [logsOnly.tracker]
  rfl

end AgentSpine
end YunXi
