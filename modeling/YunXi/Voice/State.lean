import YunXi.Program.Checked
import YunXi.Program.Run
import YunXi.Protocol.Authority

/-!
# The state of an audio stream

A stream is cancelled in two steps and holds back its sender in four ways.  An operation that
the state does not allow is refused and changes nothing.
-/

namespace YunXi
namespace Voice

open Protocol

def maxCancellationReasonBytes : Nat := 4096
def maxBufferCapacityBytes : Nat := 4 * 1024 * 1024

/-- The fields of a stream that are checked. -/
inductive VoiceField
  | capacityBytes
  | cancellationText
  | cancellationReason
  deriving DecidableEq, Repr

/-- `VoiceContractError`, as far as it is about streams. -/
inductive VoiceContractError
  | empty (field : VoiceField)
  | tooLong (field : VoiceField) (size maximum : Nat)
  | invalidText (field : VoiceField)
  | invalidValue (field : VoiceField) (message : String)
  | bufferExceedsCapacity (buffered capacity : Nat)
  | invalidStateTransition (before after : String)
  deriving DecidableEq, Repr

/-- A control character that no text may have. -/
def isDisallowedCharacter (character : Char) : Bool :=
  isControlCharacter character &&
    ! (character == '\n' || character == '\r' || character == '\t')

/-- `validate_text`. -/
def validateText (field : VoiceField) (value : String) (maximum : Nat) (allowEmpty : Bool) :
    Except VoiceContractError Unit := do
  refuseIf (allowEmpty = false ∧ value = "") (.empty field)
  refuseIf (value.utf8ByteSize > maximum) (.tooLong field value.utf8ByteSize maximum)
  refuseIf (value.toList.any isDisallowedCharacter) (.invalidText field)

inductive CancellationState
  | active
  | requested
  | cancelled
  deriving DecidableEq, Repr

inductive BackpressureState
  | ready
  | paused
  | draining
  | closed
  deriving DecidableEq, Repr

/-- `BackpressureState::as_str`. -/
def BackpressureState.text : BackpressureState → String
  | ready => "ready"
  | paused => "paused"
  | draining => "draining"
  | closed => "closed"

structure StreamStatus where
  cancellation : CancellationState
  cancellationReason : Option String
  backpressure : BackpressureState
  bufferedBytes : Nat
  capacityBytes : Nat
  deriving DecidableEq, Repr

variable (status : StreamStatus)

namespace StreamStatus

def new : StreamStatus where
  cancellation := .active
  cancellationReason := none
  backpressure := .ready
  bufferedBytes := 0
  capacityBytes := maxBufferCapacityBytes

/-- The last check of `validate`: a stream has a reason exactly when it is not active. -/
def validateReason : CancellationState → Option String → Except VoiceContractError Unit
  | .active, none => .ok ()
  | .active, some _ =>
      .error (.invalidValue .cancellationReason
        "active streams cannot have a cancellation reason")
  | .requested, none | .cancelled, none =>
      .error (.invalidValue .cancellationReason "cancelled streams must include a reason")
  | .requested, some reason | .cancelled, some reason =>
      validateText .cancellationText reason maxCancellationReasonBytes false

def validate : Except VoiceContractError Unit := do
  refuseIf (status.capacityBytes = 0 ∨ status.capacityBytes > maxBufferCapacityBytes)
    (.invalidValue .capacityBytes "must be between 1 and 4194304")
  refuseIf (status.bufferedBytes > status.capacityBytes)
    (.bufferExceedsCapacity status.bufferedBytes status.capacityBytes)
  validateReason status.cancellation status.cancellationReason

def requestCancel (reason : String) :
    Except VoiceContractError StreamStatus :=
  if status.cancellation = .cancelled then
    .error (.invalidStateTransition "cancelled" "requested")
  else do
    validateText .cancellationText reason maxCancellationReasonBytes false
    return { status with cancellation := .requested, cancellationReason := some reason }

def markCancelled : Except VoiceContractError StreamStatus :=
  match status.cancellation with
  | .requested => .ok { status with cancellation := .cancelled }
  | .cancelled => .ok status
  | .active => .error (.invalidStateTransition "active" "cancelled")

def pause : Except VoiceContractError StreamStatus :=
  match status.backpressure with
  | .ready => .ok { status with backpressure := .paused }
  | .paused => .ok status
  | .draining | .closed =>
      .error (.invalidStateTransition status.backpressure.text "paused")

def resume : Except VoiceContractError StreamStatus :=
  match status.backpressure with
  | .paused => .ok { status with backpressure := .ready }
  | .ready => .ok status
  | .draining | .closed =>
      .error (.invalidStateTransition status.backpressure.text "ready")

def setBufferedBytes (bufferedBytes : Nat) :
    Except VoiceContractError StreamStatus :=
  if bufferedBytes > status.capacityBytes then
    .error (.bufferExceedsCapacity bufferedBytes status.capacityBytes)
  else if bufferedBytes = 0 ∧ status.backpressure = .draining then
    .ok { status with bufferedBytes, backpressure := .ready }
  else .ok { status with bufferedBytes }

def startDraining : Except VoiceContractError StreamStatus :=
  match status.backpressure with
  | .ready | .paused => .ok { status with backpressure := .draining }
  | .draining => .ok status
  | .closed => .error (.invalidStateTransition "closed" "draining")

def close : StreamStatus :=
  { status with backpressure := .closed }

end StreamStatus

inductive StreamOperation
  | requestCancel (reason : String)
  | markCancelled
  | pause
  | resume
  | setBufferedBytes (bufferedBytes : Nat)
  | startDraining
  | close
  deriving DecidableEq, Repr

def StreamOperation.perform : StreamOperation → Except VoiceContractError StreamStatus
  | .requestCancel reason => status.requestCancel reason
  | .markCancelled => status.markCancelled
  | .pause => status.pause
  | .resume => status.resume
  | .setBufferedBytes bufferedBytes => status.setBufferedBytes bufferedBytes
  | .startDraining => status.startDraining
  | .close => .ok status.close

variable (operation : StreamOperation)

/-- The state after an operation, which an operation that is refused leaves as it was. -/
def step : StreamStatus :=
  match operation.perform status with
  | .ok after => after
  | .error _ => status

/-- A reason that a cancellation may give. -/
def ReasonAccepted (reason : String) : Prop :=
  validateText .cancellationText reason maxCancellationReasonBytes false = .ok ()

instance (reason : String) : Decidable (ReasonAccepted reason) :=
  inferInstanceAs (Decidable (_ = _))

/-- What an operation does to the cancellation of a stream. -/
def cancels : CancellationState × Option String → CancellationState × Option String
  | (.cancelled, reason) => (.cancelled, reason)
  | (state, before) =>
      match operation with
      | .requestCancel reason =>
          if ReasonAccepted reason then (.requested, some reason) else (state, before)
      | .markCancelled => if state = .requested then (.cancelled, before) else (state, before)
      | _ => (state, before)

/-- What an operation does to the flow of a stream. -/
def regulates (capacityBytes : Nat) (operation : StreamOperation) :
    BackpressureState × Nat → BackpressureState × Nat
  | (state, buffered) =>
      match operation, state with
      | .close, _ => (.closed, buffered)
      | .setBufferedBytes bytes, _ =>
          if bytes > capacityBytes then (state, buffered)
          else if bytes = 0 ∧ state = .draining then (.ready, bytes)
          else (state, bytes)
      | .pause, .ready => (.paused, buffered)
      | .resume, .paused => (.ready, buffered)
      | .startDraining, .ready | .startDraining, .paused => (.draining, buffered)
      | _, _ => (state, buffered)

/-- The cancellation and the flow of a stream do not depend on each other. -/
theorem step_eq : step status operation =
      { cancellation :=
          (cancels operation (status.cancellation, status.cancellationReason)).1
        cancellationReason :=
          (cancels operation (status.cancellation, status.cancellationReason)).2
        backpressure := (regulates status.capacityBytes operation
          (status.backpressure, status.bufferedBytes)).1
        bufferedBytes := (regulates status.capacityBytes operation
          (status.backpressure, status.bufferedBytes)).2
        capacityBytes := status.capacityBytes } := by
  obtain ⟨cancellation, reason, backpressure, buffered, capacity⟩ := status
  cases operation with
  | requestCancel text =>
      by_cases accepted : ReasonAccepted text
      · have checked : validateText .cancellationText text maxCancellationReasonBytes false =
            .ok () := accepted
        cases cancellation <;>
          simp [step, StreamOperation.perform, StreamStatus.requestCancel, cancels, regulates,
            accepted, checked]
      · cases checked : validateText .cancellationText text maxCancellationReasonBytes false with
        | ok => exact absurd checked accepted
        | error error =>
            cases cancellation <;>
              simp [step, StreamOperation.perform, StreamStatus.requestCancel, cancels,
                regulates, accepted, checked]
  | setBufferedBytes bytes =>
      by_cases large : bytes > capacity
      · cases cancellation <;>
          simp [step, StreamOperation.perform, StreamStatus.setBufferedBytes, cancels, regulates,
            large]
      · by_cases drained : bytes = 0 ∧ backpressure = .draining <;>
          cases cancellation <;>
            simp [step, StreamOperation.perform, StreamStatus.setBufferedBytes, cancels,
              regulates, large, drained]
  | markCancelled => cases cancellation <;> rfl
  | pause => cases cancellation <;> cases backpressure <;> rfl
  | resume => cases cancellation <;> cases backpressure <;> rfl
  | startDraining => cases cancellation <;> cases backpressure <;> rfl
  | close => cases cancellation <;> rfl

theorem validate_eq_ok {status : StreamStatus} :
    status.validate = .ok () ↔
      (0 < status.capacityBytes ∧ status.capacityBytes ≤ maxBufferCapacityBytes) ∧
        status.bufferedBytes ≤ status.capacityBytes ∧
          StreamStatus.validateReason status.cancellation status.cancellationReason = .ok () := by
  unfold StreamStatus.validate
  rw [Except.check_bind_eq_ok, Except.check_bind_eq_ok, refuseIf_eq_ok, refuseIf_eq_ok, not_or,
    Nat.pos_iff_ne_zero, Nat.not_lt, Nat.not_lt]

/-- A reason that is there exactly when the stream is not active stays so. -/
theorem validateReason_cancels {state : CancellationState} {reason : Option String}
    (valid : StreamStatus.validateReason state reason = .ok ()) (operation : StreamOperation) :
    StreamStatus.validateReason (cancels operation (state, reason)).1
      (cancels operation (state, reason)).2 = .ok () := by
  cases state with
  | cancelled => exact valid
  | active =>
      cases operation with
      | requestCancel text =>
          by_cases accepted : ReasonAccepted text
          · simp only [cancels, accepted, if_true]
            exact accepted
          · simpa [cancels, accepted] using valid
      | _ => exact valid
  | requested =>
      cases operation with
      | requestCancel text =>
          by_cases accepted : ReasonAccepted text
          · simp only [cancels, accepted, if_true]
            exact accepted
          · simpa [cancels, accepted] using valid
      | markCancelled => cases reason <;> exact valid
      | _ => exact valid

/-- No operation buffers more than there is room for. -/
theorem regulates_le {capacityBytes buffered : Nat} (fits : buffered ≤ capacityBytes)
    (operation : StreamOperation) (state : BackpressureState) :
    (regulates capacityBytes operation (state, buffered)).2 ≤ capacityBytes := by
  cases operation with
  | setBufferedBytes bytes =>
      simp only [regulates]
      split
      · exact fits
      · next small =>
          split
          · exact Nat.not_lt.mp small
          · exact Nat.not_lt.mp small
  | _ => cases state <;> exact fits

theorem valid_step {status : StreamStatus}
    (valid : status.validate = .ok ()) : (step status operation).validate = .ok () := by
  rw [validate_eq_ok] at valid
  rw [step_eq, validate_eq_ok]
  exact ⟨valid.1, regulates_le valid.2.1 operation _,
    validateReason_cancels valid.2.2 operation⟩

/-- Whether an operation requests a cancellation with a reason that is accepted. -/
def requests : StreamOperation → Bool
  | .requestCancel reason => decide (ReasonAccepted reason)
  | _ => false

/-- A stream stays active as long as no request is accepted. -/
theorem active_step_iff : (step status operation).cancellation = .active ↔
      status.cancellation = .active ∧ requests operation = false := by
  rw [step_eq]
  obtain ⟨cancellation, reason, backpressure, buffered, capacity⟩ := status
  cases cancellation <;> cases operation with
  | requestCancel text =>
      by_cases accepted : ReasonAccepted text <;> simp [cancels, requests, accepted]
  | _ => simp [cancels, requests]

/-- A stream is cancelled by a mark after a request. -/
theorem cancelled_step_iff : (step status operation).cancellation = .cancelled ↔
      status.cancellation = .cancelled ∨
        operation = .markCancelled ∧ status.cancellation = .requested := by
  rw [step_eq]
  obtain ⟨cancellation, reason, backpressure, buffered, capacity⟩ := status
  cases cancellation <;> cases operation with
  | requestCancel text =>
      by_cases accepted : ReasonAccepted text <;> simp [cancels, accepted]
  | _ => simp [cancels]

theorem closed_step_iff : (step status operation).backpressure = .closed ↔
      status.backpressure = .closed ∨ operation = .close := by
  rw [step_eq]
  obtain ⟨cancellation, reason, backpressure, buffered, capacity⟩ := status
  cases operation with
  | setBufferedBytes bytes =>
      simp only [regulates]
      split
      · simp
      · split
        · next drained => simp [drained.2]
        · simp
  | _ => cases backpressure <;> simp [regulates]

variable (start : StreamStatus)

variable (operations : List StreamOperation)

theorem active_run_iff : (finalState step start operations).cancellation = .active ↔
      start.cancellation = .active ∧ ∀ operation ∈ operations, requests operation = false := by
  induction operations generalizing start with
  | nil => simp
  | cons operation operations ih =>
      rw [finalState_cons, ih, active_step_iff, List.forall_mem_cons, and_assoc]

/-- A run cancels a stream with a mark that comes after a request. -/
theorem cancelled_run_iff : (finalState step start operations).cancellation = .cancelled ↔
      start.cancellation = .cancelled ∨
        ∃ before after, operations = before ++ .markCancelled :: after ∧
          (finalState step start before).cancellation ≠ .active := by
  induction operations generalizing start with
  | nil => simp
  | cons operation operations ih =>
      rw [finalState_cons, ih, cancelled_step_iff]
      constructor
      · rintro ((cancelled | ⟨rfl, requested⟩) | ⟨before, after, rfl, notActive⟩)
        · exact .inl cancelled
        · exact .inr ⟨[], operations, rfl, by rw [finalState_nil, requested]; decide⟩
        · exact .inr ⟨operation :: before, after, rfl, notActive⟩
      · rintro (cancelled | ⟨before, after, split, notActive⟩)
        · exact .inl (.inl cancelled)
        · cases before with
          | nil =>
              obtain ⟨rfl, rfl⟩ := List.cons_eq_cons.mp split
              rw [finalState_nil] at notActive
              cases state : start.cancellation with
              | active => exact absurd state notActive
              | requested => exact .inl (.inr ⟨rfl, rfl⟩)
              | cancelled => exact .inl (.inl rfl)
          | cons first before =>
              obtain ⟨rfl, rfl⟩ := List.cons_eq_cons.mp split
              exact .inr ⟨before, after, rfl, notActive⟩

theorem closed_run_iff : (finalState step start operations).backpressure = .closed ↔
      start.backpressure = .closed ∨ .close ∈ operations := by
  induction operations generalizing start with
  | nil => simp
  | cons operation operations ih =>
      rw [finalState_cons, ih, closed_step_iff, List.mem_cons, or_assoc,
        eq_comm (a := operation)]

/-- A stream that is cancelled keeps its reason. -/
theorem reason_run {start : StreamStatus} (cancelled : start.cancellation = .cancelled)
    (operations : List StreamOperation) :
    (finalState step start operations).cancellation = .cancelled ∧
      (finalState step start operations).cancellationReason = start.cancellationReason := by
  induction operations generalizing start with
  | nil => exact ⟨cancelled, rfl⟩
  | cons operation operations ih =>
      have kept : (step start operation).cancellation = .cancelled ∧
          (step start operation).cancellationReason = start.cancellationReason := by
        rw [step_eq, cancelled]
        exact ⟨rfl, rfl⟩
      rw [finalState_cons]
      exact ⟨(ih kept.1).1, (ih kept.1).2.trans kept.2⟩

/-- Every run keeps a stream valid.  It ends cancelled exactly when a mark comes after an
accepted request, and closed exactly when it was closed, and a cancelled stream keeps the reason
it was cancelled for. -/
theorem stream_run (valid : start.validate = .ok ())
    (operations : List StreamOperation) :
    Throughout step (fun status => status.validate = .ok ()) start operations ∧
    ((finalState step start operations).cancellation = .cancelled ↔
      start.cancellation = .cancelled ∨
        ∃ before after, operations = before ++ .markCancelled :: after ∧
          (start.cancellation ≠ .active ∨
            ∃ reason, .requestCancel reason ∈ before ∧ ReasonAccepted reason)) ∧
    ((finalState step start operations).backpressure = .closed ↔
      start.backpressure = .closed ∨ .close ∈ operations) ∧
    ∀ before after, operations = before ++ after →
      (finalState step start before).cancellation = .cancelled →
        (finalState step start operations).cancellationReason =
          (finalState step start before).cancellationReason := by
  refine ⟨?_, ?_, closed_run_iff start operations, ?_⟩
  · exact throughout_of_invariant (fun status : StreamStatus => status.validate = .ok ())
      (fun _ operation => valid_step operation) valid operations
  · rw [cancelled_run_iff]
    refine or_congr_right (exists_congr fun before => exists_congr fun after =>
      and_congr_right fun _ => ?_)
    rw [ne_eq, active_run_iff, not_and_or]
    refine or_congr_right ?_
    constructor
    · intro requested
      obtain ⟨operation, member, isRequest⟩ := not_forall₂.mp requested
      cases operation with
      | requestCancel reason =>
          exact ⟨reason, member, of_decide_eq_true (Bool.not_eq_false _ ▸ isRequest)⟩
      | _ => exact absurd rfl isRequest
    · rintro ⟨reason, member, accepted⟩ never
      have refused := never _ member
      rw [requests, decide_eq_false_iff_not] at refused
      exact refused accepted
  · rintro before after rfl cancelled
    rw [finalState_append]
    exact (reason_run cancelled after).2

/-- A stream that is cancelled and then closed. -/
theorem stream_run_new :
    Throughout step (fun status => status.validate = .ok ()) .new
        [.requestCancel "stop", .startDraining, .markCancelled, .close] ∧
      (finalState step .new [.requestCancel "stop", .startDraining, .markCancelled,
        .close]).cancellation = .cancelled ∧
      (finalState step .new [.requestCancel "stop", .startDraining, .markCancelled,
        .close]).backpressure = .closed ∧
      (finalState step .new [.requestCancel "stop", .startDraining, .markCancelled,
        .close]).cancellationReason =
          (finalState step .new [.requestCancel "stop", .startDraining,
            .markCancelled]).cancellationReason := by
  obtain ⟨valid, cancelled, closed, reason⟩ := stream_run .new (by decide)
    [.requestCancel "stop", .startDraining, .markCancelled, .close]
  refine ⟨valid, cancelled.mpr (.inr ⟨[.requestCancel "stop", .startDraining], [.close], rfl, .inr ⟨"stop", ?_, ?_⟩⟩),
    closed.mpr (.inr (by simp)), reason [.requestCancel "stop", .startDraining, .markCancelled] [.close] rfl (by decide)⟩
  · exact List.mem_cons_self
  · decide

end Voice
end YunXi
