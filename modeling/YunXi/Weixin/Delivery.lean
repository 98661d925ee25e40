import YunXi.Program.Fallible
import YunXi.Protocol.Serde
import YunXi.Weixin.Contract

/-!
# The delivery status of a message

Delivery, acknowledgement, retry, cancellation and backpressure are five small machines in
one record.  Every operation checks its own machine and then updates the record; `validate`
states what has to hold between them.
-/

namespace YunXi
namespace Weixin

open Fallible
open Protocol (Value)
open Protocol.Value (StructShape)

def maxRetryAttempts : Nat := 8
def maxRetryErrorBytes : Nat := 4096
def maxCancellationReasonBytes : Nat := 4096
def maxBufferCapacityBytes : Nat := 4 * 1024 * 1024

inductive DeliveryState
  | queued
  | inFlight
  | accepted
  | delivered
  | failed
  | cancelled
  deriving DecidableEq, Repr

inductive AckState
  | pending
  | acknowledged
  | rejected
  deriving DecidableEq, Repr

inductive CancellationState
  | active
  | requested
  | cancelled
  deriving DecidableEq, Repr

inductive BackpressureState
  | ready
  | paused
  | draining
  | closed
  deriving DecidableEq, Repr

/-- `as_str`, which is also the name a state is serialized under. -/
def DeliveryState.asStr : DeliveryState → String
  | queued => "queued"
  | inFlight => "in_flight"
  | accepted => "accepted"
  | delivered => "delivered"
  | failed => "failed"
  | cancelled => "cancelled"

def AckState.asStr : AckState → String
  | pending => "pending"
  | acknowledged => "acknowledged"
  | rejected => "rejected"

def CancellationState.asStr : CancellationState → String
  | active => "active"
  | requested => "requested"
  | cancelled => "cancelled"

def BackpressureState.asStr : BackpressureState → String
  | ready => "ready"
  | paused => "paused"
  | draining => "draining"
  | closed => "closed"

structure RetryState where
  attempt : Nat
  maxAttempts : Nat
  lastError : Option String
  deriving DecidableEq, Repr

/-- `RetryState::validate`. -/
def RetryState.validate (retry : RetryState) : Except WeixinContractError Unit := do
  refuseIf (retry.maxAttempts = 0 ∨ retry.maxAttempts > maxRetryAttempts)
    (.invalidValue "max_attempts" "must be between 1 and 8")
  refuseIf (retry.attempt > retry.maxAttempts)
    (.invalidValue "attempt" "must not exceed max_attempts")
  checkAll (validateText "retry error" · maxRetryErrorBytes) retry.lastError.toList

structure DeliveryStatus where
  state : DeliveryState
  acknowledgement : AckState
  acknowledgementReason : Option String
  retry : RetryState
  cancellation : CancellationState
  cancellationReason : Option String
  backpressure : BackpressureState
  bufferedBytes : Nat
  capacityBytes : Nat
  deriving DecidableEq, Repr

variable (status : DeliveryStatus)

variable (state : DeliveryState)

namespace DeliveryStatus

/-- The acknowledgement part of `validate`. -/
def validateAcknowledgement : Except WeixinContractError Unit :=
  match status.acknowledgement, status.acknowledgementReason with
  | .rejected, none =>
      .error (.invalidValue "acknowledgement_reason" "rejected delivery must include a reason")
  | .pending, some _ | .acknowledged, some _ =>
      .error (.invalidValue "acknowledgement_reason"
        "only rejected delivery may include a reason")
  | .rejected, some reason => validateText "acknowledgement reason" reason maxRetryErrorBytes
  | .pending, none | .acknowledged, none => .ok ()

/-- The cancellation part of `validate`. -/
def validateCancellation : Except WeixinContractError Unit :=
  match status.cancellation, status.cancellationReason with
  | .active, some _ =>
      .error (.invalidValue "cancellation_reason"
        "active delivery cannot have a cancellation reason")
  | .requested, none | .cancelled, none =>
      .error (.invalidValue "cancellation_reason"
        "requested or cancelled delivery must include a reason")
  | .requested, some reason | .cancelled, some reason =>
      validateText "cancellation reason" reason maxCancellationReasonBytes
  | .active, none => .ok ()

def validate (status : DeliveryStatus) : Except WeixinContractError Unit := do
  status.retry.validate
  refuseIf (status.capacityBytes = 0 ∨ status.capacityBytes > maxBufferCapacityBytes)
    (.invalidValue "capacity_bytes" "must be between 1 and 4194304")
  refuseIf (status.bufferedBytes > status.capacityBytes)
    (.bufferExceedsCapacity status.bufferedBytes status.capacityBytes)
  status.validateAcknowledgement
  status.validateCancellation
  refuseIf (status.state = .cancelled ∧ status.cancellation ≠ .cancelled)
    (.invalidValue "state" "cancelled delivery must have cancelled cancellation state")
  refuseIf (status.cancellation = .cancelled ∧ status.state ≠ .cancelled)
    (.invalidValue "cancellation" "cancelled cancellation must have cancelled delivery state")
  refuseIf (status.acknowledgement = .rejected ∧ status.state ≠ .failed)
    (.invalidValue "acknowledgement" "rejected delivery must be failed")

def base : DeliveryStatus where
  state
  acknowledgement := .pending
  acknowledgementReason := none
  retry := ⟨0, maxRetryAttempts, none⟩
  cancellation := .active
  cancellationReason := none
  backpressure := .ready
  bufferedBytes := 0
  capacityBytes := maxBufferCapacityBytes

def newInbound : DeliveryStatus := base .accepted

def newOutbound : DeliveryStatus := base .queued

def withCapacity (capacityBytes : Nat) :
    Except WeixinContractError DeliveryStatus := do
  let status := { base state with capacityBytes }
  status.validate
  return status

def newInboundWithCapacity (capacityBytes : Nat) : Except WeixinContractError DeliveryStatus :=
  withCapacity .accepted capacityBytes

def newOutboundWithCapacity (capacityBytes : Nat) : Except WeixinContractError DeliveryStatus :=
  withCapacity .queued capacityBytes

end DeliveryStatus

namespace DeliveryState

def toJson : Value := .string state.asStr

def fromJson : Value → Option DeliveryState :=
  Value.variant [queued, inFlight, accepted, delivered, failed, cancelled] asStr

@[simp] theorem fromJson_toJson : fromJson state.toJson = some state := by
  cases state <;> decide

end DeliveryState

namespace AckState

def toJson (state : AckState) : Value := .string state.asStr

def fromJson : Value → Option AckState :=
  Value.variant [pending, acknowledged, rejected] asStr

@[simp] theorem fromJson_toJson (state : AckState) : fromJson state.toJson = some state := by
  cases state <;> decide

end AckState

namespace CancellationState

def toJson (state : CancellationState) : Value := .string state.asStr

def fromJson : Value → Option CancellationState :=
  Value.variant [active, requested, cancelled] asStr

@[simp] theorem fromJson_toJson (state : CancellationState) :
    fromJson state.toJson = some state := by
  cases state <;> decide

end CancellationState

namespace BackpressureState

def toJson (state : BackpressureState) : Value := .string state.asStr

def fromJson : Value → Option BackpressureState :=
  Value.variant [ready, paused, draining, closed] asStr

@[simp] theorem fromJson_toJson (state : BackpressureState) :
    fromJson state.toJson = some state := by
  cases state <;> decide

end BackpressureState

namespace RetryState

/-- `WireRetryState`. -/
def shape : StructShape := ⟨["attempt", "max_attempts", "last_error"], 3, true⟩

def toJson (retry : RetryState) : Value :=
  .object [("attempt", .ofNat retry.attempt), ("max_attempts", .ofNat retry.maxAttempts),
    ("last_error", .ofOption .string retry.lastError)]

/-- A retry state that is read also passes its check. -/
def fromJson (value : Value) : Option RetryState := do
  let field ← value.fields shape
  let attempt ← (field "attempt").bind (·.asBounded (2 ^ 16))
  let maxAttempts ← (field "max_attempts").bind (·.asBounded (2 ^ 16))
  let lastError ← Value.optional Value.asStr (field "last_error")
  let retry : RetryState := { attempt, maxAttempts, lastError }
  retry.validate.toOption
  return retry

end RetryState

namespace DeliveryStatus

/-- `WireDeliveryStatus`. -/
def shape : StructShape where
  names := ["state", "acknowledgement", "acknowledgement_reason", "retry", "cancellation",
    "cancellation_reason", "backpressure", "buffered_bytes", "capacity_bytes"]
  required := 9
  denyUnknown := true

def toJson (status : DeliveryStatus) : Value :=
  .object [("state", status.state.toJson),
    ("acknowledgement", status.acknowledgement.toJson),
    ("acknowledgement_reason", .ofOption .string status.acknowledgementReason),
    ("retry", status.retry.toJson),
    ("cancellation", status.cancellation.toJson),
    ("cancellation_reason", .ofOption .string status.cancellationReason),
    ("backpressure", status.backpressure.toJson),
    ("buffered_bytes", .ofNat status.bufferedBytes),
    ("capacity_bytes", .ofNat status.capacityBytes)]

/-- A status that is read also passes its check. -/
def fromJson (value : Value) : Option DeliveryStatus := do
  let field ← value.fields shape
  let state ← (field "state").bind DeliveryState.fromJson
  let acknowledgement ← (field "acknowledgement").bind AckState.fromJson
  let acknowledgementReason ←
    Value.optional Value.asStr (field "acknowledgement_reason")
  let retry ← (field "retry").bind RetryState.fromJson
  let cancellation ← (field "cancellation").bind CancellationState.fromJson
  let cancellationReason ← Value.optional Value.asStr (field "cancellation_reason")
  let backpressure ← (field "backpressure").bind BackpressureState.fromJson
  let bufferedBytes ← (field "buffered_bytes").bind (·.asBounded (2 ^ 64))
  let capacityBytes ← (field "capacity_bytes").bind (·.asBounded (2 ^ 64))
  let status : DeliveryStatus :=
    { state, acknowledgement, acknowledgementReason, retry, cancellation, cancellationReason
      backpressure, bufferedBytes, capacityBytes }
  status.validate.toOption
  return status

end DeliveryStatus

/-- Programs on a status; one that fails may have changed it before. -/
abbrev StatusProgram := Fallible DeliveryStatus WeixinContractError

namespace DeliveryStatus

def acknowledge : StatusProgram Unit := do
  let status ← get
  throwIf (status.acknowledgement ≠ .pending)
    (.invalidStateTransition status.acknowledgement.asStr "acknowledged")
  modify fun status =>
    { status with acknowledgement := .acknowledged, acknowledgementReason := none }

def reject (reason : String) : StatusProgram Unit := do
  let status ← get
  throwIf (status.acknowledgement ≠ .pending)
    (.invalidStateTransition status.acknowledgement.asStr "rejected")
  Fallible.ofExcept (validateText "acknowledgement reason" reason maxRetryErrorBytes)
  modify fun status =>
    { status with
      acknowledgement := .rejected
      acknowledgementReason := some reason
      state := .failed
      retry := { status.retry with lastError := some reason } }

def markInFlight : StatusProgram Unit := do
  let status ← get
  throwIf (status.state ≠ .queued)
    (.invalidStateTransition status.state.asStr "in_flight")
  throwIf (status.retry.attempt ≥ status.retry.maxAttempts) .retryExhausted
  modify fun status =>
    { status with
      retry := { status.retry with attempt := status.retry.attempt + 1 }
      state := .inFlight }

def markAccepted : StatusProgram Unit := do
  let status ← get
  throwIf (status.state ≠ .inFlight)
    (.invalidStateTransition status.state.asStr "accepted")
  modify fun status => { status with state := .accepted }

def markDelivered : StatusProgram Unit := do
  let status ← get
  match status.state with
  | .accepted | .inFlight => modify fun status => { status with state := .delivered }
  | _ => throw (.invalidStateTransition status.state.asStr "delivered")

def markFailed (reason : String) : StatusProgram Unit := do
  let status ← get
  throwIf (status.state = .delivered ∨ status.state = .cancelled)
    (.invalidStateTransition status.state.asStr "failed")
  Fallible.ofExcept (validateText "retry error" reason maxRetryErrorBytes)
  modify fun status =>
    { status with
      state := .failed
      retry := { status.retry with lastError := some reason } }

def scheduleRetry : StatusProgram Unit := do
  let status ← get
  throwIf (status.state ≠ .failed)
    (.invalidStateTransition status.state.asStr "queued")
  throwIf (status.retry.attempt ≥ status.retry.maxAttempts) .retryExhausted
  modify fun status => { status with state := .queued }

def requestCancel (reason : String) : StatusProgram Unit := do
  let status ← get
  throwIf (status.cancellation = .cancelled)
    (.invalidStateTransition "cancelled" "requested")
  Fallible.ofExcept (validateText "cancellation reason" reason maxCancellationReasonBytes)
  modify fun status =>
    { status with cancellation := .requested, cancellationReason := some reason }

def markCancelled : StatusProgram Unit := do
  let status ← get
  if status.cancellation = .cancelled then return ()
  else do
    throwIf (status.cancellation ≠ .requested)
      (.invalidStateTransition "active" "cancelled")
    modify fun status => { status with cancellation := .cancelled, state := .cancelled }

def pause : StatusProgram Unit := do
  let status ← get
  match status.backpressure with
  | .ready => modify fun status => { status with backpressure := .paused }
  | .paused => return ()
  | .draining | .closed =>
      throw (.invalidStateTransition status.backpressure.asStr "paused")

def resume : StatusProgram Unit := do
  let status ← get
  match status.backpressure with
  | .paused => modify fun status => { status with backpressure := .ready }
  | .ready => return ()
  | .draining | .closed =>
      throw (.invalidStateTransition status.backpressure.asStr "ready")

def startDraining : StatusProgram Unit := do
  let status ← get
  match status.backpressure with
  | .ready | .paused => modify fun status => { status with backpressure := .draining }
  | .draining => return ()
  | .closed => throw (.invalidStateTransition "closed" "draining")

def setBufferedBytes (bufferedBytes : Nat) : StatusProgram Unit := do
  let status ← get
  throwIf (bufferedBytes > status.capacityBytes)
    (.bufferExceedsCapacity bufferedBytes status.capacityBytes)
  modify fun status => { status with bufferedBytes }
  let status ← get
  if bufferedBytes = 0 ∧ status.backpressure = .draining then
    modify fun status => { status with backpressure := .ready }

def close : StatusProgram Unit :=
  modify fun status => { status with backpressure := .closed }

end DeliveryStatus

/-- The operations with their arguments. -/
inductive DeliveryOperation
  | acknowledge
  | reject (reason : String)
  | markInFlight
  | markAccepted
  | markDelivered
  | markFailed (reason : String)
  | scheduleRetry
  | requestCancel (reason : String)
  | markCancelled
  | pause
  | resume
  | startDraining
  | setBufferedBytes (bufferedBytes : Nat)
  | close
  deriving DecidableEq, Repr

namespace DeliveryOperation

def perform : DeliveryOperation → StatusProgram Unit
  | acknowledge => DeliveryStatus.acknowledge
  | reject reason => DeliveryStatus.reject reason
  | markInFlight => DeliveryStatus.markInFlight
  | markAccepted => DeliveryStatus.markAccepted
  | markDelivered => DeliveryStatus.markDelivered
  | markFailed reason => DeliveryStatus.markFailed reason
  | scheduleRetry => DeliveryStatus.scheduleRetry
  | requestCancel reason => DeliveryStatus.requestCancel reason
  | markCancelled => DeliveryStatus.markCancelled
  | pause => DeliveryStatus.pause
  | resume => DeliveryStatus.resume
  | startDraining => DeliveryStatus.startDraining
  | setBufferedBytes bufferedBytes => DeliveryStatus.setBufferedBytes bufferedBytes
  | close => DeliveryStatus.close

/-- The status after an operation, also after one that was refused. -/
def step (operation : DeliveryOperation) : DeliveryStatus :=
  (operation.perform.exec status).2

/-- What an operation refuses, checked before anything is changed. -/
def check : DeliveryOperation → Except WeixinContractError Unit
  | acknowledge =>
      refuseIf (status.acknowledgement ≠ .pending)
        (.invalidStateTransition status.acknowledgement.asStr "acknowledged")
  | reject reason => do
      refuseIf (status.acknowledgement ≠ .pending)
        (.invalidStateTransition status.acknowledgement.asStr "rejected")
      validateText "acknowledgement reason" reason maxRetryErrorBytes
  | markInFlight => do
      refuseIf (status.state ≠ .queued) (.invalidStateTransition status.state.asStr "in_flight")
      refuseIf (status.retry.attempt ≥ status.retry.maxAttempts) .retryExhausted
  | markAccepted =>
      refuseIf (status.state ≠ .inFlight) (.invalidStateTransition status.state.asStr "accepted")
  | markDelivered =>
      refuseIf (status.state ≠ .accepted ∧ status.state ≠ .inFlight)
        (.invalidStateTransition status.state.asStr "delivered")
  | markFailed reason => do
      refuseIf (status.state = .delivered ∨ status.state = .cancelled)
        (.invalidStateTransition status.state.asStr "failed")
      validateText "retry error" reason maxRetryErrorBytes
  | scheduleRetry => do
      refuseIf (status.state ≠ .failed) (.invalidStateTransition status.state.asStr "queued")
      refuseIf (status.retry.attempt ≥ status.retry.maxAttempts) .retryExhausted
  | requestCancel reason => do
      refuseIf (status.cancellation = .cancelled)
        (.invalidStateTransition "cancelled" "requested")
      validateText "cancellation reason" reason maxCancellationReasonBytes
  | markCancelled =>
      refuseIf (status.cancellation = .active) (.invalidStateTransition "active" "cancelled")
  | pause =>
      refuseIf (status.backpressure = .draining ∨ status.backpressure = .closed)
        (.invalidStateTransition status.backpressure.asStr "paused")
  | resume =>
      refuseIf (status.backpressure = .draining ∨ status.backpressure = .closed)
        (.invalidStateTransition status.backpressure.asStr "ready")
  | startDraining =>
      refuseIf (status.backpressure = .closed) (.invalidStateTransition "closed" "draining")
  | setBufferedBytes bufferedBytes =>
      refuseIf (bufferedBytes > status.capacityBytes)
        (.bufferExceedsCapacity bufferedBytes status.capacityBytes)
  | close => .ok ()

/-- The status that an operation leaves when it is not refused. -/
def after : DeliveryOperation → DeliveryStatus
  | acknowledge =>
      { status with acknowledgement := .acknowledged, acknowledgementReason := none }
  | reject reason =>
      { status with
        acknowledgement := .rejected
        acknowledgementReason := some reason
        state := .failed
        retry := { status.retry with lastError := some reason } }
  | markInFlight =>
      { status with
        retry := { status.retry with attempt := status.retry.attempt + 1 }
        state := .inFlight }
  | markAccepted => { status with state := .accepted }
  | markDelivered => { status with state := .delivered }
  | markFailed reason =>
      { status with
        state := .failed
        retry := { status.retry with lastError := some reason } }
  | scheduleRetry => { status with state := .queued }
  | requestCancel reason =>
      { status with cancellation := .requested, cancellationReason := some reason }
  | markCancelled =>
      if status.cancellation = .cancelled then status
      else { status with cancellation := .cancelled, state := .cancelled }
  | pause => { status with backpressure := .paused }
  | resume => { status with backpressure := .ready }
  | startDraining => { status with backpressure := .draining }
  | setBufferedBytes bufferedBytes =>
      { status with
        bufferedBytes
        backpressure :=
          if bufferedBytes = 0 ∧ status.backpressure = .draining then .ready
          else status.backpressure }
  | close => { status with backpressure := .closed }

/-- A program that refuses on one condition and then updates. -/
theorem exec_guarded (refused : Prop) [Decidable refused]
    (error : WeixinContractError) (update : DeliveryStatus → DeliveryStatus) :
    Fallible.exec (do
        throwIf refused error
        modify update : StatusProgram Unit) status =
      match refuseIf refused error with
      | .ok () => (.ok (), update status)
      | .error error => (.error error, status) := by
  rw [exec_bind]
  unfold throwIf refuseIf
  by_cases refuses : refused
  · rw [if_pos refuses]
    rfl
  · rw [if_neg refuses]
    rfl

/-- A program that refuses on one condition, then on a check, and then updates. -/
theorem exec_guarded_checked (refused : Prop) [Decidable refused]
    (error : WeixinContractError) (checked : Except WeixinContractError Unit)
    (update : DeliveryStatus → DeliveryStatus) :
    Fallible.exec (do
        throwIf refused error
        Fallible.ofExcept checked
        modify update : StatusProgram Unit) status =
      match (do refuseIf refused error; checked) with
      | .ok () => (.ok (), update status)
      | .error error => (.error error, status) := by
  rw [exec_bind]
  unfold throwIf refuseIf
  by_cases refuses : refused
  · rw [if_pos refuses]
    rfl
  · rw [if_neg refuses]
    cases checked <;> rfl

/-- Checks come first: an operation that is refused has changed nothing. -/
theorem exec_perform (operation : DeliveryOperation) :
    operation.perform.exec status =
      match operation.check status with
      | .ok () => (.ok (), operation.after status)
      | .error error => (.error error, status) := by
  cases operation with
  | acknowledge => exact (exec_get_bind _ _).trans (exec_guarded status _ _ _)
  | reject reason => exact (exec_get_bind _ _).trans (exec_guarded_checked status _ _ _ _)
  | markInFlight => exact (exec_get_bind _ _).trans (exec_guarded_checked status _ _ _ _)
  | markAccepted => exact (exec_get_bind _ _).trans (exec_guarded status _ _ _)
  | markDelivered =>
      obtain ⟨state, _, _, _, _, _, _, _, _⟩ := status
      cases state <;> rfl
  | markFailed reason => exact (exec_get_bind _ _).trans (exec_guarded_checked status _ _ _ _)
  | scheduleRetry => exact (exec_get_bind _ _).trans (exec_guarded_checked status _ _ _ _)
  | requestCancel reason => exact (exec_get_bind _ _).trans (exec_guarded_checked status _ _ _ _)
  | markCancelled =>
      obtain ⟨_, _, _, _, cancellation, _, _, _, _⟩ := status
      cases cancellation <;> rfl
  | pause =>
      obtain ⟨_, _, _, _, _, _, backpressure, _, _⟩ := status
      cases backpressure <;> rfl
  | resume =>
      obtain ⟨_, _, _, _, _, _, backpressure, _, _⟩ := status
      cases backpressure <;> rfl
  | startDraining =>
      obtain ⟨_, _, _, _, _, _, backpressure, _, _⟩ := status
      cases backpressure <;> rfl
  | setBufferedBytes bufferedBytes =>
      simp only [perform, DeliveryStatus.setBufferedBytes, check, after]
      rw [exec_get_bind, exec_bind]
      unfold throwIf refuseIf
      by_cases exceeds : bufferedBytes > status.capacityBytes
      · rw [if_pos exceeds]
        rfl
      · rw [if_neg exceeds]
        simp only [exec_ofExcept, exec_modify_bind, exec_get_bind]
        by_cases drained : bufferedBytes = 0 ∧ status.backpressure = .draining
        · rw [if_pos drained, if_pos drained]
          rfl
        · rw [if_neg drained, if_neg drained]
          rfl
  | close => rfl

end DeliveryOperation

end Weixin
end YunXi
