import YunXi.Program.Run
import YunXi.Weixin.Delivery

/-!
# Runs of delivery operations

What `validate` asks, as a structure; which operations keep it; and what follows for the
statuses that any sequence of operations reaches.
-/

namespace YunXi
namespace Weixin

open Protocol (Value)

/-- What `RetryState::validate` asks. -/
structure RetryState.Valid (retry : RetryState) : Prop where
  maxAttempts_pos : 0 < retry.maxAttempts
  maxAttempts_le : retry.maxAttempts ≤ maxRetryAttempts
  attempt_le : retry.attempt ≤ retry.maxAttempts
  lastError : ∀ error ∈ retry.lastError,
    validateText "retry error" error maxRetryErrorBytes = .ok ()

variable {retry : RetryState}

theorem RetryState.validate_eq_ok : retry.validate = .ok () ↔ retry.Valid := by
  simp only [RetryState.validate, Except.check_bind_eq_ok, refuseIf_eq_ok, checkAll_eq_ok,
    Option.mem_toList]
  constructor
  · rintro ⟨bounds, attempt, lastError⟩
    exact ⟨by omega, by omega, by omega, lastError⟩
  · rintro ⟨positive, bound, attempt, lastError⟩
    exact ⟨by omega, by omega, lastError⟩

/-- A reason goes with one kind of state and is a bounded text. -/
def ReasonFor (field : String) (asked : Prop) (maximum : Nat) (reason : Option String) : Prop :=
  (asked ↔ reason.isSome) ∧ ∀ text ∈ reason, validateText field text maximum = .ok ()

/-- What `DeliveryStatus::validate` asks. -/
structure DeliveryStatus.Valid (status : DeliveryStatus) : Prop where
  retry : status.retry.Valid
  capacity_pos : 0 < status.capacityBytes
  capacity_le : status.capacityBytes ≤ maxBufferCapacityBytes
  buffered_le : status.bufferedBytes ≤ status.capacityBytes
  acknowledgement : ReasonFor "acknowledgement reason" (status.acknowledgement = .rejected)
    maxRetryErrorBytes status.acknowledgementReason
  cancellation : ReasonFor "cancellation reason" (status.cancellation ≠ .active)
    maxCancellationReasonBytes status.cancellationReason
  cancelled : status.state = .cancelled ↔ status.cancellation = .cancelled
  rejected : status.acknowledgement = .rejected → status.state = .failed

variable {status : DeliveryStatus}

theorem DeliveryStatus.validateAcknowledgement_eq_ok : status.validateAcknowledgement = .ok () ↔
      ReasonFor "acknowledgement reason" (status.acknowledgement = .rejected)
        maxRetryErrorBytes status.acknowledgementReason := by
  unfold validateAcknowledgement ReasonFor
  cases status.acknowledgement <;> cases status.acknowledgementReason <;> simp

theorem DeliveryStatus.validateCancellation_eq_ok : status.validateCancellation = .ok () ↔
      ReasonFor "cancellation reason" (status.cancellation ≠ .active)
        maxCancellationReasonBytes status.cancellationReason := by
  unfold validateCancellation ReasonFor
  cases status.cancellation <;> cases status.cancellationReason <;> simp

theorem DeliveryStatus.validate_eq_ok : status.validate = .ok () ↔ status.Valid := by
  simp only [DeliveryStatus.validate, Except.check_bind_eq_ok, refuseIf_eq_ok,
    RetryState.validate_eq_ok, validateAcknowledgement_eq_ok, validateCancellation_eq_ok]
  constructor
  · rintro ⟨retry, capacity, buffered, acknowledgement, cancellation, cancelled, reached,
      rejected⟩
    exact ⟨retry, by omega, by omega, by omega, acknowledgement, cancellation,
      ⟨fun state => not_not.mp fun other => cancelled ⟨state, other⟩,
        fun state => not_not.mp fun other => reached ⟨state, other⟩⟩,
      fun state => not_not.mp fun other => rejected ⟨state, other⟩⟩
  · rintro ⟨retry, positive, capacity, buffered, acknowledgement, cancellation, cancelled,
      rejected⟩
    exact ⟨retry, by omega, by omega, acknowledgement, cancellation,
      fun both => both.2 (cancelled.mp both.1), fun both => both.2 (cancelled.mpr both.1),
      fun both => both.2 (rejected both.1)⟩

theorem RetryState.Valid.withLastError (valid : retry.Valid)
    {reason : String} (text : validateText "retry error" reason maxRetryErrorBytes = .ok ()) :
    RetryState.Valid { retry with lastError := some reason } :=
  { valid with lastError := by rintro _ ⟨⟩; exact text }

namespace DeliveryStatus.Valid

variable {status : DeliveryStatus}

theorem withRetry (valid : status.Valid) (retryValid : retry.Valid) :
    DeliveryStatus.Valid { status with retry } :=
  { valid with retry := retryValid }

theorem withBackpressure (valid : status.Valid) (backpressure : BackpressureState) :
    DeliveryStatus.Valid { status with backpressure } :=
  { valid with }

/-- The delivery state may move while nothing is cancelled and a rejection stays failed. -/
theorem withState (valid : status.Valid) {state : DeliveryState}
    (open_ : status.state ≠ .cancelled) (stays : state ≠ .cancelled)
    (failed : status.acknowledgement = .rejected → state = .failed) :
    DeliveryStatus.Valid { status with state } :=
  { valid with
    cancelled := ⟨fun impossible => absurd impossible stays,
      fun cancelled => absurd (valid.cancelled.mpr cancelled) open_⟩
    rejected := failed }

end DeliveryStatus.Valid

theorem RetryState.fromJson_toJson (valid : retry.Valid) :
    fromJson retry.toJson = some retry := by
  have maxAttempts : retry.maxAttempts < 2 ^ 16 := valid.maxAttempts_le.trans_lt (by decide)
  have attempt : retry.attempt < 2 ^ 16 := valid.attempt_le.trans_lt maxAttempts
  have checked : retry.validate.toOption = some () :=
    Except.toOption_eq_some.mpr (validate_eq_ok.mpr valid)
  have distinct : shape.names.Nodup := by decide
  let values : List Value := [.ofNat retry.attempt, .ofNat retry.maxAttempts,
    .ofOption .string retry.lastError]
  have written : retry.toJson = .object (shape.names.zip values) := rfl
  have field := Value.lookup_zip distinct values
  rw [fromJson, written, Value.fields_zip]
  simp only [Option.bind_eq_bind, Option.bind_some, field 0 rfl rfl, field 1 rfl rfl,
    field 2 rfl rfl, Value.asBounded_ofNat attempt (by decide),
    Value.asBounded_ofNat maxAttempts (by decide), Value.optional_ofOption_string, checked]
  rfl

theorem DeliveryStatus.fromJson_toJson (valid : status.Valid) :
    fromJson status.toJson = some status := by
  have capacity : status.capacityBytes < 2 ^ 64 :=
    valid.capacity_le.trans_lt (by norm_num [maxBufferCapacityBytes])
  have buffered : status.bufferedBytes < 2 ^ 64 := valid.buffered_le.trans_lt capacity
  have checked : status.validate.toOption = some () :=
    Except.toOption_eq_some.mpr (validate_eq_ok.mpr valid)
  have distinct : shape.names.Nodup := by decide
  let values : List Value := [status.state.toJson, status.acknowledgement.toJson,
    .ofOption .string status.acknowledgementReason, status.retry.toJson,
    status.cancellation.toJson, .ofOption .string status.cancellationReason,
    status.backpressure.toJson, .ofNat status.bufferedBytes, .ofNat status.capacityBytes]
  have written : status.toJson = .object (shape.names.zip values) := rfl
  have field := Value.lookup_zip distinct values
  rw [fromJson, written, Value.fields_zip]
  simp only [Option.bind_eq_bind, Option.bind_some, field 0 rfl rfl, field 1 rfl rfl,
    field 2 rfl rfl, field 3 rfl rfl, field 4 rfl rfl, field 5 rfl rfl, field 6 rfl rfl,
    field 7 rfl rfl, field 8 rfl rfl, DeliveryState.fromJson_toJson, AckState.fromJson_toJson,
    CancellationState.fromJson_toJson, BackpressureState.fromJson_toJson,
    RetryState.fromJson_toJson valid.retry, Value.asBounded_ofNat buffered le_rfl,
    Value.asBounded_ofNat capacity le_rfl, Value.optional_ofOption_string, checked]
  rfl

/-- The values that the constructors and the deserializer produce. -/
inductive Produced : DeliveryStatus → Prop
  | inbound : Produced .newInbound
  | outbound : Produced .newOutbound
  | inboundWithCapacity {capacityBytes : Nat} {status : DeliveryStatus}
      (built : DeliveryStatus.newInboundWithCapacity capacityBytes = .ok status) :
      Produced status
  | outboundWithCapacity {capacityBytes : Nat} {status : DeliveryStatus}
      (built : DeliveryStatus.newOutboundWithCapacity capacityBytes = .ok status) :
      Produced status
  | deserialized {value : Value} {status : DeliveryStatus}
      (read : DeliveryStatus.fromJson value = some status) : Produced status

theorem DeliveryStatus.valid_base {state : DeliveryState} (other : state ≠ .cancelled) :
    (base state).Valid where
  retry := ⟨show 0 < maxRetryAttempts by decide, le_rfl, Nat.zero_le _,
    fun _ impossible => nomatch impossible⟩
  capacity_pos := show 0 < maxBufferCapacityBytes by decide
  capacity_le := le_rfl
  buffered_le := Nat.zero_le _
  acknowledgement := ⟨by simp [base], fun _ impossible => nomatch impossible⟩
  cancellation := ⟨by simp [base], fun _ impossible => nomatch impossible⟩
  cancelled := by simp [base, other]
  rejected := fun impossible => nomatch impossible

theorem DeliveryStatus.valid_withCapacity {state : DeliveryState} {capacityBytes : Nat}
    (built : withCapacity state capacityBytes = .ok status) :
    status.Valid := by
  obtain ⟨checked, returned⟩ := Except.check_bind_eq_ok.mp built
  rw [Except.pure_eq_ok] at returned
  exact validate_eq_ok.mp (returned ▸ checked)

theorem DeliveryStatus.valid_fromJson {value : Value}
    (read : fromJson value = some status) : status.Valid := by
  simp only [fromJson, Option.bind_eq_bind, Option.bind_eq_some_iff] at read
  obtain ⟨_, -, _, -, _, -, _, -, _, -, _, -, _, -, _, -, _, -, _, -, _, checked, returned⟩ := read
  rw [← Option.some_inj.mp returned]
  exact validate_eq_ok.mp (Except.toOption_eq_some.mp checked)

/-- Everything that is produced passes its check. -/
theorem Produced.valid (produced : Produced status) :
    status.Valid := by
  cases produced with
  | inbound => exact DeliveryStatus.valid_base (by decide)
  | outbound => exact DeliveryStatus.valid_base (by decide)
  | inboundWithCapacity built => exact DeliveryStatus.valid_withCapacity built
  | outboundWithCapacity built => exact DeliveryStatus.valid_withCapacity built
  | deserialized read => exact DeliveryStatus.valid_fromJson read

namespace DeliveryOperation

/-- An operation either passes its checks and updates, or leaves the status as it was. -/
theorem step_cases (status : DeliveryStatus) (operation : DeliveryOperation) :
    (operation.check status = .ok () ∧ (operation.perform.exec status).1 = .ok () ∧
        operation.step status = operation.after status) ∨
      ∃ error, operation.check status = .error error ∧
        (operation.perform.exec status).1 = .error error ∧ operation.step status = status := by
  unfold step
  rw [exec_perform]
  cases operation.check status with
  | ok _ => exact .inl ⟨rfl, rfl, rfl⟩
  | error error => exact .inr ⟨error, rfl, rfl, rfl⟩

/-- The operations that what holds between the machines does not survive: a rejection of a
cancelled delivery, and a retry or a cancellation of a rejected one. -/
def Sound (status : DeliveryStatus) : DeliveryOperation → Prop
  | reject reason =>
      status.acknowledgement = .pending →
        validateText "acknowledgement reason" reason maxRetryErrorBytes = .ok () →
          status.cancellation ≠ .cancelled
  | scheduleRetry =>
      status.state = .failed → status.retry.attempt < status.retry.maxAttempts →
        status.acknowledgement ≠ .rejected
  | markCancelled =>
      status.cancellation = .requested → status.acknowledgement ≠ .rejected
  | _ => True

/-- One text bound serves the reasons of rejections and the errors of retries. -/
theorem validateText_eq_ok_congr {field other value : String} {maximum : Nat}
    (valid : validateText field value maximum = .ok ()) :
    validateText other value maximum = .ok () := by
  simp only [validateText, Except.check_bind_eq_ok, refuseIf_eq_ok] at valid ⊢
  exact valid

theorem valid_after {operation : DeliveryOperation}
    (valid : status.Valid) (accepted : operation.check status = .ok ())
    (sound : Sound status operation) : (operation.after status).Valid := by
  cases operation with
  | acknowledge =>
      exact { valid with
        acknowledgement := ⟨by simp [after], fun _ impossible => nomatch impossible⟩
        rejected := fun impossible => nomatch impossible }
  | reject reason =>
      obtain ⟨pending, text⟩ := Except.check_bind_eq_ok.mp accepted
      have open_ := sound (not_not.mp (refuseIf_eq_ok.mp pending)) text
      exact { valid with
        retry := valid.retry.withLastError (validateText_eq_ok_congr text)
        acknowledgement := ⟨by simp [after], by rintro _ ⟨⟩; exact text⟩
        cancelled := by simp [after, open_]
        rejected := fun _ => rfl }
  | markInFlight =>
      obtain ⟨queued, budget⟩ := Except.check_bind_eq_ok.mp accepted
      have state := not_not.mp (refuseIf_eq_ok.mp queued)
      have left := refuseIf_eq_ok.mp budget
      have retry : RetryState.Valid
          { status.retry with attempt := status.retry.attempt + 1 } :=
        { valid.retry with attempt_le := Nat.succ_le_of_lt (Nat.lt_of_not_ge left) }
      refine (valid.withRetry retry).withState ?_ (by decide) ?_
      · exact ne_of_eq_of_ne state (by decide)
      · exact fun isRejected => absurd (valid.rejected isRejected) (by simp [state])
  | markAccepted =>
      have state := not_not.mp (refuseIf_eq_ok.mp accepted)
      refine valid.withState (ne_of_eq_of_ne state (by decide)) (by decide) ?_
      exact fun isRejected => absurd (valid.rejected isRejected) (by simp [state])
  | markDelivered =>
      have state := refuseIf_eq_ok.mp accepted
      refine valid.withState ?_ (by decide) ?_
      · exact fun cancelled => state ⟨by simp [cancelled], by simp [cancelled]⟩
      · intro isRejected
        have failed := valid.rejected isRejected
        exact absurd ⟨by simp [failed], by simp [failed]⟩ state
  | markFailed reason =>
      obtain ⟨unsettled, text⟩ := Except.check_bind_eq_ok.mp accepted
      have state := not_or.mp (refuseIf_eq_ok.mp unsettled)
      exact (valid.withRetry (valid.retry.withLastError text)).withState state.2 (by decide)
        fun _ => rfl
  | scheduleRetry =>
      obtain ⟨failed, budget⟩ := Except.check_bind_eq_ok.mp accepted
      have state := not_not.mp (refuseIf_eq_ok.mp failed)
      have left := Nat.lt_of_not_ge (refuseIf_eq_ok.mp budget)
      refine valid.withState (ne_of_eq_of_ne state (by decide)) (by decide) ?_
      exact fun isRejected => absurd isRejected (sound state left)
  | requestCancel reason =>
      obtain ⟨open_, text⟩ := Except.check_bind_eq_ok.mp accepted
      have notCancelled := refuseIf_eq_ok.mp open_
      exact { valid with
        cancellation := ⟨by simp [after], by rintro _ ⟨⟩; exact text⟩
        cancelled := by simp [after, valid.cancelled, notCancelled] }
  | markCancelled =>
      by_cases already : status.cancellation = .cancelled
      · rw [after, if_pos already]
        exact valid
      · have active := refuseIf_eq_ok.mp accepted
        have requested : status.cancellation = .requested := by
          cases cancellation : status.cancellation with
          | active => exact absurd cancellation active
          | requested => rfl
          | cancelled => exact absurd cancellation already
        have reason := valid.cancellation
        rw [after, if_neg already]
        exact { valid with
          cancellation := ⟨by simpa [requested] using reason.1, reason.2⟩
          cancelled := by simp
          rejected := fun isRejected => absurd isRejected (sound requested) }
  | pause => exact valid.withBackpressure _
  | resume => exact valid.withBackpressure _
  | startDraining => exact valid.withBackpressure _
  | setBufferedBytes bufferedBytes =>
      exact { valid with
        buffered_le := Nat.le_of_not_gt (refuseIf_eq_ok.mp accepted) }
  | close => exact valid.withBackpressure _

/-- A sound operation keeps what `validate` asks, whether it is refused or not. -/
theorem valid_step (operation : DeliveryOperation)
    (valid : status.Valid) (sound : Sound status operation) : (operation.step status).Valid := by
  rcases step_cases status operation with ⟨accepted, -, moves⟩ | ⟨_, -, -, stays⟩
  · rw [moves]
    exact valid_after valid accepted sound
  · rw [stays]
    exact valid

theorem check_reject {reason : String} :
    check status (reject reason) = .ok () ↔ status.acknowledgement = .pending ∧
      validateText "acknowledgement reason" reason maxRetryErrorBytes = .ok () := by
  rw [check, Except.check_bind_eq_ok, refuseIf_eq_ok, not_not]

theorem check_scheduleRetry : check status scheduleRetry = .ok () ↔
      status.state = .failed ∧ status.retry.attempt < status.retry.maxAttempts := by
  rw [check, Except.check_bind_eq_ok, refuseIf_eq_ok, refuseIf_eq_ok, not_not, not_le]

theorem check_markCancelled :
    check status markCancelled = .ok () ↔ status.cancellation ≠ .active := by
  rw [check, refuseIf_eq_ok]

/-- An operation that is not sound is accepted, and its result does not pass the check. -/
theorem not_valid_step {operation : DeliveryOperation}
    (unsound : ¬ Sound status operation) : ¬ (operation.step status).Valid := by
  intro after
  rcases step_cases status operation with ⟨-, -, moves⟩ | ⟨error, refused, -, -⟩
  · rw [moves] at after
    cases operation with
    | reject reason =>
        simp only [Sound, not_forall, not_not] at unsound
        obtain ⟨-, -, cancelled⟩ := unsound
        have impossible := after.cancelled.mpr cancelled
        cases impossible
    | scheduleRetry =>
        simp only [Sound, not_forall, not_not] at unsound
        obtain ⟨-, -, rejected⟩ := unsound
        have impossible := after.rejected rejected
        cases impossible
    | markCancelled =>
        simp only [Sound, not_forall, not_not] at unsound
        obtain ⟨requested, rejected⟩ := unsound
        rw [DeliveryOperation.after, if_neg (by simp [requested])] at after
        have impossible := after.rejected rejected
        cases impossible
    | _ => exact unsound trivial
  · have accepted : operation.check status = .ok () := by
      cases operation with
      | reject reason =>
          simp only [Sound, not_forall] at unsound
          obtain ⟨pending, text, -⟩ := unsound
          exact check_reject.mpr ⟨pending, text⟩
      | scheduleRetry =>
          simp only [Sound, not_forall] at unsound
          obtain ⟨failed, left, -⟩ := unsound
          exact check_scheduleRetry.mpr ⟨failed, left⟩
      | markCancelled =>
          simp only [Sound, not_forall] at unsound
          obtain ⟨requested, -⟩ := unsound
          exact check_markCancelled.mpr (by simp [requested])
      | _ => exact absurd trivial unsound
    rw [accepted] at refused
    cases refused

/-- Passing the check, and read back as written. -/
def Intact (status : DeliveryStatus) : Prop :=
  status.validate = .ok () ∧ DeliveryStatus.fromJson status.toJson = some status

theorem intact_iff_valid : Intact status ↔ status.Valid := by
  constructor
  · exact fun intact => DeliveryStatus.validate_eq_ok.mp intact.1
  · exact fun valid =>
      ⟨DeliveryStatus.validate_eq_ok.mpr valid, DeliveryStatus.fromJson_toJson valid⟩

/-- An operation that returns an error leaves the status as it was. -/
def UnchangedWhenRefused (status : DeliveryStatus) (operation : DeliveryOperation) : Prop :=
  ∀ error, (operation.perform.exec status).1 = .error error → operation.step status = status

theorem unchangedWhenRefused (status : DeliveryStatus) (operation : DeliveryOperation) :
    UnchangedWhenRefused status operation := by
  intro error returned
  rcases step_cases status operation with ⟨-, succeeded, -⟩ | ⟨_, -, -, stays⟩
  · rw [succeeded] at returned
    cases returned
  · exact stays

/-- A status stays intact, and refused operations leave it as it was, exactly when no delivery
is rejected after it was cancelled and none is retried or cancelled after it was rejected. -/
theorem intact_iff_sound {start : DeliveryStatus} (produced : Produced start)
    (operations : List DeliveryOperation) :
    (Throughout step Intact start operations ∧
        EachStep step UnchangedWhenRefused start operations) ↔
      EachStep step Sound start operations := by
  have throughout : Throughout step Intact start operations ↔
      EachStep step Sound start operations :=
    throughout_iff_eachStep DeliveryStatus.Valid (fun _ _ => True)
      (fun _ valid => intact_iff_valid.mpr valid)
      (fun _ operation valid _ sound => valid_step operation valid sound)
      (fun _ _ _ _ unsound intact => not_valid_step unsound (intact_iff_valid.mp intact))
      produced.valid (eachStep_true start operations)
  have unchanged : EachStep step UnchangedWhenRefused start operations :=
    eachStep_of_forall_mem (fun operation _ status => unchangedWhenRefused status operation) start
  rw [throughout, and_iff_left unchanged]

theorem intact_iff_sound_outbound : (Throughout step Intact .newOutbound [.markInFlight] ∧
        EachStep step UnchangedWhenRefused .newOutbound [.markInFlight]) ↔
      EachStep step Sound .newOutbound [.markInFlight] :=
  intact_iff_sound .outbound [.markInFlight]

/-- A delivery that was cancelled is rejected, and is then failed and cancelled at once. -/
theorem rejected_after_cancelled : ¬ (Throughout step Intact .newOutbound
          [.requestCancel "stop", .markCancelled, .reject "late"] ∧
        EachStep step UnchangedWhenRefused .newOutbound
          [.requestCancel "stop", .markCancelled, .reject "late"]) := by
  intro holds
  have valid := intact_iff_valid.mp holds.1.last
  have ended : (finalState step DeliveryStatus.newOutbound
      [.requestCancel "stop", .markCancelled, .reject "late"]).cancellation = .cancelled := by
    decide
  have failed : (finalState step DeliveryStatus.newOutbound
      [.requestCancel "stop", .markCancelled, .reject "late"]).state = .failed := by
    decide
  rw [valid.cancelled.mpr ended] at failed
  cases failed

/-- The statuses that a new message starts with. -/
inductive New : DeliveryStatus → Prop
  | inbound : New .newInbound
  | outbound : New .newOutbound
  | inboundWithCapacity {capacityBytes : Nat} {status : DeliveryStatus}
      (built : DeliveryStatus.newInboundWithCapacity capacityBytes = .ok status) : New status
  | outboundWithCapacity {capacityBytes : Nat} {status : DeliveryStatus}
      (built : DeliveryStatus.newOutboundWithCapacity capacityBytes = .ok status) : New status

/-- `Delivered` and `Cancelled`. -/
def IsFinal (state : DeliveryState) : Prop :=
  state = .delivered ∨ state = .cancelled

/-- Once a final state is reached in a run, no later operation of it changes the state. -/
def FinalStays (start : DeliveryStatus) (operations : List DeliveryOperation) : Prop :=
  ∀ earlier later, earlier ++ later <+: operations →
    IsFinal (finalState step start earlier).state →
      (finalState step start (earlier ++ later)).state = (finalState step start earlier).state

/-- The operations that do not move a final state: no accepted rejection, and no requested
cancellation of what was delivered. -/
def KeepsFinal (status : DeliveryStatus) : DeliveryOperation → Prop
  | reject reason =>
      IsFinal status.state → status.acknowledgement = .pending →
        validateText "acknowledgement reason" reason maxRetryErrorBytes ≠ .ok ()
  | markCancelled => status.state = .delivered → status.cancellation ≠ .requested
  | _ => True

/-- The successful calls of `mark_in_flight`. -/
def launches (status : DeliveryStatus) (operation : DeliveryOperation) : List DeliveryOperation :=
  if operation = .markInFlight ∧ (operation.perform.exec status).1.isOk then [operation] else []

/-- A step keeps a final state exactly when it is not one of the two that move it. -/
theorem final_step_iff (status : DeliveryStatus) (operation : DeliveryOperation) :
    (IsFinal status.state → (operation.step status).state = status.state) ↔
      KeepsFinal status operation := by
  rcases step_cases status operation with ⟨accepted, -, moves⟩ | ⟨error, refused, -, stays⟩
  · rw [moves]
    cases operation with
    | reject reason =>
        obtain ⟨pending, text⟩ := check_reject.mp accepted
        simp only [KeepsFinal, IsFinal, after]
        constructor
        · intro keeps final
          rcases final with final | final <;> simp [final] at keeps
        · exact fun keeps final => absurd text (keeps final pending)
    | markInFlight =>
        obtain ⟨queued, -⟩ := Except.check_bind_eq_ok.mp accepted
        have state := not_not.mp (refuseIf_eq_ok.mp queued)
        simp [KeepsFinal, IsFinal, state]
    | markAccepted =>
        have state := not_not.mp (refuseIf_eq_ok.mp accepted)
        simp [KeepsFinal, IsFinal, state]
    | markDelivered =>
        have state := refuseIf_eq_ok.mp accepted
        simp only [KeepsFinal, IsFinal, after, iff_true]
        rintro (delivered | cancelled)
        · exact delivered.symm
        · exact absurd ⟨by simp [cancelled], by simp [cancelled]⟩ state
    | markFailed reason =>
        obtain ⟨unsettled, -⟩ := Except.check_bind_eq_ok.mp accepted
        simp only [KeepsFinal, IsFinal, iff_true]
        exact fun final => absurd final (refuseIf_eq_ok.mp unsettled)
    | scheduleRetry =>
        have state := (check_scheduleRetry.mp accepted).1
        simp [KeepsFinal, IsFinal, state]
    | markCancelled =>
        have asked := check_markCancelled.mp accepted
        by_cases already : status.cancellation = .cancelled
        · simp [KeepsFinal, after, already]
        · have requested : status.cancellation = .requested := by
            cases cancellation : status.cancellation with
            | active => exact absurd cancellation asked
            | requested => rfl
            | cancelled => exact absurd cancellation already
          cases state : status.state <;> simp [KeepsFinal, IsFinal, after, requested, state]
    | _ => simp [KeepsFinal, after]
  · rw [stays]
    refine iff_of_true (fun _ => rfl) ?_
    cases operation with
    | reject reason =>
        intro _ pending text
        rw [check_reject.mpr ⟨pending, text⟩] at refused
        cases refused
    | markCancelled =>
        intro _ requested
        rw [check_markCancelled.mpr (by simp [requested])] at refused
        cases refused
    | _ => trivial

/-- Final states stay along a run exactly when each of its steps keeps them. -/
theorem finalStays_iff (start : DeliveryStatus) (operations : List DeliveryOperation) :
    FinalStays start operations ↔ EachStep step KeepsFinal start operations := by
  rw [eachStep_iff_prefixes]
  constructor
  · intro stays earlier operation later split
    rw [← final_step_iff]
    intro final
    have kept := stays earlier [operation] ⟨later, by rw [split]; simp⟩ final
    rwa [finalState_append] at kept
  · intro kept earlier later within final
    induction later using List.reverseRecOn with
    | nil => rw [List.append_nil]
    | append_singleton later operation ih =>
        have shorter : earlier ++ later <+: operations :=
          (List.prefix_append (earlier ++ later) [operation]).trans
            (by rwa [← List.append_assoc] at within)
        have reached := ih shorter
        obtain ⟨rest, split⟩ := within
        have keeps := kept (earlier ++ later) operation rest (by rw [← split]; simp)
        rw [← final_step_iff] at keeps
        rw [← List.append_assoc, finalState_append, finalState_cons, finalState_nil,
          keeps (reached.symm ▸ final), reached]

/-- The attempts count the successful calls of `mark_in_flight` and stay within their limit. -/
theorem attempts_step (status : DeliveryStatus) (operation : DeliveryOperation) :
    (operation.step status).retry.attempt =
        status.retry.attempt + (launches status operation).length ∧
      (operation.step status).retry.maxAttempts = status.retry.maxAttempts ∧
      (status.retry.attempt ≤ status.retry.maxAttempts →
        (operation.step status).retry.attempt ≤ status.retry.maxAttempts) := by
  unfold launches
  rcases step_cases status operation with ⟨accepted, returned, moves⟩ | ⟨error, -, returned, stays⟩
  · rw [moves, returned]
    cases operation with
    | markInFlight =>
        obtain ⟨-, budget⟩ := Except.check_bind_eq_ok.mp accepted
        have left := refuseIf_eq_ok.mp budget
        simp only [after, Except.isOk, Except.toBool]
        simp
        omega
    | markCancelled =>
        by_cases already : status.cancellation = .cancelled <;> simp [after, already]
    | _ => simp [after]
  · rw [stays, returned]
    simp [Except.isOk, Except.toBool]

/-- Over a whole run, the attempts have grown by the successful calls of `mark_in_flight`. -/
theorem attempts_run (start : DeliveryStatus) (operations : List DeliveryOperation)
    (within : start.retry.attempt ≤ start.retry.maxAttempts) :
    start.retry.attempt + (givenOff step launches start operations).length ≤
      start.retry.maxAttempts := by
  induction operations generalizing start with
  | nil => simpa [givenOff] using within
  | cons operation operations ih =>
      obtain ⟨grows, limit, bound⟩ := attempts_step start operation
      have later := ih (operation.step start) (limit ▸ bound within)
      rw [grows, limit] at later
      rw [givenOff, List.length_append]
      omega

theorem New.valid (isNew : New status) : status.Valid := by
  cases isNew with
  | inbound => exact Produced.inbound.valid
  | outbound => exact Produced.outbound.valid
  | inboundWithCapacity built => exact (Produced.inboundWithCapacity built).valid
  | outboundWithCapacity built => exact (Produced.outboundWithCapacity built).valid

/-- From a new status a delivery leaves no final state exactly when nothing final is rejected
and nothing delivered is cancelled; it is never in flight more often than it may be. -/
theorem finalStays_iff_keepsFinal {start : DeliveryStatus} (isNew : New start)
    (operations : List DeliveryOperation) :
    (FinalStays start operations ∧
        (givenOff step launches start operations).length ≤ start.retry.maxAttempts) ↔
      EachStep step KeepsFinal start operations := by
  have bounded := attempts_run start operations isNew.valid.retry.attempt_le
  rw [finalStays_iff, and_iff_left (by omega)]

theorem finalStays_iff_keepsFinal_inbound : (FinalStays .newInbound [.markDelivered, .close] ∧
        (givenOff step launches .newInbound [.markDelivered, .close]).length ≤
          DeliveryStatus.newInbound.retry.maxAttempts) ↔
      EachStep step KeepsFinal .newInbound [.markDelivered, .close] :=
  finalStays_iff_keepsFinal .inbound [.markDelivered, .close]

/-- A delivered message that nobody has acknowledged is rejected, and is then failed. -/
theorem rejected_after_delivered : ¬ (FinalStays .newInbound [.markDelivered, .reject "late"] ∧
        (givenOff step launches .newInbound [.markDelivered, .reject "late"]).length ≤
          DeliveryStatus.newInbound.retry.maxAttempts) := by
  intro holds
  have kept := holds.1 [.markDelivered] [.reject "late"] (List.prefix_refl _) (.inl rfl)
  revert kept
  decide

end DeliveryOperation

end Weixin
end YunXi
