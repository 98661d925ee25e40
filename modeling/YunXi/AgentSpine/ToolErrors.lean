import YunXi.AgentSpine.Conversation

/-!
# Errors of the tool broker

A component error normalizes its code and bounds its message, and an outcome checks both once
more.  The two agree on every code.  A message that is not empty and blank once it is bounded
passes the first and is refused by the second, and the turn ends there.
-/

namespace YunXi
namespace AgentSpine

open Fallible
open Protocol

theorem firstRejected_eq_none {allowed : Char → Bool} {characters : List Char}
    (index : Nat) (passes : characters.all allowed = true) :
    firstRejected allowed index characters = none := by
  induction characters generalizing index with
  | nil => rfl
  | cons character rest ih =>
      rw [List.all_cons, Bool.and_eq_true] at passes
      rw [firstRejected, if_pos passes.1]
      exact ih _ passes.2

theorem validateToken_of_isErrorCode {field value : String} {maximum : Nat}
    (isCode : isErrorCode value.toList = true) (fits : value.utf8ByteSize ≤ maximum) :
    validateToken field value maximum toolNameCharacter = .ok () := by
  unfold validateToken
  generalize value.toList = characters at isCode
  cases characters with
  | nil => cases isCode
  | cons first rest =>
      rw [isErrorCode, Bool.and_eq_true] at isCode
      have firstAllowed : toolNameCharacter first = true := by
        simp [toolNameCharacter, isCode.1]
      have allAllowed : (first :: rest).all toolNameCharacter = true := by
        rw [List.all_cons, firstAllowed, isCode.2, Bool.and_self]
      have starts : isAsciiAlphanumeric first = true := by
        simp [isAsciiAlphanumeric, isCode.1]
      dsimp only
      rw [if_neg (Nat.not_lt.mpr fits), firstRejected_eq_none 0 allAllowed]
      exact if_pos starts

/-- A normalized code is a tool error code. -/
theorem validateToken_normalizeCode (field value : String) :
    validateToken field (normalizeCode value) maxToolNameBytes toolNameCharacter = .ok () := by
  unfold normalizeCode
  dsimp only
  split
  case isTrue isCode =>
    exact validateToken_of_isErrorCode isCode (utf8ByteSize_truncate_le value _)
  case isFalse => rfl

variable (message : String)

/-- The message is empty, or not blank once it is bounded. -/
def Reported : Prop :=
  message = "" ∨ isBlank (truncate message maxErrorMessageBytes) = false

instance (message : String) : Decidable (Reported message) :=
  inferInstanceAs (Decidable (_ ∨ _))

theorem truncate_eq_empty (value : String) {maximum : Nat} (some_ : 4 ≤ maximum) :
    truncate value maximum = "" ↔ value = "" := by
  unfold truncate
  split
  case isTrue => exact Iff.rfl
  case isFalse tooLong =>
    have notEmpty : value ≠ "" := by
      rintro rfl
      exact tooLong (Nat.zero_le _)
    refine iff_of_false ?_ notEmpty
    cases characters : value.toList with
    | nil => exact absurd (String.toList_eq_nil_iff.mp characters) notEmpty
    | cons first rest =>
        have fits : first.utf8Size ≤ maximum := first.utf8Size_le_four.trans some_
        rw [takeBytes, if_pos fits]
        simp

theorem utf8ByteSize_boundedMessage_le :
    (boundedMessage message).utf8ByteSize ≤ maxToolTextBytes := by
  unfold boundedMessage
  dsimp only
  split
  case isTrue => decide
  case isFalse => exact utf8ByteSize_truncate_le message _

/-- The bounded message is blank only if the message is so without being empty. -/
theorem isBlank_boundedMessage :
    isBlank (boundedMessage message) = false ↔ Reported message := by
  unfold boundedMessage Reported
  rw [← truncate_eq_empty message (by decide : 4 ≤ maxErrorMessageBytes)]
  generalize truncate message maxErrorMessageBytes = text
  by_cases isEmpty : text = ""
  · subst isEmpty
    exact iff_of_true (by decide) (.inl rfl)
  · have notNil : ¬ text.toList.isEmpty = true := by
      rw [List.isEmpty_iff, String.toList_eq_nil_iff]
      exact isEmpty
    rw [if_neg notNil]
    exact (or_iff_right isEmpty).symm

/-- An error is a valid outcome exactly when its message is reported. -/
theorem validate_failed_iff (code message : String) (retryable : Bool) :
    (ToolResultOutcome.failed (normalizeCode code) (boundedMessage message)
      retryable).validate = .ok () ↔ Reported message := by
  change ToolResultOutcome.validateFailure _ _ = _ ↔ _
  unfold ToolResultOutcome.validateFailure validateText
  rw [validateToken_normalizeCode, ← isBlank_boundedMessage]
  cases isBlank (boundedMessage message) with
  | true => exact iff_of_false (by rintro ⟨⟩) (by decide)
  | false =>
      have fits := Nat.not_lt.mpr (utf8ByteSize_boundedMessage_le message)
      exact iff_of_true (if_neg fits) rfl

variable {σ : Type} {components : Components σ} {budget : TurnBudget} {turnId : String}
  {batch : ToolCallBatch} {cancellation : SharedToken σ} {mode : ExecutionMode}

variable {startCall : Nat}

/-- The calls after the first run without an approval. -/
theorem processCalls_past (approval : Option ToolApprovalDecision)
    {entries : List (ToolCall × Nat)} (past : ∀ entry ∈ entries, entry.2 ≠ startCall)
    (start : Nat) :
    processCalls components budget turnId batch startCall approval cancellation mode entries =
      processCalls components budget turnId batch start none cancellation mode entries := by
  induction entries with
  | nil => rfl
  | cons entry entries ih =>
      have other : (entry.2 == startCall) = false :=
        beq_false_of_ne (past entry List.mem_cons_self)
      have unapproved : (approval.filter fun _ => entry.2 == startCall) = none := by
        rw [other]
        cases approval <;> rfl
      rw [processCalls, processCalls, unapproved, Option.filter_none,
        ih fun entry member => past entry (List.mem_cons_of_mem _ member)]

variable {approval : Option ToolApprovalDecision} {call : ToolCall}

/-- Behind a settled call the batch goes on with the next one. -/
theorem processToolBatch_settled
    {live after : Live σ} (isCall : batch.calls[startCall]? = some call)
    (settled : (processCall components budget turnId batch approval cancellation mode call
      startCall).exec live = (.ok none, after)) :
    (processToolBatch components budget turnId batch startCall approval cancellation
      mode).exec live =
      (processToolBatch components budget turnId batch (startCall + 1) none cancellation
        mode).exec after := by
  have entries : batch.calls.zipIdx.drop startCall =
      (call, startCall) :: batch.calls.zipIdx.drop (startCall + 1) := by
    have found : batch.calls.zipIdx[startCall]? = some (call, startCall) := by
      rw [List.getElem?_zipIdx, isCall]
      simp
    obtain ⟨inBounds, isEntry⟩ := List.getElem?_eq_some_iff.mp found
    rw [List.drop_eq_getElem_cons inBounds, isEntry]
  have past : ∀ entry ∈ batch.calls.zipIdx.drop (startCall + 1), entry.2 ≠ startCall := by
    intro entry member
    obtain ⟨offset, found⟩ := List.getElem?_of_mem member
    rw [List.getElem?_drop, List.getElem?_zipIdx] at found
    obtain ⟨-, -, rfl⟩ := Option.map_eq_some_iff.mp found
    dsimp only
    omega
  have used : (approval.filter fun _ => startCall == startCall) = approval := by
    cases approval with
    | none => rfl
    | some decision => simp
  unfold processToolBatch
  rw [entries, processCalls, used, exec_bind, settled]
  exact congrArg (Fallible.exec · after) (processCalls_past approval past (startCall + 1))

variable (components budget turnId batch cancellation mode) in
/-- The call that is tried next, the approval it runs under and the state of the turn. -/
inductive Comes (startCall : Nat) (approval : Option ToolApprovalDecision) (live : Live σ) :
    Nat → Option ToolApprovalDecision → Live σ → Prop
  | start : Comes startCall approval live startCall approval live
  | next {index : Nat} {used : Option ToolApprovalDecision} {before after : Live σ}
      {call : ToolCall} (comes : Comes startCall approval live index used before)
      (isCall : batch.calls[index]? = some call)
      (settled : (processCall components budget turnId batch used cancellation mode call
        index).exec before = (.ok none, after)) :
      Comes startCall approval live (index + 1) none after

/-- The batch ends as it does from any call it comes to. -/
theorem processToolBatch_of_comes {index : Nat}
    {used : Option ToolApprovalDecision} {live before : Live σ}
    (comes : Comes components budget turnId batch cancellation mode startCall approval live
      index used before) :
    (processToolBatch components budget turnId batch startCall approval cancellation
      mode).exec live =
      (processToolBatch components budget turnId batch index used cancellation mode).exec
        before := by
  induction comes with
  | start => rfl
  | next comes isCall settled ih =>
      exact ih.trans (processToolBatch_settled isCall settled)

/-- The log with the approval a call runs under. -/
def SessionLog.resolved (log : SessionLog) (turnId : String) :
    Option ToolApprovalDecision → SessionLog
  | none => log
  | some decision => log.extend (.toolApprovalResolved turnId decision)

/-- The log accepts the approval, if there is one, and the result after it. -/
def SessionLog.Takes (log : SessionLog) (turnId : String)
    (approval : Option ToolApprovalDecision) (result : ToolResult) : Prop :=
  (∀ decision, approval = some decision → log.Accepts (.toolApprovalResolved turnId decision)) ∧
    (log.resolved turnId approval).Accepts (.toolResultRecorded turnId result)

theorem SessionLog.conversation_resolved (log : SessionLog) (turnId : String)
    (approval : Option ToolApprovalDecision) :
    (log.resolved turnId approval).conversation = log.conversation := by
  cases approval with
  | none => rfl
  | some decision => simp [resolved, conversation, SessionEvent.messages]

/-- A call that is tried and that the broker answers with an error. -/
structure ToolFails (components : Components σ) (budget : TurnBudget) (turnId : String)
    (batch : ToolCallBatch) (cancellation : SharedToken σ) (mode : ExecutionMode)
    (call : ToolCall) (used : Option ToolApprovalDecision) (before : Live σ)
    (error : ComponentError) (outside : σ) : Prop where
  admits : before.Admits budget cancellation
  answers : (executeTool components mode ⟨turnId, batch.round, call⟩ used cancellation).exec
    (cancellation before.components).2 = (.error error, outside)

/-- The result built from a broker's error. -/
def failedResult (batch : ToolCallBatch) (call : ToolCall) (code message : String)
    (retryable : Bool) : Except ToolProtocolError ToolResult :=
  ToolResult.new batch.round call.id call.name
    (.failed (normalizeCode code) (boundedMessage message) retryable)

theorem validateRound_batch (batch : ToolCallBatch) : validateRound batch.round = .ok () := by
  have valid := batch.valid
  unfold validateBatch at valid
  cases version : validateVersion batch.protocolVersion with
  | error error =>
      rw [version] at valid
      cases valid
  | ok passed =>
      cases round : validateRound batch.round with
      | error error =>
          rw [version, round] at valid
          cases valid
      | ok passed => rfl

/-- A reported error is the outcome of a result. -/
theorem exists_failedResult (batch : ToolCallBatch) (call : ToolCall) (code : String)
    {message : String} (retryable : Bool) (reported : Reported message) :
    ∃ result, failedResult batch call code message retryable = .ok result := by
  have valid : validateResult toolProtocolVersion batch.round
      (.failed (normalizeCode code) (boundedMessage message) retryable) = .ok () := by
    unfold validateResult
    rw [validateRound_batch]
    exact (validate_failed_iff code message retryable).mpr reported
  exact ⟨_, build_of_ok valid _⟩

variable {result : ToolResult}

theorem reported_of_failedResult {batch : ToolCallBatch}
    {code message : String} {retryable : Bool}
    (built : failedResult batch call code message retryable = .ok result) :
    Reported message := by
  unfold failedResult ToolResult.new at built
  obtain ⟨valid, -⟩ := build_eq_ok built
  unfold validateResult at valid
  rw [validateRound_batch] at valid
  exact (validate_failed_iff code message retryable).mp valid

/-- A result that is built is logged, unless the log refuses it. -/
theorem wp_recordResult {round : Nat} {outcome : ToolResultOutcome}
    (built : ToolResult.new round call.id call.name outcome = .ok result) (live : Live σ) :
    (do
      let result ← TurnProgram.protocolCheck "invalid_tool_result"
        (ToolResult.new round call.id call.name outcome)
      TurnProgram.record (.toolResultRecorded turnId result) : TurnProgram σ Unit).wp
      (fun ended after =>
        (live.session.Accepts (.toolResultRecorded turnId result) ∧ ended = .ok () ∧
          after = { live with
            session := live.session.extend (.toolResultRecorded turnId result) }) ∨
        (¬ live.session.Accepts (.toolResultRecorded turnId result) ∧
          ∃ error, ended = .error (.session error))) live := by
  unfold TurnProgram.protocolCheck
  rw [built, wp_bind, wp_ofExcept]
  change Fallible.andThen _ _ (.ok result) live
  rw [andThen_ok]
  refine TurnProgram.wp_record (fun accepts => .inl ⟨accepts, rfl, rfl⟩) ?_
  exact fun error refused => .inr ⟨refused, error, rfl⟩

/-- The result of a call is logged after the approval, unless the log refuses either. -/
theorem wp_settleCall {round : Nat}
    {outcome : ToolResultOutcome}
    (built : ToolResult.new round call.id call.name outcome = .ok result) (live : Live σ) :
    (settleCall turnId round call approval outcome).wp
      (fun ended after =>
        (live.session.Takes turnId approval result ∧ ended = .ok () ∧
          after = { live with
            session := (live.session.resolved turnId approval).extend
              (.toolResultRecorded turnId result) }) ∨
        (¬ live.session.Takes turnId approval result ∧
          ∃ error, ended = .error (.session error))) live := by
  unfold settleCall
  cases approval with
  | none =>
      refine wp_mono (wp_recordResult built live) ?_
      rintro ended after (⟨accepts, done⟩ | ⟨refused, ends⟩)
      · exact .inl ⟨⟨nofun, accepts⟩, done⟩
      · exact .inr ⟨fun takes => refused takes.2, ends⟩
  | some decision =>
      rw [wp_bind]
      refine TurnProgram.wp_record ?_ ?_
      · intro approves
        rw [andThen_ok]
        refine wp_mono (wp_recordResult built _) ?_
        rintro ended after (⟨accepts, done⟩ | ⟨refused, ends⟩)
        · refine .inl ⟨⟨?_, accepts⟩, done⟩
          rintro _ ⟨⟩
          exact approves
        · exact .inr ⟨fun takes => refused takes.2, ends⟩
      · exact fun error refused => .inr ⟨fun takes => refused (takes.1 _ rfl), error, rfl⟩

section Failing

variable {call : ToolCall} {used : Option ToolApprovalDecision} {before : Live σ}
  {code message : String} {retryable : Bool} {outside : σ} {index : Nat}

/-- What the batch does with the error of an admitted call. -/
theorem exec_processCall_fails {error : ComponentError}
    (fails : ToolFails components budget turnId batch cancellation mode call used before error
      outside) :
    (processCall components budget turnId batch used cancellation mode call index).exec before =
      (finishCall turnId batch used call index (.error error)).exec
        (before.counted outside) := by
  obtain ⟨-, counted⟩ | ⟨refused, -⟩ := exec_admitCall budget cancellation before
  · have asked : (TurnProgram.tryComponent (executeTool components mode
        ⟨turnId, batch.round, call⟩ used cancellation)).exec
          (before.counted (cancellation before.components).2) =
        (.ok (.error error), before.counted outside) := by
      unfold TurnProgram.tryComponent Live.counted
      rw [exec_attempt]
      dsimp only
      rw [fails.answers]
    unfold processCall
    rw [exec_bind_of_ok counted, exec_bind_of_ok asked]
  · exact absurd fails.admits refused

/-- An error that is not reported ends the turn; another one is recorded if the log has room. -/
inductive ErrorFate (turnId : String) (batch : ToolCallBatch) (call : ToolCall)
    (used : Option ToolApprovalDecision) (counted : Live σ) (code message : String)
    (retryable : Bool) : Except AgentError (Option PendingTool) → Live σ → Prop
  | recorded {result : ToolResult} (reported : Reported message)
      (built : failedResult batch call code message retryable = .ok result)
      (takes : counted.session.Takes turnId used result) :
      ErrorFate turnId batch call used counted code message retryable (.ok none)
        { counted with
          session := (counted.session.resolved turnId used).extend
            (.toolResultRecorded turnId result) }
  | refused {result : ToolResult} {after : Live σ} {error : SessionError}
      (reported : Reported message)
      (built : failedResult batch call code message retryable = .ok result)
      (full : ¬ counted.session.Takes turnId used result) :
      ErrorFate turnId batch call used counted code message retryable
        (.error (.session error)) after
  | ended {after : Live σ} {error : ComponentError} (unreported : ¬ Reported message) :
      ErrorFate turnId batch call used counted code message retryable
        (.error (.protocol error)) after

theorem errorFate_finishCall (counted : Live σ) :
    (finishCall turnId batch used call index (.error (.new code message retryable))).wp
      (ErrorFate turnId batch call used counted code message retryable) counted := by
  have outcome := validate_failed_iff code message retryable
  unfold finishCall
  rw [wp_bind]
  by_cases reported : Reported message
  · obtain ⟨result, built⟩ := exists_failedResult batch call code retryable reported
    have newFailed : ToolResultOutcome.newFailed (normalizeCode code) (boundedMessage message)
        retryable = .ok (.failed (normalizeCode code) (boundedMessage message) retryable) :=
      build_of_ok (outcome.mpr reported) _
    refine TurnProgram.wp_protocolCheck ?_ ?_
    · intro value isOutcome
      cases newFailed.symm.trans isOutcome
      rw [andThen_ok]
      refine wp_bind_of (wp_settleCall built counted) ?_ ?_
      · rintro _ after (⟨takes, -, rfl⟩ | ⟨-, error, stops⟩)
        · exact .recorded reported built takes
        · cases stops
      · rintro error after (⟨-, stops, -⟩ | ⟨full, error, ⟨⟩⟩)
        · cases stops
        · exact .refused reported built full
    · intro error isError
      cases newFailed.symm.trans isError
  · refine TurnProgram.wp_protocolCheck ?_ ?_
    · intro value isOutcome
      obtain ⟨valid, -⟩ := build_eq_ok isOutcome
      exact absurd (outcome.mp valid) reported
    · exact fun error isError => .ended reported

theorem errorFate_processCall
    (fails : ToolFails components budget turnId batch cancellation mode call used before
      (.new code message retryable) outside) :
    (processCall components budget turnId batch used cancellation mode call index).wp
      (ErrorFate turnId batch call used (before.counted outside) code message retryable)
      before := by
  unfold wp
  rw [exec_processCall_fails fails]
  exact errorFate_finishCall (before.counted outside)

variable (components budget turnId batch cancellation mode) in
/-- The error of a call is a result that is recorded and shown, and the batch goes on behind
the call. -/
structure FailureAnswered (startCall : Nat) (approval : Option ToolApprovalDecision)
    (live : Live σ) (index : Nat) (call : ToolCall) (used : Option ToolApprovalDecision)
    (before : Live σ) (code message : String) (retryable : Bool) (result : ToolResult)
    (after : Live σ) : Prop where
  built : failedResult batch call code message retryable = .ok result
  settled : (processCall components budget turnId batch used cancellation mode call
    index).exec before = (.ok none, after)
  recorded : after.session =
    (before.session.resolved turnId used).extend (.toolResultRecorded turnId result)
  shown : after.session.conversation = before.session.conversation ++
    [.toolResult call.id call.name result.outcome.toJson.toText]
  continues : (processToolBatch components budget turnId batch startCall approval cancellation
      mode).exec live =
    (processToolBatch components budget turnId batch (index + 1) none cancellation
      mode).exec after

theorem conversation_recorded (log : SessionLog)
    (built : failedResult batch call code message retryable = .ok result) :
    ((log.resolved turnId used).extend (.toolResultRecorded turnId result)).conversation =
      log.conversation ++ [.toolResult call.id call.name result.outcome.toJson.toText] := by
  obtain ⟨-, rfl⟩ := build_eq_ok built
  have resolved := log.conversation_resolved turnId used
  unfold SessionLog.conversation at resolved ⊢
  rw [SessionLog.events_extend, List.flatMap_append, SessionLog.seed_extend,
    ← List.append_assoc, resolved]
  rfl

/-- Wherever a batch comes to a call that the broker answers with an error, the error is
recorded and shown and the batch goes on exactly when its message is reported and the log
takes the result; the call ends the turn with a protocol error exactly when the message is
not reported. -/
theorem failureAnswered_iff {live : Live σ}
    (comes : Comes components budget turnId batch cancellation mode startCall approval live
      index used before)
    (isCall : batch.calls[index]? = some call)
    (fails : ToolFails components budget turnId batch cancellation mode call used before
      (.new code message retryable) outside) :
    ((∃ result after, FailureAnswered components budget turnId batch cancellation mode
        startCall approval live index call used before code message retryable result after) ↔
      Reported message ∧ ∀ result, failedResult batch call code message retryable = .ok result →
        before.session.Takes turnId used result) ∧
    ((∃ error, ((processCall components budget turnId batch used cancellation mode call
        index).exec before).1 = .error (.protocol error)) ↔ ¬ Reported message) := by
  have fate : (processCall components budget turnId batch used cancellation mode call
      index).wp (ErrorFate turnId batch call used (before.counted outside) code message
        retryable) before := errorFate_processCall fails
  unfold wp at fate
  generalize ran : (processCall components budget turnId batch used cancellation mode call
    index).exec before = ended at fate
  obtain ⟨outcome, after⟩ := ended
  cases fate with
  | @recorded result reported built takes =>
      refine ⟨iff_of_true ?_ ⟨reported, ?_⟩,
        iff_of_false (by rintro ⟨error, ⟨⟩⟩) (not_not_intro reported)⟩
      · exact ⟨result, _,
          { built
            settled := ran
            recorded := rfl
            shown := conversation_recorded before.session built
            continues := (processToolBatch_of_comes comes).trans
              (processToolBatch_settled isCall ran) }⟩
      · intro other alsoBuilt
        cases built.symm.trans alsoBuilt
        exact takes
  | @refused result after error reported built full =>
      refine ⟨iff_of_false ?_ fun holds => full (holds.2 result built),
        iff_of_false (by rintro ⟨error, ⟨⟩⟩) (not_not_intro reported)⟩
      rintro ⟨_, _, answered⟩
      cases ran.symm.trans answered.settled
  | @ended after error unreported =>
      refine ⟨iff_of_false ?_ fun holds => unreported holds.1,
        iff_of_true ⟨error, rfl⟩ unreported⟩
      rintro ⟨_, _, answered⟩
      cases ran.symm.trans answered.settled

end Failing

/-- A batch of one call. -/
def echoBatch : ToolCallBatch := ⟨toolProtocolVersion, 1, [echoCall], rfl⟩

/-- The components whose broker answers every call with an error. -/
def failingComponents : Components Script :=
  .scripted (.plain (throw (.new "x" message false)))

/-- A turn that has just started. -/
def firstTurn : Live Script := ⟨⟨.default, [], [], 0, 1⟩, .new "turn-1", []⟩

theorem firstTurn_fails :
    ToolFails (failingComponents message) .conservative "turn-1" echoBatch .fresh .legacy
      echoCall none firstTurn (.new "x" message false) [] :=
  ⟨⟨rfl, by decide⟩, rfl⟩

theorem failureAnswered_iff_no :
    ((∃ result after, FailureAnswered (failingComponents "no") .conservative "turn-1" echoBatch
        .fresh .legacy 0 none firstTurn 0 echoCall none firstTurn "x" "no" false result after) ↔
      Reported "no" ∧ ∀ result, failedResult echoBatch echoCall "x" "no" false = .ok result →
        firstTurn.session.Takes "turn-1" none result) ∧
    ((∃ error, ((processCall (failingComponents "no") .conservative "turn-1" echoBatch none
        .fresh .legacy echoCall 0).exec firstTurn).1 = .error (.protocol error)) ↔
      ¬ Reported "no") :=
  failureAnswered_iff .start rfl (firstTurn_fails "no")

/-- A blank message ends the turn. -/
theorem blank_failure_ends_turn :
    ToolFails (failingComponents " ") .conservative "turn-1" echoBatch .fresh .legacy echoCall
        none firstTurn (.new "x" " " false) [] ∧
      (∃ error, ((processToolBatch (failingComponents " ") .conservative "turn-1" echoBatch 0
        none .fresh .legacy).exec firstTurn).1 = .error (.protocol error)) ∧
      ¬ ∃ result after, FailureAnswered (failingComponents " ") .conservative "turn-1"
        echoBatch .fresh .legacy 0 none firstTurn 0 echoCall none firstTurn "x" " " false
        result after := by
  refine ⟨firstTurn_fails " ", ⟨_, rfl⟩, ?_⟩
  rintro ⟨result, after, answered⟩
  have unreported : ¬ Reported " " := by decide
  exact unreported (reported_of_failedResult answered.built)

end AgentSpine
end YunXi
