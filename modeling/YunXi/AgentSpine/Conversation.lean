import YunXi.AgentSpine.Journal
import YunXi.Program.Run

/-!
# Tool calls and their results in the conversation

A model provider rejects a conversation in which a tool call is left without its
result.  The log writes the call when the model responds and the results one by
one while the batch runs, so a turn that stops in between leaves calls open.
The module states when a conversation is well formed, follows the open calls
through a turn, and finds the exact condition under which a ready agent has a
well formed conversation.
-/

namespace YunXi
namespace AgentSpine

open Fallible
open Protocol

variable {σ : Type}

/-- The message starts a new section of the conversation. -/
def startsSection (message : ChatMessage) : Bool :=
  message.role == .user || message.role == .assistant

variable (messages : List ChatMessage)

/-- The call ids the tool results before the next user or assistant message name. -/
def answersBefore : List (Option ToolCallId) :=
  ((messages.takeWhile fun message => !startsSection message).filter fun message =>
    message.role == .tool).map ChatMessage.toolCallId

/-- The call ids of an assistant message. -/
def requestedCalls (message : ChatMessage) : List ToolCallId :=
  if message.role = .assistant then message.toolCalls.map ToolCall.id else []

/-- Every tool call is answered once, in order, before the next user or assistant
message, and every tool result answers such a call. -/
structure WellFormed : Prop where
  noneFirst : answersBefore messages = []
  answered : ∀ earlier message later, messages = earlier ++ message :: later →
    startsSection message = true →
    answersBefore later = (requestedCalls message).map some

/-- The calls still open after some messages, given those open before them; `none`
once a message comes out of order. -/
def openAfter : List ToolCallId → List ChatMessage → Option (List ToolCallId)
  | expected, [] => some expected
  | expected, message :: messages =>
      if startsSection message then
        if expected = [] then openAfter (requestedCalls message) messages else none
      else if message.role = .tool then
        match expected with
        | [] => none
        | call :: rest =>
            if message.toolCallId = some call then openAfter rest messages else none
      else openAfter expected messages

variable {message : ChatMessage}

variable (expected : List ToolCallId)

theorem openAfter_section
    (messages : List ChatMessage) (starts : startsSection message = true) :
    openAfter expected (message :: messages) =
      if expected = [] then openAfter (requestedCalls message) messages else none := by
  rw [openAfter.eq_def]
  simp only [starts, if_true]

theorem openAfter_tool_nil (tool : message.role = .tool) :
    openAfter [] (message :: messages) = none := by
  rw [openAfter.eq_def]
  simp [startsSection, tool]

theorem openAfter_tool_cons (call : ToolCallId)
    (rest : List ToolCallId) (messages : List ChatMessage) (tool : message.role = .tool) :
    openAfter (call :: rest) (message :: messages) =
      if message.toolCallId = some call then openAfter rest messages else none := by
  rw [openAfter.eq_def]
  simp [startsSection, tool]

theorem openAfter_other
    (messages : List ChatMessage) (continues : ¬ startsSection message = true)
    (other : message.role ≠ .tool) :
    openAfter expected (message :: messages) = openAfter expected messages := by
  rw [openAfter.eq_def]
  simp only [continues, other, if_false]
  rfl

theorem openAfter_append (first second : List ChatMessage) :
    openAfter expected (first ++ second) =
      (openAfter expected first).bind fun rest => openAfter rest second := by
  induction first generalizing expected with
  | nil => rfl
  | cons message messages ih =>
      rw [List.cons_append]
      by_cases starts : startsSection message = true
      · rw [openAfter_section _ _ starts, openAfter_section _ _ starts]
        split
        · exact ih _
        · rfl
      · by_cases tool : message.role = .tool
        · cases expected with
          | nil => rw [openAfter_tool_nil _ tool, openAfter_tool_nil _ tool]; rfl
          | cons call rest =>
              rw [openAfter_tool_cons _ _ _ tool, openAfter_tool_cons _ _ _ tool]
              split
              · exact ih _
              · rfl
        · rw [openAfter_other _ _ starts tool, openAfter_other _ _ starts tool]
          exact ih _

theorem answersBefore_cons_section (starts : startsSection message = true) :
    answersBefore (message :: messages) = [] := by
  simp [answersBefore, starts]

theorem answersBefore_cons_tool (tool : message.role = .tool) :
    answersBefore (message :: messages) = message.toolCallId :: answersBefore messages := by
  simp [answersBefore, startsSection, tool]

theorem answersBefore_cons_other
    (continues : ¬ startsSection message = true) (other : message.role ≠ .tool) :
    answersBefore (message :: messages) = answersBefore messages := by
  simp [answersBefore, continues, other]

/-- Every section of the conversation answers the calls it starts with. -/
def SectionsAnswered : Prop :=
  ∀ earlier message later, messages = earlier ++ message :: later →
    startsSection message = true →
    answersBefore later = (requestedCalls message).map some

theorem sectionsAnswered_cons {messages : List ChatMessage} :
    SectionsAnswered (message :: messages) ↔
      (startsSection message = true →
        answersBefore messages = (requestedCalls message).map some) ∧
      SectionsAnswered messages := by
  constructor
  · intro answered
    refine ⟨answered [] message messages rfl, ?_⟩
    intro earlier current later split
    exact answered (message :: earlier) current later (by rw [split]; rfl)
  · rintro ⟨first, answered⟩ earlier current later split
    cases earlier with
    | nil =>
        simp only [List.nil_append, List.cons.injEq] at split
        rw [← split.1, ← split.2]
        exact first
    | cons head earlier =>
        simp only [List.cons_append, List.cons.injEq] at split
        exact answered earlier current later split.2

/-- Following the open calls decides whether everything is answered. -/
theorem openAfter_eq_nil_iff (messages : List ChatMessage) :
    openAfter expected messages = some [] ↔
      answersBefore messages = expected.map some ∧ SectionsAnswered messages := by
  induction messages generalizing expected with
  | nil =>
      have nothing : SectionsAnswered [] := fun earlier _ _ split => by
        cases earlier <;> cases split
      cases expected <;> simp [openAfter, answersBefore, nothing]
  | cons message messages ih =>
      rw [sectionsAnswered_cons]
      by_cases starts : startsSection message = true
      · rw [openAfter_section _ _ starts, answersBefore_cons_section messages starts]
        cases expected with
        | nil => simp [ih, starts]
        | cons call rest => simp
      · by_cases tool : message.role = .tool
        · rw [answersBefore_cons_tool messages tool]
          cases expected with
          | nil => simp [openAfter_tool_nil _ tool]
          | cons call rest =>
              rw [openAfter_tool_cons _ _ _ tool, List.map_cons, List.cons.injEq]
              by_cases same : message.toolCallId = some call
              · rw [if_pos same, ih]
                simp [starts, same]
              · rw [if_neg same]
                simp [same]
        · rw [openAfter_other _ _ starts tool, ih,
            answersBefore_cons_other messages starts tool]
          simp [starts]

/-- A conversation is well formed exactly when no call is open at its end and none of
its messages comes out of order. -/
theorem wellFormed_iff : WellFormed messages ↔ openAfter [] messages = some [] := by
  rw [openAfter_eq_nil_iff]
  exact ⟨fun formed => ⟨formed.noneFirst, formed.answered⟩,
    fun answered => ⟨answered.1, answered.2⟩⟩

/-- The calls open at the end of the conversation of a log. -/
def SessionLog.openCalls (log : SessionLog) : Option (List ToolCallId) :=
  openAfter [] log.conversation

@[simp] theorem SessionLog.openCalls_extend (log : SessionLog) (event : SessionEvent) :
    (log.extend event).openCalls =
      log.openCalls.bind fun expected => openAfter expected event.messages := by
  unfold SessionLog.openCalls SessionLog.conversation
  rw [SessionLog.events_extend, List.flatMap_append, ← List.append_assoc, openAfter_append]
  simp [SessionLog.extend]

/-- An event that contributes no message leaves the open calls as they are. -/
theorem SessionLog.openCalls_extend_silent {log : SessionLog} {event : SessionEvent}
    (silent : event.messages = []) :
    (log.extend event).openCalls = log.openCalls := by
  rw [openCalls_extend, silent]
  cases log.openCalls <;> rfl

theorem openAfter_turnStarted {userMessage : ChatMessage} (turnId : String)
    (fromUser : userMessage.role = .user) :
    openAfter [] (SessionEvent.turnStarted turnId userMessage).messages = some [] := by
  simp [SessionEvent.messages, openAfter, startsSection, requestedCalls, fromUser]

theorem openAfter_modelResponded (turnId : String) (round : Nat) (response : ChatResult) :
    openAfter [] (SessionEvent.modelResponded turnId round response).messages =
      some (response.toolCalls.map ToolCall.id) := by
  cases calls : response.toolCalls with
  | nil =>
      simp [SessionEvent.messages, calls, openAfter, startsSection, requestedCalls,
        ChatMessage.assistant, ChatMessage.new]
  | cons call calls =>
      simp [SessionEvent.messages, calls, openAfter, startsSection, requestedCalls,
        ChatMessage.assistantToolCalls]

theorem openAfter_toolResultRecorded (turnId : String) (result : ToolResult)
    (rest : List ToolCallId) :
    openAfter (result.callId :: rest)
      (SessionEvent.toolResultRecorded turnId result).messages = some rest := by
  rw [SessionEvent.messages, openAfter_tool_cons _ _ _ rfl]
  simp [ChatMessage.toolResult, openAfter]

theorem terminalEvent_messages (turnId : String) (error : AgentError) :
    (terminalEvent turnId error).messages = [] := by
  unfold terminalEvent
  cases error.cancellationReason <;> rfl

section Settling

variable (components : Components σ) (budget : TurnBudget) (turnId : String)

/-- The log accepts the result of a call, after the approval it was run under. -/
def OutcomeLogged (round : Nat) (call : ToolCall) (log : SessionLog)
    (approval : Option ToolApprovalDecision) (outcome : ToolResultOutcome) : Prop :=
  ∃ result, ToolResult.new round call.id call.name outcome = .ok result ∧
    match approval with
    | none => log.Accepts (.toolResultRecorded turnId result)
    | some decision =>
        log.Accepts (.toolApprovalResolved turnId decision) ∧
          (log.extend (.toolApprovalResolved turnId decision)).Accepts
            (.toolResultRecorded turnId result)

/-- The log accepts what the broker answered to a call. -/
def AnswerLogged (round : Nat) (call : ToolCall) (log : SessionLog)
    (approval : Option ToolApprovalDecision) :
    Except ComponentError ToolExecutionOutcome → Prop
  | .ok (.awaitingApproval request) => log.Accepts (.toolApprovalRequested turnId request)
  | .ok (.executed outcome) => OutcomeLogged turnId round call log approval outcome
  | .error error =>
      ∃ outcome, ToolResultOutcome.newFailed error.code error.message error.retryable =
          .ok outcome ∧
        OutcomeLogged turnId round call log approval outcome

/-- The call is admitted and its answer is logged. -/
def CallSettles (batch : ToolCallBatch) (approval : Option ToolApprovalDecision)
    (cancellation : SharedToken σ) (mode : ExecutionMode) (call : ToolCall)
    (live : Live σ) : Prop :=
  live.Admits budget cancellation ∧
    AnswerLogged turnId batch.round call live.session approval
      ((executeTool components mode ⟨turnId, batch.round, call⟩ approval
        cancellation).exec (cancellation live.components).2).1

/-- Every call the batch comes to is admitted and logged. -/
def CallsSettle (batch : ToolCallBatch) (startCall : Nat)
    (approval : Option ToolApprovalDecision) (cancellation : SharedToken σ)
    (mode : ExecutionMode) : List (ToolCall × Nat) → Live σ → Prop
  | [], _ => True
  | (call, index) :: entries, live =>
      CallSettles components budget turnId batch (approval.filter fun _ => index == startCall)
          cancellation mode call live ∧
        ∀ next, (processCall components budget turnId batch
            (approval.filter fun _ => index == startCall) cancellation mode call
            index).exec live = (.ok none, next) →
          CallsSettle batch startCall approval cancellation mode entries next

/-- A response with calls that is logged has its batch logged as well. -/
def RequestLogged (round : Nat) (response : ChatResult) (log : SessionLog) : Prop :=
  ∀ batch, responseBatch budget round response = .ok (some batch) →
    log.Accepts (.modelResponded turnId round response) →
    (log.extend (.modelResponded turnId round response)).Accepts
      (.toolCallsRequested turnId batch)

/-- Every batch the rounds come to is logged and settles. -/
def RoundsSettle (userMessage : ChatMessage) (cancellation : SharedToken σ)
    (mode : ExecutionMode) (approval : Option ToolApprovalDecision) :
    Nat → Nat → Live σ → Prop
  | 0, _, _ => True
  | remaining + 1, round, live =>
      match (askModel components budget turnId userMessage cancellation round).exec live with
      | (.error _, _) => True
      | (.ok response, answered) =>
          RequestLogged budget turnId round response answered.session ∧
          match (acceptResponse budget turnId round response).exec answered with
          | (.error _, _) | (.ok none, _) => True
          | (.ok (some batch), accepted) =>
              CallsSettle components budget turnId batch 0 approval cancellation mode
                batch.calls.zipIdx accepted ∧
              match (processToolBatch components budget turnId batch 0 approval cancellation
                mode).exec accepted, nextRound budget round with
              | (.ok none, processed), .ok next =>
                  RoundsSettle userMessage cancellation mode approval remaining next
                    processed
              | _, _ => True

/-- If a new turn is logged, its rounds settle. -/
def TurnSettles (userMessage : ChatMessage) (cancellation : SharedToken σ)
    (mode : ExecutionMode) (live : Live σ) : Prop :=
  live.session.Accepts (.turnStarted turnId userMessage) →
    RoundsSettle components budget turnId userMessage cancellation mode none
      (budget.maxRounds + 1 - 1) 1
      { live with session := live.session.extend (.turnStarted turnId userMessage) }

/-- The rest of a suspended batch settles, and so do the rounds after it. -/
def ResumeSettles (userMessage : ChatMessage) (batch : ToolCallBatch) (nextCall : Nat)
    (decision : ToolApprovalDecision) (cancellation : SharedToken σ) (live : Live σ) :
    Prop :=
  CallsSettle components budget turnId batch nextCall (some decision) cancellation
      .approvalAware (batch.calls.zipIdx.drop nextCall) live ∧
    match (processToolBatch components budget turnId batch nextCall (some decision)
      cancellation .approvalAware).exec live, nextRound budget batch.round with
    | (.ok none, processed), .ok next =>
        RoundsSettle components budget turnId userMessage cancellation .approvalAware none
          (budget.maxRounds + 1 - next) next processed
    | _, _ => True

end Settling

/-- No operation stops a turn between a logged batch and the results of its calls. -/
def Agent.BatchesSettle (components : Components σ) (agent : Agent σ) : AgentOp σ → Prop
  | .runTurn userMessage cancellation =>
      ∀ program live,
        agent.turnOf components (.runTurn userMessage cancellation) = some (program, live) →
        TurnSettles components agent.config.budget (turnName agent.nextTurnId) userMessage
          cancellation .legacy live
  | .runTurnWithApproval userMessage cancellation =>
      ∀ program live,
        agent.turnOf components (.runTurnWithApproval userMessage cancellation) =
          some (program, live) →
        TurnSettles components agent.config.budget (turnName agent.nextTurnId) userMessage
          cancellation .approvalAware live
  | .approvePendingTool decision cancellation =>
      ∀ pending program live, agent.pendingTurn = some pending →
        agent.turnOf components (.approvePendingTool decision cancellation) =
          some (program, live) →
        ResumeSettles components agent.config.budget pending.tracker.snapshot.id
          pending.userMessage pending.batch pending.nextCall decision cancellation live
  | .cancelPendingTurn reason =>
      ∀ pending, agent.state = .awaitingApproval → agent.pendingTurn = some pending →
        ¬ agent.session.Accepts (.turnCancelled pending.tracker.snapshot.id reason)
  | .resetConversation _ => True

section Following

variable {components : Components σ} {budget : TurnBudget} {turnId : String}

variable {round : Nat} {outcome : ToolResultOutcome}

theorem callId_of_new {callId : ToolCallId} {toolName : ToolName}
    {result : ToolResult}
    (built : ToolResult.new round callId toolName outcome = .ok result) :
    result.callId = callId := by
  obtain ⟨passes, rfl⟩ := build_eq_ok built
  rfl

/-- Logging a result closes its call, or the turn stops with the call open. -/
theorem recordResult_fate {call : ToolCall}
    {rest : List ToolCallId} (live : Live σ)
    (opened : live.session.openCalls = some (call.id :: rest)) :
    (do
      let result ← TurnProgram.protocolCheck "invalid_tool_result"
        (ToolResult.new round call.id call.name outcome)
      TurnProgram.record (.toolResultRecorded turnId result) : TurnProgram σ Unit).wp
      (fun result after =>
        (OutcomeLogged turnId round call live.session none outcome ∧ result = .ok () ∧
          after.session.openCalls = some rest) ∨
        (¬ OutcomeLogged turnId round call live.session none outcome ∧
          (∃ error, result = .error error) ∧
          after.session.openCalls = some (call.id :: rest))) live := by
  rw [wp_bind]
  refine TurnProgram.wp_protocolCheck ?_ ?_
  · intro result built
    have closes : (live.session.extend (.toolResultRecorded turnId result)).openCalls =
        some rest := by
      have answers := openAfter_toolResultRecorded turnId result rest
      rw [callId_of_new built] at answers
      rw [SessionLog.openCalls_extend, opened]
      exact answers
    rw [andThen_ok]
    refine TurnProgram.wp_record ?_ ?_
    · exact fun accepts => .inl ⟨⟨result, built, accepts⟩, rfl, closes⟩
    · refine fun error refused => .inr ⟨?_, ⟨_, rfl⟩, opened⟩
      rintro ⟨other, alsoBuilt, accepts⟩
      rw [built] at alsoBuilt
      cases alsoBuilt
      exact refused accepts
  · refine fun error refused => .inr ⟨?_, ⟨_, rfl⟩, opened⟩
    rintro ⟨other, built, -⟩
    rw [refused] at built
    cases built

theorem settleCall_fate {call : ToolCall}
    {approval : Option ToolApprovalDecision}
    {rest : List ToolCallId} (live : Live σ)
    (opened : live.session.openCalls = some (call.id :: rest)) :
    (settleCall turnId round call approval outcome).wp
      (fun result after =>
        (OutcomeLogged turnId round call live.session approval outcome ∧ result = .ok () ∧
          after.session.openCalls = some rest) ∨
        (¬ OutcomeLogged turnId round call live.session approval outcome ∧
          (∃ error, result = .error error) ∧
          after.session.openCalls = some (call.id :: rest))) live := by
  unfold settleCall
  cases approval with
  | none => exact recordResult_fate live opened
  | some decision =>
      rw [wp_bind]
      refine TurnProgram.wp_record ?_ ?_
      · intro accepts
        have stillOpen : (live.session.extend
            (.toolApprovalResolved turnId decision)).openCalls = some (call.id :: rest) := by
          rw [SessionLog.openCalls_extend_silent rfl, opened]
        rw [andThen_ok]
        refine wp_mono (recordResult_fate _ stillOpen) ?_
        rintro result after (⟨⟨logged, built, logs⟩, fate⟩ | ⟨refused, fate⟩)
        · exact .inl ⟨⟨logged, built, accepts, logs⟩, fate⟩
        · refine .inr ⟨?_, fate⟩
          rintro ⟨logged, built, -, logs⟩
          exact refused ⟨logged, built, logs⟩
      · refine fun error refused => .inr ⟨?_, ⟨_, rfl⟩, opened⟩
        rintro ⟨logged, built, accepts, -⟩
        exact refused accepts

/-- What becomes of one open call. -/
inductive CallFate (settles : Prop) (batch : ToolCallBatch) (call : ToolCall)
    (index : Nat) (rest : List ToolCallId) :
    Except AgentError (Option PendingTool) → Live σ → Prop
  | closed {after : Live σ} (logged : settles)
      (open_ : after.session.openCalls = some rest) :
      CallFate settles batch call index rest (.ok none) after
  | suspended {after : Live σ} (request : ToolApprovalRequest) (logged : settles)
      (open_ : after.session.openCalls = some (call.id :: rest)) :
      CallFate settles batch call index rest (.ok (some ⟨request, batch, index⟩)) after
  | stopped {after : Live σ} (error : AgentError) (unlogged : ¬ settles)
      (open_ : after.session.openCalls = some (call.id :: rest)) :
      CallFate settles batch call index rest (.error error) after

variable {batch : ToolCallBatch}

theorem finishCall_fate {call : ToolCall} {index : Nat}
    {approval : Option ToolApprovalDecision} {rest : List ToolCallId} (live : Live σ)
    (opened : live.session.openCalls = some (call.id :: rest))
    (answer : Except ComponentError ToolExecutionOutcome) :
    (finishCall turnId batch approval call index answer).wp
      (CallFate (AnswerLogged turnId batch.round call live.session approval answer) batch
        call index rest) live := by
  match answer with
  | .ok (.awaitingApproval request) =>
      unfold finishCall
      rw [wp_bind]
      refine TurnProgram.wp_record ?_ ?_
      · intro accepts
        refine .suspended request accepts ?_
        exact (SessionLog.openCalls_extend_silent rfl).trans opened
      · exact fun error refused => .stopped _ refused opened
  | .ok (.executed outcome) =>
      refine wp_bind_of (settleCall_fate live opened) ?_ ?_
      · rintro _ after (⟨logged, -, closes⟩ | ⟨-, ⟨error, stops⟩, -⟩)
        · exact .closed logged closes
        · cases stops
      · rintro error after (⟨-, ends, -⟩ | ⟨unlogged, -, stillOpen⟩)
        · cases ends
        · exact .stopped error unlogged stillOpen
  | .error error =>
      unfold finishCall
      rw [wp_bind]
      refine TurnProgram.wp_protocolCheck ?_ ?_
      · intro outcome built
        rw [andThen_ok]
        refine wp_bind_of (settleCall_fate live opened) ?_ ?_
        · rintro _ after (⟨logged, -, closes⟩ | ⟨-, ⟨error, stops⟩, -⟩)
          · exact .closed ⟨outcome, built, logged⟩ closes
          · cases stops
        · rintro stop after (⟨-, ends, -⟩ | ⟨unlogged, -, stillOpen⟩)
          · cases ends
          · refine .stopped stop ?_ stillOpen
            rintro ⟨other, alsoBuilt, logged⟩
            rw [built] at alsoBuilt
            cases alsoBuilt
            exact unlogged logged
      · intro refusal refused
        refine .stopped _ ?_ opened
        rintro ⟨other, built, -⟩
        rw [refused] at built
        cases built

theorem processCall_fate {call : ToolCall} {index : Nat}
    {approval : Option ToolApprovalDecision} {rest : List ToolCallId} (live : Live σ)
    (cancellation : SharedToken σ) (mode : ExecutionMode)
    (opened : live.session.openCalls = some (call.id :: rest)) :
    (processCall components budget turnId batch approval cancellation mode call index).wp
      (CallFate (CallSettles components budget turnId batch approval cancellation mode call
        live) batch call index rest) live := by
  unfold processCall
  rw [wp_bind]
  refine wp_admitCall ?_ ?_
  · intro admits
    rw [andThen_ok, wp_bind, TurnProgram.wp_tryComponent]
    unfold wp
    dsimp only
    rw [andThen_ok]
    refine wp_mono (finishCall_fate
      { live.counted (cancellation live.components).2 with components := _ } opened _) ?_
    intro result after fate
    cases fate with
    | closed logged closes => exact .closed ⟨admits, logged⟩ closes
    | suspended request logged stillOpen =>
        exact .suspended request ⟨admits, logged⟩ stillOpen
    | stopped error unlogged stillOpen =>
        exact .stopped error (fun settles => unlogged settles.2) stillOpen
  · exact fun error refused => .stopped error (fun settles => refused settles.1) opened

/-- The calls of a batch from an index on. -/
def openFrom (batch : ToolCallBatch) (index : Nat) : List ToolCallId :=
  (batch.calls.drop index).map ToolCall.id

theorem openFrom_eq (batch : ToolCallBatch) (index : Nat) :
    openFrom batch index =
      (batch.calls.zipIdx.drop index).map fun entry => entry.1.id := by
  unfold openFrom
  rw [List.map_drop, List.map_drop]
  congr 1
  calc batch.calls.map ToolCall.id
      = (batch.calls.zipIdx.map Prod.fst).map ToolCall.id := by rw [List.zipIdx_map_fst]
    _ = batch.calls.zipIdx.map fun entry => entry.1.id := by rw [List.map_map]; rfl

/-- The entries of a batch carry their own index. -/
theorem zipIdx_drop_cons {calls : List ToolCall} {index : Nat}
    {entry : ToolCall × Nat} {entries : List (ToolCall × Nat)}
    (suffix : calls.zipIdx.drop index = entry :: entries) :
    entry.2 = index ∧ calls.zipIdx.drop (index + 1) = entries := by
  constructor
  · have found : (calls.zipIdx.drop index)[0]? = some entry := by rw [suffix]; rfl
    rw [List.getElem?_drop, List.getElem?_zipIdx] at found
    obtain ⟨call, -, rfl⟩ := Option.map_eq_some_iff.mp found
    simp
  · rw [← List.tail_drop, suffix]
    rfl

/-- What becomes of the open calls of a batch. -/
inductive BatchFate (settles : Prop) (batch : ToolCallBatch) :
    Except AgentError (Option PendingTool) → Live σ → Prop
  | closed {after : Live σ} (logged : settles)
      (open_ : after.session.openCalls = some []) :
      BatchFate settles batch (.ok none) after
  | suspended {after : Live σ} {pending : PendingTool} (logged : settles)
      (ofBatch : pending.batch = batch)
      (open_ : after.session.openCalls = some (openFrom batch pending.nextCall))
      (waiting : openFrom batch pending.nextCall ≠ []) :
      BatchFate settles batch (.ok (some pending)) after
  | stopped {after : Live σ} {error : AgentError} {call : ToolCallId}
      {rest : List ToolCallId} (unlogged : ¬ settles)
      (open_ : after.session.openCalls = some (call :: rest)) :
      BatchFate settles batch (.error error) after

/-- The same fate under an equivalent condition. -/
theorem BatchFate.congr {first second : Prop}
    {result : Except AgentError (Option PendingTool)} {after : Live σ}
    (fate : BatchFate first batch result after) (equivalent : first ↔ second) :
    BatchFate second batch result after := by
  rwa [propext equivalent] at fate

theorem processCalls_fate {startCall index : Nat}
    {approval : Option ToolApprovalDecision} {entries : List (ToolCall × Nat)}
    (cancellation : SharedToken σ) (mode : ExecutionMode) (live : Live σ)
    (suffix : batch.calls.zipIdx.drop index = entries)
    (opened : live.session.openCalls = some (entries.map fun entry => entry.1.id)) :
    (processCalls components budget turnId batch startCall approval cancellation mode
      entries).wp
      (BatchFate (CallsSettle components budget turnId batch startCall approval
        cancellation mode entries live) batch) live := by
  induction entries generalizing index live with
  | nil => exact .closed trivial opened
  | cons entry entries ih =>
      obtain ⟨sameIndex, rest⟩ := zipIdx_drop_cons suffix
      have ids : entry.1.id :: entries.map (fun entry => entry.1.id) =
          openFrom batch entry.2 := by
        rw [openFrom_eq, sameIndex, suffix]
        rfl
      have fate := @processCall_fate σ components budget turnId batch entry.1 entry.2
        (approval.filter fun _ => entry.2 == startCall) _ live cancellation mode opened
      unfold wp at fate
      unfold processCalls wp CallsSettle
      rw [exec_bind]
      generalize ran : (processCall components budget turnId batch
        (approval.filter fun _ => entry.2 == startCall) cancellation mode entry.1
        entry.2).exec live = first at fate ⊢
      obtain ⟨result, middle⟩ := first
      cases fate with
      | closed logged closes =>
          refine (ih middle rest closes).congr ?_
          constructor
          · intro settle
            refine ⟨logged, fun next same => ?_⟩
            cases same
            exact settle
          · exact fun settle => settle.2 middle rfl
      | suspended request logged stillOpen =>
          refine .suspended ⟨logged, fun next same => by cases same⟩ rfl ?_ ?_
          · exact stillOpen.trans (congrArg some ids)
          · rw [← ids]
            simp
      | stopped error unlogged stillOpen =>
          exact .stopped (fun settle => unlogged settle.1) stillOpen

/-- A response that asks for calls gives a batch of exactly these calls. -/
theorem calls_of_responseBatch {response : ChatResult}
    (asks : responseBatch budget round response = .ok (some batch)) :
    batch.calls = response.toolCalls ∧ response.toolCalls ≠ [] := by
  unfold responseBatch at asks
  split at asks
  · cases asks
  · next nonempty =>
      cases built : ToolCallBatch.new round response.toolCalls with
      | error error =>
          rw [built] at asks
          cases asks
      | ok other =>
          rw [built] at asks
          cases policy : other.validateWithPolicy budget.policy with
          | error error =>
              simp only [bind, Except.bind, policy] at asks
              cases asks
          | ok passed =>
              simp only [bind, Except.bind, policy] at asks
              cases asks
              obtain ⟨passes, rfl⟩ := build_eq_ok built
              exact ⟨rfl, fun empty => nonempty (by rw [empty]; rfl)⟩

/-- A response without a batch carries no calls. -/
theorem noCalls_of_responseBatch {response : ChatResult}
    (asks : responseBatch budget round response = .ok none) :
    response.toolCalls = [] := by
  unfold responseBatch at asks
  split at asks
  · next empty => exact List.isEmpty_iff.mp empty
  · cases built : ToolCallBatch.new round response.toolCalls with
    | error error =>
        rw [built] at asks
        cases asks
    | ok other =>
        rw [built] at asks
        cases policy : other.validateWithPolicy budget.policy with
        | error error =>
            simp only [bind, Except.bind, policy] at asks
            cases asks
        | ok passed =>
            simp only [bind, Except.bind, policy] at asks
            cases asks

/-- Asking the model leaves the open calls as they are. -/
theorem roundClosed_openCalls (components : Components σ) (turnId : String)
    (cancellation : SharedToken σ) :
    RoundClosed components turnId cancellation fun before after =>
      after.session.openCalls = before.session.openCalls where
  record event _ _ silent live := by
    change wp _ (fun _ final => final.session.openCalls = _) live
    exact TurnProgram.wp_record (fun _ => SessionLog.openCalls_extend_silent silent)
      (fun _ _ => rfl)
  checkCancellation _ := rfl
  catalog _ := rfl
  assemble _ _ := rfl
  complete _ _ := rfl
  updateTracker _ _ _ _ := rfl

/-- What becomes of a response. -/
inductive ResponseFate (budget : TurnBudget) (turnId : String) (round : Nat)
    (response : ChatResult) (log : SessionLog) :
    Except AgentError (Option ToolCallBatch) → Live σ → Prop
  | answered {after : Live σ} (logged : RequestLogged budget turnId round response log)
      (open_ : after.session.openCalls = some []) :
      ResponseFate budget turnId round response log (.ok none) after
  | asked {after : Live σ} {batch : ToolCallBatch}
      (logged : RequestLogged budget turnId round response log)
      (open_ : after.session.openCalls = some (openFrom batch 0)) :
      ResponseFate budget turnId round response log (.ok (some batch)) after
  | failed {after : Live σ} {error : AgentError}
      (logged : RequestLogged budget turnId round response log)
      (open_ : after.session.openCalls = some []) :
      ResponseFate budget turnId round response log (.error error) after
  | stopped {after : Live σ} {error : AgentError} {call : ToolCallId}
      {rest : List ToolCallId}
      (unlogged : ¬ RequestLogged budget turnId round response log)
      (open_ : after.session.openCalls = some (call :: rest)) :
      ResponseFate budget turnId round response log (.error error) after

theorem acceptResponse_fate (round : Nat) (response : ChatResult) (live : Live σ)
    (closed : live.session.openCalls = some []) :
    (acceptResponse budget turnId round response).wp
      (ResponseFate budget turnId round response live.session) live := by
  have responds : (live.session.extend (.modelResponded turnId round response)).openCalls =
      some (response.toolCalls.map ToolCall.id) := by
    rw [SessionLog.openCalls_extend, closed]
    exact openAfter_modelResponded turnId round response
  unfold acceptResponse
  rw [wp_bind]
  refine TurnProgram.wp_protocolCheck ?_ ?_
  · intro batch asks
    rw [andThen_ok, wp_bind]
    refine TurnProgram.wp_record ?_ ?_
    · intro accepts
      rw [andThen_ok]
      cases batch with
      | none =>
          have silent : RequestLogged budget turnId round response live.session := by
            intro other asksOther
            rw [asks] at asksOther
            cases asksOther
          rw [noCalls_of_responseBatch asks] at responds
          dsimp only
          rw [wp_bind, wp_throwIf]
          refine ⟨fun _ => .failed silent responds, fun _ => ?_⟩
          rw [andThen_ok, wp_bind]
          refine TurnProgram.wp_record ?_ (fun _ _ => .failed silent responds)
          intro completes
          rw [andThen_ok, wp_bind, TurnProgram.wp_updateTracker,
            andThen_ok, wp_pure]
          exact .answered silent ((SessionLog.openCalls_extend_silent rfl).trans responds)
      | some batch =>
          obtain ⟨calls, nonempty⟩ := calls_of_responseBatch asks
          rw [← calls] at responds nonempty
          dsimp only
          rw [wp_bind]
          refine TurnProgram.wp_record ?_ ?_
          · intro requests
            rw [andThen_ok, wp_pure]
            refine .asked ?_ ((SessionLog.openCalls_extend_silent rfl).trans responds)
            intro other asksOther _
            rw [asks] at asksOther
            cases asksOther
            exact requests
          · intro error refused
            cases split : batch.calls with
            | nil => exact absurd split nonempty
            | cons call rest =>
                rw [split] at responds
                exact .stopped (fun logged => refused (logged batch asks accepts)) responds
    · refine fun error refused => .failed ?_ closed
      exact fun _ _ accepts => absurd accepts refused
  · intro error refused
    refine .failed ?_ closed
    intro batch asks
    rw [refused] at asks
    cases asks

/-- What becomes of the open calls of a turn. -/
inductive TurnFate (settles : Prop) :
    Except AgentError InnerTurnOutcome → Live σ → Prop
  | completed {after : Live σ} {response : ChatResult} (logged : settles)
      (open_ : after.session.openCalls = some []) :
      TurnFate settles (.ok (.completed response)) after
  | suspended {after : Live σ} {pending : PendingTool} (logged : settles)
      (open_ : after.session.openCalls = some (openFrom pending.batch pending.nextCall))
      (waiting : openFrom pending.batch pending.nextCall ≠ []) :
      TurnFate settles (.ok (.awaitingApproval pending)) after
  | failed {after : Live σ} {error : AgentError} (logged : settles)
      (open_ : after.session.openCalls = some []) :
      TurnFate settles (.error error) after
  | stopped {after : Live σ} {error : AgentError} {call : ToolCallId}
      {rest : List ToolCallId} (unlogged : ¬ settles)
      (open_ : after.session.openCalls = some (call :: rest)) :
      TurnFate settles (.error error) after

/-- The same fate under an equivalent condition. -/
theorem TurnFate.congr {first second : Prop} {after : Live σ}
    {result : Except AgentError InnerTurnOutcome}
    (fate : TurnFate first result after) (equivalent : first ↔ second) :
    TurnFate second result after := by
  rwa [propext equivalent] at fate

theorem turnLoop_fate (userMessage : ChatMessage) (cancellation : SharedToken σ)
    (mode : ExecutionMode) (approval : Option ToolApprovalDecision)
    (remaining round : Nat) (live : Live σ) (closed : live.session.openCalls = some []) :
    (turnLoop components budget turnId userMessage cancellation mode approval remaining
      round).wp
      (TurnFate (RoundsSettle components budget turnId userMessage cancellation mode
        approval remaining round live)) live := by
  induction remaining generalizing round live with
  | zero =>
      unfold turnLoop
      rw [wp_bind]
      refine TurnProgram.wp_checkCancellation ?_ ?_
      · exact fun state => .failed trivial closed
      · exact fun error state => .failed trivial closed
  | succ remaining ih =>
      have asks := (roundClosed_openCalls components turnId cancellation).askModel budget
        userMessage round live
      unfold turnLoop wp RoundsSettle
      rw [exec_bind]
      generalize (askModel components budget turnId userMessage cancellation round).exec
        live = asked at asks ⊢
      match asked with
      | (.error error, answered) =>
          exact .failed trivial (asks.trans closed)
      | (.ok response, answered) =>
          dsimp only at asks ⊢
          have fate := @acceptResponse_fate σ budget turnId round response answered
            (asks.trans closed)
          unfold wp at fate
          rw [exec_bind]
          generalize (acceptResponse budget turnId round response).exec answered = accepts
            at fate ⊢
          obtain ⟨result, accepted⟩ := accepts
          cases fate with
          | answered logged open_ => exact .completed ⟨logged, trivial⟩ open_
          | failed logged open_ => exact .failed ⟨logged, trivial⟩ open_
          | stopped unlogged open_ => exact .stopped (fun settles => unlogged settles.1) open_
          | @asked _ batch logged open_ =>
              dsimp only at open_ ⊢
              rw [openFrom_eq, List.drop_zero] at open_
              have batchFate := @processCalls_fate σ components budget turnId batch 0 0
                approval _ cancellation mode accepted List.drop_zero open_
              unfold wp at batchFate
              unfold processToolBatch
              rw [List.drop_zero, exec_bind]
              generalize (processCalls components budget turnId batch 0 approval
                cancellation mode batch.calls.zipIdx).exec accepted = processes
                at batchFate ⊢
              obtain ⟨result, processed⟩ := processes
              cases batchFate with
              | stopped unlogged open_ =>
                  exact .stopped (fun settles => unlogged settles.2.1) open_
              | suspended settled ofBatch open_ waiting =>
                  subst ofBatch
                  exact .suspended ⟨logged, settled, trivial⟩ open_ waiting
              | closed settled open_ =>
                  dsimp only
                  rw [exec_bind, exec_ofExcept]
                  cases next : nextRound budget round with
                  | error error => exact .failed ⟨logged, settled, trivial⟩ open_
                  | ok round =>
                      refine (ih round processed open_).congr ?_
                      exact ⟨fun settles => ⟨logged, settled, settles⟩,
                        fun settles => settles.2.2⟩

end Following

variable (agent : Agent σ)

section Operations

variable {components : Components σ} {budget : TurnBudget} {turnId : String}

theorem runTurnInner_fate (userMessage : ChatMessage) (cancellation : SharedToken σ)
    (mode : ExecutionMode) (live : Live σ) (fromUser : userMessage.role = .user)
    (closed : live.session.openCalls = some []) :
    (runTurnInner components budget turnId userMessage cancellation 1 true mode none).wp
      (TurnFate (TurnSettles components budget turnId userMessage cancellation mode live))
      live := by
  unfold runTurnInner
  rw [if_pos rfl, wp_bind]
  refine TurnProgram.wp_record ?_ ?_
  · intro accepts
    have starts : (live.session.extend (.turnStarted turnId userMessage)).openCalls =
        some [] := by
      rw [SessionLog.openCalls_extend, closed]
      exact openAfter_turnStarted turnId fromUser
    rw [andThen_ok]
    refine wp_mono (turnLoop_fate userMessage cancellation mode none _ 1 _ starts) ?_
    exact fun _ _ fate => fate.congr ⟨fun settles _ => settles, fun settles => settles accepts⟩
  · exact fun error refused => .failed (fun accepts => absurd accepts refused) closed

theorem continuePendingTurn_fate (userMessage : ChatMessage) (batch : ToolCallBatch)
    (nextCall : Nat) (decision : ToolApprovalDecision) (cancellation : SharedToken σ)
    (live : Live σ) (opened : live.session.openCalls = some (openFrom batch nextCall)) :
    (continuePendingTurn components budget turnId userMessage batch nextCall decision
      cancellation).wp
      (TurnFate (ResumeSettles components budget turnId userMessage batch nextCall decision
        cancellation live)) live := by
  rw [openFrom_eq] at opened
  have batchFate := @processCalls_fate σ components budget turnId batch nextCall nextCall
    (some decision) _ cancellation .approvalAware live rfl opened
  unfold wp at batchFate
  unfold continuePendingTurn processToolBatch wp ResumeSettles processToolBatch
  rw [exec_bind]
  generalize (processCalls components budget turnId batch nextCall (some decision)
    cancellation .approvalAware (batch.calls.zipIdx.drop nextCall)).exec live = processes
    at batchFate ⊢
  obtain ⟨result, processed⟩ := processes
  cases batchFate with
  | stopped unlogged open_ => exact .stopped (fun settles => unlogged settles.1) open_
  | suspended settled ofBatch open_ waiting =>
      subst ofBatch
      exact .suspended ⟨settled, trivial⟩ open_ waiting
  | closed settled open_ =>
      dsimp only
      rw [exec_bind, exec_ofExcept]
      cases next : nextRound budget batch.round with
      | error error => exact .failed ⟨settled, trivial⟩ open_
      | ok round =>
          unfold runTurnInner
          dsimp only
          rw [exec_bind, if_neg Bool.false_ne_true]
          refine (wp_mono (turnLoop_fate userMessage cancellation .approvalAware none
            _ round processed open_) fun _ _ fate => fate.congr ?_)
          exact ⟨fun settles => ⟨settled, settles⟩, fun settles => settles.2⟩

/-- An ignored record of the end of a turn leaves the open calls as they are. -/
theorem openCalls_appendIgnored (log : SessionLog) (turnId : String) (error : AgentError) :
    (log.appendIgnored (terminalEvent turnId error)).openCalls = log.openCalls := by
  by_cases accepts : log.Accepts (terminalEvent turnId error)
  · rw [SessionLog.appendIgnored_of_accepts accepts]
    exact SessionLog.openCalls_extend_silent (terminalEvent_messages turnId error)
  · rw [SessionLog.appendIgnored_of_refuses accepts]

/-- The open calls of a log that was reset are those of the new messages. -/
theorem SessionLog.openCalls_reset {log replaced : SessionLog} {messages : List ChatMessage}
    (reset : log.resetWithMessages messages = .ok replaced) :
    replaced.openCalls = openAfter [] messages := by
  cases SessionLog.resetWithMessages_eq_ok reset
  simp [SessionLog.openCalls, SessionLog.conversation, SessionLog.events]

/-- A ready agent has no open call, and a suspended one has those of its batch from
the waiting call on. -/
structure Agent.TracksCalls : Prop where
  idle : agent.state ≠ .running
  ready : agent.state = .ready → agent.session.openCalls = some []
  suspended : ∀ pending, agent.state = .awaitingApproval →
    agent.pendingTurn = some pending →
    agent.session.openCalls = some (openFrom pending.batch pending.nextCall) ∧
      openFrom pending.batch pending.nextCall ≠ []

/-- A ready agent that left a call open. -/
def Agent.LeavesOpen : Prop :=
  agent.state = .ready ∧
    ∃ call rest, agent.session.openCalls = some (call :: rest)

theorem Agent.fate_afterTurn {settles : Prop} {outcome : Except AgentError InnerTurnOutcome}
    {live : Live σ} (userMessage : ChatMessage)
    (fate : TurnFate settles outcome live) :
    (settles ∧ (agent.afterTurn userMessage outcome live).TracksCalls) ∨
      (¬ settles ∧ (agent.afterTurn userMessage outcome live).LeavesOpen) := by
  cases fate with
  | completed logged open_ =>
      exact .inl ⟨logged, ⟨by simp [afterTurn], fun _ => open_,
        fun _ awaiting => by cases awaiting⟩⟩
  | suspended logged open_ waiting =>
      refine .inl ⟨logged, ⟨by simp [afterTurn], (fun ready => by cases ready), ?_⟩⟩
      intro pending _ kept
      cases kept
      exact ⟨open_, waiting⟩
  | failed logged open_ =>
      exact .inl ⟨logged, ⟨by simp [afterTurn],
        fun _ => (openCalls_appendIgnored _ _ _).trans open_,
        fun _ awaiting => by cases awaiting⟩⟩
  | stopped unlogged open_ =>
      exact .inr ⟨unlogged, rfl, _, _, (openCalls_appendIgnored _ _ _).trans open_⟩

theorem Agent.fate_afterDirectTurn {settles : Prop}
    {outcome : Except AgentError InnerTurnOutcome} {live : Live σ}
    (ended : ∀ pending, outcome ≠ .ok (.awaitingApproval pending))
    (fate : TurnFate settles outcome live) :
    (settles ∧ (agent.afterDirectTurn outcome live).TracksCalls) ∨
      (¬ settles ∧ (agent.afterDirectTurn outcome live).LeavesOpen) := by
  cases fate with
  | completed logged open_ =>
      exact .inl ⟨logged, ⟨by simp [afterDirectTurn], fun _ => open_,
        fun _ awaiting => by cases awaiting⟩⟩
  | suspended logged open_ waiting => exact absurd rfl (ended _)
  | failed logged open_ =>
      exact .inl ⟨logged, ⟨by simp [afterDirectTurn],
        fun _ => (openCalls_appendIgnored _ _ _).trans open_,
        fun _ awaiting => by cases awaiting⟩⟩
  | stopped unlogged open_ =>
      exact .inr ⟨unlogged, rfl, _, _, (openCalls_appendIgnored _ _ _).trans open_⟩

/-- Conversations are replaced by well formed ones only. -/
def SeedsWellFormed (_ : Agent σ) (op : AgentOp σ) : Prop :=
  ∀ messages, op = .resetConversation messages → WellFormed messages

/-- One operation either keeps track of the open calls or leaves one open, as its
batches settle or not. -/
theorem Agent.fate_perform (components : Components σ) (agent : Agent σ) (op : AgentOp σ)
    (tracks : agent.TracksCalls) (seeds : SeedsWellFormed agent op) :
    (agent.BatchesSettle components op ∧ (agent.perform components op).TracksCalls) ∨
      (¬ agent.BatchesSettle components op ∧
        (agent.perform components op).LeavesOpen) := by
  have step := agent.perform_step components op
  generalize agent.perform components op = final at step
  cases step with
  | refused state consulted noTurn noCancel =>
      refine .inl ⟨?_, ⟨tracks.idle, tracks.ready, tracks.suspended⟩⟩
      cases op with
      | runTurn userMessage cancellation =>
          intro program live turn
          rw [noTurn] at turn
          cases turn
      | runTurnWithApproval userMessage cancellation =>
          intro program live turn
          rw [noTurn] at turn
          cases turn
      | approvePendingTool decision cancellation =>
          intro pending program live _ turn
          rw [noTurn] at turn
          cases turn
      | cancelPendingTurn reason =>
          intro pending awaiting suspended
          rw [noCancel reason rfl awaiting] at suspended
          cases suspended
      | resetConversation messages => trivial
  | @direct userMessage cancellation state consulted outcome live ready fromUser _ turn
      ran =>
      have fate := of_wp (@runTurnInner_fate σ components agent.config.budget
        (turnName agent.nextTurnId) userMessage cancellation .legacy (agent.newLive state)
        fromUser (tracks.ready ready)) ran
      have ended := of_wp (runTurnInner_legacy _ _ _ _ _ _ _ _ _) ran
      obtain ⟨settles, after⟩ | ⟨unsettled, after⟩ :=
        (agent.started state).fate_afterDirectTurn ended fate
      · refine .inl ⟨?_, after⟩
        intro program live same
        rw [turn] at same
        cases same
        exact settles
      · exact .inr ⟨fun settles => unsettled (settles _ _ turn), after⟩
  | @approvalAware userMessage cancellation state consulted outcome live ready fromUser _
      turn ran =>
      have fate := of_wp (@runTurnInner_fate σ components agent.config.budget
        (turnName agent.nextTurnId) userMessage cancellation .approvalAware
        (agent.newLive state) fromUser (tracks.ready ready)) ran
      obtain ⟨settles, after⟩ | ⟨unsettled, after⟩ :=
        (agent.started state).fate_afterTurn userMessage fate
      · refine .inl ⟨?_, after⟩
        intro program live same
        rw [turn] at same
        cases same
        exact settles
      · exact .inr ⟨fun settles => unsettled (settles _ _ turn), after⟩
  | @resumed decision cancellation state consulted pending outcome live awaiting suspended
      _ turn ran =>
      have opened := (tracks.suspended pending awaiting suspended).1
      have fate := of_wp (@continuePendingTurn_fate σ components
        agent.config.budget pending.tracker.snapshot.id pending.userMessage pending.batch
        pending.nextCall decision cancellation ⟨agent.session, pending.tracker, state⟩
        opened) ran
      obtain ⟨settles, after⟩ | ⟨unsettled, after⟩ :=
        (agent.resumed state).fate_afterTurn pending.userMessage fate
      · refine .inl ⟨?_, after⟩
        intro other program live kept same
        rw [suspended] at kept
        rw [turn] at same
        cases kept
        cases same
        exact settles
      · exact .inr ⟨fun settles => unsettled (settles _ _ _ suspended turn), after⟩
  | @cancelled reason pending awaiting suspended accepts =>
      obtain ⟨opened, waiting⟩ := tracks.suspended pending awaiting suspended
      obtain ⟨call, rest, calls⟩ := List.exists_cons_of_ne_nil waiting
      refine .inr ⟨fun settles => settles pending awaiting suspended accepts, rfl, call, rest,
        ?_⟩
      rw [← calls, ← opened]
      exact SessionLog.openCalls_extend_silent rfl
  | @cancelRefused reason pending awaiting suspended refuses =>
      refine .inl ⟨?_, ⟨tracks.idle, tracks.ready, fun _ _ kept => by cases kept⟩⟩
      intro other _ kept
      rw [suspended] at kept
      cases kept
      exact refuses
  | @reset messages session ready replaced =>
      refine .inl ⟨trivial, ⟨tracks.idle, fun _ => ?_, fun _ awaiting => ?_⟩⟩
      · rw [SessionLog.openCalls_reset replaced]
        exact (wellFormed_iff messages).mp (seeds messages rfl)
      · rw [show agent.state = .awaitingApproval from awaiting] at ready
        cases ready

end Operations

/-- Whenever the agent is ready, its conversation is well formed. -/
def Agent.ConversationFormed : Prop :=
  agent.state = .ready → WellFormed agent.conversation

variable {agent : Agent σ}

theorem Agent.TracksCalls.conversationFormed (tracks : agent.TracksCalls) :
    agent.ConversationFormed :=
  fun ready => (wellFormed_iff agent.conversation).mpr (tracks.ready ready)

/-- An open call is not answered. -/
theorem Agent.LeavesOpen.not_conversationFormed (leaves : agent.LeavesOpen) :
    ¬ agent.ConversationFormed := by
  obtain ⟨ready, call, rest, opened⟩ := leaves
  intro formed
  have closed := (wellFormed_iff agent.conversation).mp (formed ready)
  unfold SessionLog.openCalls at opened
  unfold conversation at closed
  rw [opened] at closed
  cases closed

theorem Agent.tracksCalls_new {id : String} {outside : σ} {config : AgentConfig}
    (created : Agent.new id outside config = .ok agent) :
    agent.TracksCalls := by
  cases Agent.new_eq_ok created
  exact ⟨by simp, fun _ => rfl, fun _ awaiting => by cases awaiting⟩

/-- In every run of an agent that is only reset to well formed conversations, the
conversation of the ready agent is well formed after every operation exactly when
no operation stops between a logged batch and the results of its calls. -/
theorem conversationFormed_throughout_iff (components : Components σ) {id : String}
    {outside : σ} {config : AgentConfig}
    (created : Agent.new id outside config = .ok agent) (ops : List (AgentOp σ))
    (seeds : ∀ messages, .resetConversation messages ∈ ops → WellFormed messages) :
    Throughout (Agent.perform components) Agent.ConversationFormed agent ops ↔
      EachStep (Agent.perform components) (Agent.BatchesSettle components) agent ops := by
  refine throughout_iff_eachStep Agent.TracksCalls SeedsWellFormed
    (fun _ tracks => tracks.conversationFormed) ?_ ?_ (Agent.tracksCalls_new created) ?_
  · intro current op tracks formed settles
    obtain ⟨-, after⟩ | ⟨unsettled, -⟩ := current.fate_perform components op tracks formed
    · exact after
    · exact absurd settles unsettled
  · intro current op tracks formed unsettled
    obtain ⟨settles, -⟩ | ⟨-, after⟩ := current.fate_perform components op tracks formed
    · exact absurd settles unsettled
    · exact after.not_conversationFormed
  · refine eachStep_of_forall_mem (fun op member current messages reset => ?_) agent
    subst reset
    exact seeds messages member

/-- The rule applies to a turn that is suspended and then cancelled. -/
theorem conversationFormed_throughout_iff_asking :
    Throughout (Agent.perform askingComponents) Agent.ConversationFormed
        (.fresh [askFor [echoCall]])
        [.runTurnWithApproval (.user "hello") .fresh, .cancelPendingTurn "no"] ↔
      EachStep (Agent.perform askingComponents) (Agent.BatchesSettle askingComponents)
        (.fresh [askFor [echoCall]])
        [.runTurnWithApproval (.user "hello") .fresh, .cancelPendingTurn "no"] :=
  conversationFormed_throughout_iff askingComponents (Agent.new_default _) _ (by simp)

/-- Cancelling a suspended turn leaves its call without a result. -/
theorem cancelled_call_stays_open :
    Agent.new "agent" [askFor [echoCall]] .default = .ok (.fresh [askFor [echoCall]]) ∧
    ¬ Throughout (Agent.perform askingComponents) Agent.ConversationFormed
      (.fresh [askFor [echoCall]])
      [.runTurnWithApproval (.user "hello") .fresh, .cancelPendingTurn "no"] := by
  refine ⟨rfl, ?_⟩
  intro holds
  have final : (finalState (Agent.perform askingComponents) (.fresh [askFor [echoCall]])
        [.runTurnWithApproval (.user "hello") .fresh, .cancelPendingTurn "no"]).state =
        .ready ∧
      openAfter [] (finalState (Agent.perform askingComponents)
        (.fresh [askFor [echoCall]])
        [.runTurnWithApproval (.user "hello") .fresh,
          .cancelPendingTurn "no"]).conversation = some [echoCall.id] := by
    decide +kernel
  have closed := (wellFormed_iff _).mp (holds.last final.1)
  rw [final.2] at closed
  cases closed

end AgentSpine
end YunXi
