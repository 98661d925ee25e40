import YunXi.AgentSpine.Error

/-!
# The bounded session log

Events enter the log only through `append`, which validates the event, measures
its encoding, checks the three limits and assigns the next sequence number
before it changes anything.  The conversation is the seed followed by the
messages the recorded events stand for.
-/

namespace YunXi
namespace AgentSpine

open Protocol

def maxSessionTurnIdBytes : Nat := 128
def maxSessionTextBytes : Nat := 256 * 1024

structure SessionLimits where
  maxEvents : Nat
  maxBytes : Nat
  maxEventBytes : Nat
  deriving DecidableEq, Repr

def SessionLimits.validate (limits : SessionLimits) : Except SessionError Unit :=
  if limits.maxEvents = 0 then
    .error (.invalidLimit "max_events" limits.maxEvents)
  else if limits.maxBytes = 0 then
    .error (.invalidLimit "max_bytes" limits.maxBytes)
  else if limits.maxEventBytes = 0 ∨ limits.maxEventBytes > limits.maxBytes then
    .error (.invalidLimit "max_event_bytes" limits.maxEventBytes)
  else .ok ()

/-- `SessionLimits::default`. -/
def SessionLimits.default : SessionLimits := ⟨512, 4 * 1024 * 1024, 1024 * 1024⟩

inductive SessionEvent
  | turnStarted (turnId : String) (message : ChatMessage)
  | contextBuilt (turnId : String) (messageCount toolCount : Nat)
  | modelRequested (turnId : String) (round messageCount toolCount : Nat)
  | modelResponded (turnId : String) (round : Nat) (response : ChatResult)
  | toolCallsRequested (turnId : String) (batch : ToolCallBatch)
  | toolApprovalRequested (turnId : String) (request : ToolApprovalRequest)
  | toolApprovalResolved (turnId : String) (decision : ToolApprovalDecision)
  | toolResultRecorded (turnId : String) (result : ToolResult)
  | turnCompleted (turnId content : String)
  | turnFailed (turnId code message : String) (retryable : Bool)
  | turnCancelled (turnId reason : String)

/-- `validate_text` of the session module. -/
def validateSessionText (field value : String) (maximum : Nat) :
    Except SessionError Unit :=
  if isBlank value then .error (.invalidEvent (field ++ " cannot be empty"))
  else if containsNul value then
    .error (.invalidEvent (field ++ " contains a NUL character"))
  else if value.utf8ByteSize > maximum then
    .error (.invalidEvent (field ++ " exceeds " ++ toString maximum ++ " bytes"))
  else .ok ()

/-- `validate_turn_id`. -/
def validateTurnId (value : String) : Except SessionError Unit :=
  validateSessionText "turn id" value maxSessionTurnIdBytes

/-- `validate_round` of the session module. -/
def validateSessionRound (round : Nat) : Except SessionError Unit :=
  if round = 0 then .error (.invalidEvent "round must be greater than zero")
  else .ok ()

/-- Report a protocol error as an invalid event. -/
def invalidEventOf {α : Type} : Except ToolProtocolError α → Except SessionError Unit
  | .ok _ => .ok ()
  | .error error => .error (.invalidEvent error.display)

namespace SessionEvent

def turnId : SessionEvent → String
  | turnStarted turnId _ | contextBuilt turnId _ _ | modelRequested turnId _ _ _
  | modelResponded turnId _ _ | toolCallsRequested turnId _
  | toolApprovalRequested turnId _ | toolApprovalResolved turnId _
  | toolResultRecorded turnId _ | turnCompleted turnId _ | turnFailed turnId _ _ _
  | turnCancelled turnId _ => turnId

/-- The payload part of `SessionEvent::validate`. -/
def validatePayload : SessionEvent → Except SessionError Unit
  | turnStarted _ message =>
      if message.role ≠ .user then
        .error (.invalidEvent "turn start message must have the user role")
      else validateSessionText "user message" message.content maxSessionTextBytes
  | contextBuilt _ _ _ | modelRequested _ _ _ _ => .ok ()
  | modelResponded _ round response => do
      validateSessionRound round
      if response.toolCalls.isEmpty then
        validateSessionText "model response" response.content maxSessionTextBytes
      else if response.content.utf8ByteSize > maxSessionTextBytes ||
          containsNul response.content then
        .error (.invalidEvent "model response exceeds the session text bound")
      else invalidEventOf (ToolCallBatch.new round response.toolCalls)
  | toolCallsRequested _ batch => invalidEventOf batch.validate
  | toolApprovalRequested _ request => invalidEventOf request.validate
  | toolApprovalResolved _ decision => invalidEventOf decision.validate
  | toolResultRecorded _ result => invalidEventOf result.validate
  | turnCompleted _ content => do
      validateSessionText "turn response" content maxSessionTextBytes
      if isBlank content then
        .error (.invalidEvent "completed turn response cannot be empty")
      else .ok ()
  | turnFailed _ code message _ => do
      validateSessionText "failure code" code 128
      validateSessionText "failure message" message maxSessionTextBytes
  | turnCancelled _ reason =>
      validateSessionText "cancellation reason" reason maxSessionTextBytes

def validate (event : SessionEvent) : Except SessionError Unit := do
  validateTurnId event.turnId
  event.validatePayload

/-- The tag under which an event is serialized. -/
def tag : SessionEvent → String
  | turnStarted _ _ => "turn_started"
  | contextBuilt _ _ _ => "context_built"
  | modelRequested _ _ _ _ => "model_requested"
  | modelResponded _ _ _ => "model_responded"
  | toolCallsRequested _ _ => "tool_calls_requested"
  | toolApprovalRequested _ _ => "tool_approval_requested"
  | toolApprovalResolved _ _ => "tool_approval_resolved"
  | toolResultRecorded _ _ => "tool_result_recorded"
  | turnCompleted _ _ => "turn_completed"
  | turnFailed _ _ _ _ => "turn_failed"
  | turnCancelled _ _ => "turn_cancelled"

/-- The fields serialized after the tag and the turn id. -/
def payloadMembers : SessionEvent → List (String × Value)
  | turnStarted _ message => [("message", message.toJson)]
  | contextBuilt _ messageCount toolCount =>
      [("message_count", .ofNat messageCount), ("tool_count", .ofNat toolCount)]
  | modelRequested _ round messageCount toolCount =>
      [("round", .ofNat round), ("message_count", .ofNat messageCount),
        ("tool_count", .ofNat toolCount)]
  | modelResponded _ round response =>
      [("round", .ofNat round), ("response", response.toJson)]
  | toolCallsRequested _ batch => [("batch", batch.toJson)]
  | toolApprovalRequested _ request => [("request", request.toJson)]
  | toolApprovalResolved _ decision => [("decision", decision.toJson)]
  | toolResultRecorded _ result => [("result", result.toJson)]
  | turnCompleted _ content => [("content", .string content)]
  | turnFailed _ code message retryable =>
      [("code", .string code), ("message", .string message),
        ("retryable", .bool retryable)]
  | turnCancelled _ reason => [("reason", .string reason)]

def toJson (event : SessionEvent) : Value :=
  .object (("type", .string event.tag) :: ("turn_id", .string event.turnId) ::
    event.payloadMembers)

/-- `serde_json::to_vec(&event)?.len()`; encoding these types cannot fail. -/
def encodedSize (event : SessionEvent) : Nat := event.toJson.encodedSize

/-- The events that end a turn. -/
def isTerminal : SessionEvent → Bool
  | turnCompleted _ _ | turnFailed _ _ _ _ | turnCancelled _ _ => true
  | _ => false

/-- The messages an event contributes to the conversation. -/
def messages : SessionEvent → List ChatMessage
  | turnStarted _ message => [message]
  | modelResponded _ _ response =>
      if response.toolCalls.isEmpty then [.assistant response.content]
      else [.assistantToolCalls response.toolCalls]
  | toolResultRecorded _ result =>
      [.toolResult result.callId result.toolName result.outcome.toJson.toText]
  | _ => []

end SessionEvent

structure SessionRecord where
  sequence : Nat
  event : SessionEvent

structure SessionLog where
  limits : SessionLimits
  seed : List ChatMessage
  records : List SessionRecord
  bytesUsed : Nat
  nextSequence : Nat

/-- One message of `validate_seed`, returning the bytes used so far. -/
def validateSeedMessage (maximumBytes used : Nat) (message : ChatMessage) :
    Except SessionError Nat :=
  if containsNul message.content then
    .error (.invalidSeed "conversation seed contains a NUL character")
  else if message.content.utf8ByteSize > maxSessionTextBytes then
    .error (.invalidSeed "conversation seed message exceeds the text bound")
  else
    let incoming := message.toJson.encodedSize
    match checkedAdd used incoming with
    | none => .error (.byteLimitReached used incoming maximumBytes)
    | some total =>
        if total > maximumBytes then
          .error (.byteLimitReached (total - incoming) incoming maximumBytes)
        else .ok total

/-- `validate_seed`. -/
def validateSeed (messages : List ChatMessage) (maximumBytes : Nat) :
    Except SessionError Unit := do
  let _ ← messages.foldlM (validateSeedMessage maximumBytes) 0

namespace SessionLog

def withLimits (limits : SessionLimits) : Except SessionError SessionLog := do
  limits.validate
  return ⟨limits, [], [], 0, 1⟩

variable (log : SessionLog)

def resetWithMessages (messages : List ChatMessage) :
    Except SessionError SessionLog := do
  validateSeed messages log.limits.maxBytes
  return { log with seed := messages, records := [], bytesUsed := 0, nextSequence := 1 }

/-- The limit checks of `append`: the new byte total and the next sequence number. -/
def checkRoom (event : SessionEvent) :
    Except SessionError (Nat × Nat) :=
  let size := event.encodedSize
  if size > log.limits.maxEventBytes then
    .error (.eventTooLarge size log.limits.maxEventBytes)
  else if log.records.length ≥ log.limits.maxEvents then
    .error (.eventLimitReached log.limits.maxEvents)
  else
    match checkedAdd log.bytesUsed size with
    | none => .error (.byteLimitReached log.bytesUsed size log.limits.maxBytes)
    | some newTotal =>
        if newTotal > log.limits.maxBytes then
          .error (.byteLimitReached log.bytesUsed size log.limits.maxBytes)
        else
          match checkedAdd log.nextSequence 1 with
          | none => .error .sequenceExhausted
          | some nextSequence => .ok (newTotal, nextSequence)

/-- `SessionLog::append`: the assigned sequence number and the extended log. -/
def append (event : SessionEvent) :
    Except SessionError (Nat × SessionLog) := do
  event.validate
  let (newTotal, nextSequence) ← log.checkRoom event
  return (log.nextSequence,
    { log with
      records := log.records ++ [⟨log.nextSequence, event⟩]
      bytesUsed := newTotal
      nextSequence })

/-- The log after an append whose result is ignored. -/
def appendIgnored (event : SessionEvent) : SessionLog :=
  match log.append event with
  | .ok (_, extended) => extended
  | .error _ => log

def events : List SessionEvent :=
  log.records.map SessionRecord.event

/-- `SessionLog::conversation`. -/
def conversation : List ChatMessage :=
  log.seed ++ log.events.flatMap SessionEvent.messages

end SessionLog

end AgentSpine
end YunXi
