import YunXi.Weixin.Channel

/-!
# The JSONL loopback

A second runtime of the same contract, which reads commands line by line.  It shares the
messages with the plugin and nothing of its code.
-/

namespace YunXi
namespace Weixin
namespace Loopback

open Protocol (Value)

def maxErrorChars : Nat := 4096

inductive Command
  | describe
  | fixture (direction : FixtureDirection)
  | inbound (message : InboundMessage)
  | outbound (message : OutboundMessage)
  | ack (idempotencyKey : IdempotencyKey)
  | cancel (idempotencyKey : IdempotencyKey) (reason : String)
  | fail (idempotencyKey : IdempotencyKey) (reason : String)
  | shutdown
  deriving DecidableEq

inductive StoredMessage
  | inbound (message : InboundMessage)
  | outbound (message : OutboundMessage)
  deriving DecidableEq

namespace StoredMessage

def idempotencyKey : StoredMessage → String
  | inbound message => message.envelope.idempotencyKey.value
  | outbound message => message.envelope.idempotencyKey.value

def direction : StoredMessage → String
  | inbound _ => "inbound"
  | outbound _ => "outbound"

def asValue : StoredMessage → Value
  | inbound message =>
      .object [("direction", .string "inbound"), ("message", message.envelope.toJson)]
  | outbound message =>
      .object [("direction", .string "outbound"), ("message", message.envelope.toJson)]

def sameMessage : StoredMessage → StoredMessage → Bool
  | inbound left, inbound right => sameEnvelope left.envelope right.envelope
  | outbound left, outbound right => sameEnvelope left.envelope right.envelope
  | _, _ => false
where
  sameEnvelope (left right : MessageEnvelope) : Bool :=
    left.messageId = right.messageId && left.sessionId = right.sessionId &&
      left.requestId = right.requestId && left.idempotencyKey = right.idempotencyKey &&
      left.direction = right.direction && left.senderId = right.senderId &&
      left.recipientId = right.recipientId && left.sentAtMs = right.sentAtMs &&
      left.content = right.content

/-- Both directions change the delivery of a copy and check the copy again. -/
def changed (message : StoredMessage) (operation : StatusProgram Unit) :
    Except WeixinContractError StoredMessage :=
  match message with
  | inbound message => return inbound (← message.mutate operation)
  | outbound message => return outbound (← message.mutate operation)

def acknowledge (message : StoredMessage) : Except WeixinContractError StoredMessage :=
  message.changed DeliveryStatus.acknowledge

def cancel (message : StoredMessage) (reason : String) :
    Except WeixinContractError StoredMessage :=
  message.changed do
    DeliveryStatus.requestCancel reason
    DeliveryStatus.markCancelled

def fail (message : StoredMessage) (reason : String) :
    Except WeixinContractError StoredMessage :=
  message.changed (DeliveryStatus.markFailed reason)

end StoredMessage

structure FixtureRuntime where
  messages : SortedMap String StoredMessage

def FixtureRuntime.empty : FixtureRuntime := ⟨.empty⟩

def boundedError (message : String) : String :=
  String.ofList (message.toList.take maxErrorChars)

def contractError (operation : String) (error : WeixinContractError) : Value :=
  .object [("ok", .bool false),
    ("error", .object [("code", .string "contract_error"), ("operation", .string operation),
      ("message", .string (boundedError error.display))])]

def describeResponse : Value :=
  .object [("ok", .bool true), ("event", .string "describe"),
    ("plugin", .string "yunxi-weixin-fixture"), ("channel", .string "channel.weixin@1"),
    ("protocol", .string "yunxi.weixin.fixture@1"), ("mode", .string "loopback"),
    ("capabilities", .array [.string "weixin.inbound@1", .string "weixin.outbound@1"]),
    ("supports", .array [.string "ack", .string "idempotency", .string "cancel",
      .string "failure"]),
    ("real_weixin", .bool false),
    ("boundary", .array [.string "no login", .string "no encryption", .string "no network",
      .string "no device", .string "no Weixin SDK"])]

variable (runtime : FixtureRuntime)

namespace FixtureRuntime

def register (message : StoredMessage) : Value × FixtureRuntime :=
  let key := message.idempotencyKey
  match runtime.messages.lookup? key with
  | some existing =>
      if existing.sameMessage message then
        (.object [("ok", .bool true), ("event", .string "message.duplicate"),
          ("duplicate", .bool true), ("idempotency_key", .string key),
          ("message", existing.asValue)], runtime)
      else
        (.object [("ok", .bool false),
          ("error", .object [("code", .string "idempotency_conflict"),
            ("message", .string "idempotency key is already bound to a different message"),
            ("idempotency_key", .string key)])], runtime)
  | none =>
      (.object [("ok", .bool true), ("event", .string "message.accepted"),
        ("duplicate", .bool false), ("direction", .string message.direction),
        ("idempotency_key", .string key), ("message", message.asValue)],
        { messages := runtime.messages.insert key message })

def mutate (key : IdempotencyKey)
    (operation : StoredMessage → Except WeixinContractError StoredMessage)
    (operationName : String) : Value × FixtureRuntime :=
  match runtime.messages.lookup? key.value with
  | none =>
      (.object [("ok", .bool false),
        ("error", .object [("code", .string "unknown_idempotency_key"),
          ("message", .string "no message is stored for this idempotency key"),
          ("idempotency_key", .string key.value)])], runtime)
  | some message =>
      match operation message with
      | .error error => (contractError operationName error, runtime)
      | .ok message =>
          (.object [("ok", .bool true), ("event", .string ("message." ++ operationName)),
            ("idempotency_key", .string key.value), ("message", message.asValue)],
            { messages := runtime.messages.insert key.value message })

/-- The message of a `fixture` command. -/
def fixtureMessage : FixtureDirection → Except WeixinContractError StoredMessage
  | .inbound => return .inbound (← inboundFixture)
  | .outbound => return .outbound (← outboundFixture)

/-- The answer to a command, and whether it ends the loop. -/
def dispatch : Command → (Value × Bool) × FixtureRuntime
  | .describe => ((describeResponse, false), runtime)
  | .fixture direction =>
      match fixtureMessage direction with
      | .error error => ((contractError "fixture" error, false), runtime)
      | .ok message =>
          let (response, runtime) := runtime.register message
          ((response, false), runtime)
  | .inbound message =>
      let (response, runtime) := runtime.register (.inbound message)
      ((response, false), runtime)
  | .outbound message =>
      let (response, runtime) := runtime.register (.outbound message)
      ((response, false), runtime)
  | .ack key =>
      let (response, runtime) := runtime.mutate key StoredMessage.acknowledge "ack"
      ((response, false), runtime)
  | .cancel key reason =>
      let (response, runtime) := runtime.mutate key (·.cancel reason) "cancel"
      ((response, false), runtime)
  | .fail key reason =>
      let (response, runtime) := runtime.mutate key (·.fail reason) "fail"
      ((response, false), runtime)
  | .shutdown =>
      ((.object [("ok", .bool true), ("event", .string "shutdown"),
        ("protocol", .string "yunxi.weixin.fixture@1"),
        ("stored_messages", .ofNat runtime.messages.size)], true), runtime)

end FixtureRuntime

/-- The answer to a line that is not a command. -/
def invalidCommand (error : String) : Value :=
  .object [("ok", .bool false),
    ("error", .object [("code", .string "invalid_command"),
      ("message", .string (boundedError error))])]

/-- A line of the loop: its command, or the error it does not decode with. -/
def serve : Except String Command → Value × FixtureRuntime
  | .error error => (invalidCommand error, runtime)
  | .ok command =>
      let ((response, _), runtime) := runtime.dispatch command
      (response, runtime)

end Loopback
end Weixin
end YunXi
