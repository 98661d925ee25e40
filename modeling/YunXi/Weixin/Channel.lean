import YunXi.Program.SortedMap
import YunXi.Weixin.Message

/-!
# The Weixin channel plugin

The runtime keeps every message it was given under its idempotency key.  A request registers
a message or changes the delivery of a stored one; the payload of a request is read by the
derived deserializers, which are parameters here.
-/

namespace YunXi
namespace Weixin

open Protocol (Value)

def maxStoredMessages : Nat := 1024

/-- A message crossing the channel plugin boundary. -/
inductive ChannelMessage
  | inbound (message : InboundMessage)
  | outbound (message : OutboundMessage)
  deriving DecidableEq

namespace ChannelMessage

def envelope : ChannelMessage → MessageEnvelope
  | inbound message => message.envelope
  | outbound message => message.envelope

def idempotencyKey : ChannelMessage → String
  | inbound message => message.envelope.idempotencyKey.value
  | outbound message => message.envelope.idempotencyKey.value

/-- The comparison of two envelopes, without their deliveries. -/
def sameEnvelope (left right : MessageEnvelope) : Bool :=
  left.messageId = right.messageId && left.sessionId = right.sessionId &&
    left.requestId = right.requestId && left.idempotencyKey = right.idempotencyKey &&
    left.direction = right.direction && left.senderId = right.senderId &&
    left.recipientId = right.recipientId && left.sentAtMs = right.sentAtMs &&
    left.content = right.content

def sameMessage : ChannelMessage → ChannelMessage → Bool
  | inbound left, inbound right => sameEnvelope left.envelope right.envelope
  | outbound left, outbound right => sameEnvelope left.envelope right.envelope
  | _, _ => false

/-- Messages are replaced as a whole, so one whose operation fails stays as it was. -/
def mutate (message : ChannelMessage) (operation : StatusProgram Unit) :
    Except WeixinContractError ChannelMessage :=
  match message with
  | inbound message => return inbound (← message.mutate operation)
  | outbound message => return outbound (← message.mutate operation)

end ChannelMessage

inductive FixtureDirection
  | inbound
  | outbound
  deriving DecidableEq, Repr

/-- The errors of `dispatch` among those of `WeixinPluginError`. -/
inductive WeixinPluginError
  | capacityExceeded (maximum : Nat)
  | contract (error : WeixinContractError)
  | idempotencyConflict (key : String)
  | invalidRequest (message : String)
  | invocation (error : String)
  | unsupportedOperation
  | unknownMessage (key : String)
  deriving DecidableEq, Repr

namespace WeixinPluginError

end WeixinPluginError

structure MessageMutationRequest where
  idempotencyKey : IdempotencyKey
  reason : Option String
  deriving DecidableEq

/-- The reason of a request, which its operation may require. -/
def MessageMutationRequest.reasonFor (request : MessageMutationRequest) (operation : String) :
    Except WeixinPluginError String :=
  match request.reason with
  | some reason => .ok reason
  | none => .error (.invalidRequest (operation ++ " requires a non-empty reason"))

inductive WeixinPluginResponse
  | accepted (idempotencyKey : String) (duplicate : Bool) (message : ChannelMessage)
  | mutated (operation idempotencyKey : String) (message : ChannelMessage)
  | description (plugin capability contract mode : String) (realWeixin : Bool)
  deriving DecidableEq

/-- An invocation as the host sends it. -/
structure InvocationRequest where
  requestId : UInt64
  capability : String
  version : UInt32
  operation : String
  payload : Value

/-- The derived deserializers of the payloads. -/
structure PayloadDecoder where
  inbound : Value → Except String InboundMessage
  outbound : Value → Except String OutboundMessage
  fixture : Value → Except String FixtureDirection
  mutation : Value → Except String MessageMutationRequest
  empty : Value → Except String Unit

/-- A request whose payload was decoded. -/
inductive ChannelRequest
  | inbound (message : InboundMessage)
  | outbound (message : OutboundMessage)
  | fixture (direction : FixtureDirection)
  | ack (request : MessageMutationRequest)
  | cancel (request : MessageMutationRequest)
  | fail (request : MessageMutationRequest)
  | describe
  deriving DecidableEq

structure ChannelRuntime where
  messages : SortedMap String ChannelMessage

def ChannelRuntime.empty : ChannelRuntime := ⟨.empty⟩

abbrev ChannelProgram := Fallible ChannelRuntime WeixinPluginError

namespace ChannelRuntime

def register (message : ChannelMessage) : ChannelProgram WeixinPluginResponse := do
  let runtime ← get
  let key := message.idempotencyKey
  match runtime.messages.lookup? key with
  | some existing =>
      if existing.sameMessage message then return .accepted key true existing
      else throw (.idempotencyConflict key)
  | none => do
      Fallible.throwIf (runtime.messages.size ≥ maxStoredMessages)
        (.capacityExceeded maxStoredMessages)
      modify fun runtime => { messages := runtime.messages.insert key message }
      return .accepted key false message

def mutate (request : MessageMutationRequest) (operation : String)
    (action : StatusProgram Unit) : ChannelProgram WeixinPluginResponse := do
  let runtime ← get
  let key := request.idempotencyKey.value
  match runtime.messages.lookup? key with
  | none => throw (.unknownMessage key)
  | some message => do
      let message ← Fallible.ofExcept ((message.mutate action).mapError .contract)
      modify fun runtime => { messages := runtime.messages.insert key message }
      return .mutated operation key message

end ChannelRuntime

/-- The message of a `fixture` request. -/
def fixtureMessage : FixtureDirection → Except WeixinContractError ChannelMessage
  | .inbound => return .inbound (← inboundFixture)
  | .outbound => return .outbound (← outboundFixture)

/-- The two transitions of a cancellation. -/
def cancelDelivery (reason : String) : StatusProgram Unit := do
  DeliveryStatus.requestCancel reason
  DeliveryStatus.markCancelled

/-- What a decoded request does. -/
def performRequest : ChannelRequest → ChannelProgram WeixinPluginResponse
  | .inbound message => ChannelRuntime.register (.inbound message)
  | .outbound message => ChannelRuntime.register (.outbound message)
  | .fixture direction => do
      let message ← Fallible.ofExcept ((fixtureMessage direction).mapError .contract)
      ChannelRuntime.register message
  | .ack request => ChannelRuntime.mutate request "ack" DeliveryStatus.acknowledge
  | .cancel request => do
      let reason ← Fallible.ofExcept (request.reasonFor "cancel")
      ChannelRuntime.mutate request "cancel" (cancelDelivery reason)
  | .fail request => do
      let reason ← Fallible.ofExcept (request.reasonFor "fail")
      ChannelRuntime.mutate request "fail" (DeliveryStatus.markFailed reason)
  | .describe =>
      return .description "yunxi.channel.weixin" "channel.weixin" "channel.weixin@1" "loopback"
        false

section Dispatch

variable (decoder : PayloadDecoder)

/-- The request an invocation decodes to. -/
def decodeRequest (request : InvocationRequest) : Except WeixinPluginError ChannelRequest := do
  refuseIf (request.capability ≠ "channel.weixin" ∨ request.version ≠ 1) .unsupportedOperation
  match request.operation with
  | "inbound" => ((decoder.inbound request.payload).map .inbound).mapError .invocation
  | "outbound" => ((decoder.outbound request.payload).map .outbound).mapError .invocation
  | "fixture" => ((decoder.fixture request.payload).map .fixture).mapError .invocation
  | "ack" => ((decoder.mutation request.payload).map .ack).mapError .invocation
  | "cancel" => ((decoder.mutation request.payload).map .cancel).mapError .invocation
  | "fail" => ((decoder.mutation request.payload).map .fail).mapError .invocation
  | "describe" =>
      ((decoder.empty request.payload).map fun _ => .describe).mapError .invocation
  | _ => .error .unsupportedOperation

def dispatch (request : InvocationRequest) : ChannelProgram WeixinPluginResponse := do
  let decoded ← Fallible.ofExcept (decodeRequest decoder request)
  performRequest decoded

/-- The runtime after an invocation. -/
def channelStep (runtime : ChannelRuntime) (request : InvocationRequest) : ChannelRuntime :=
  ((dispatch decoder request).exec runtime).2

end Dispatch

end Weixin
end YunXi
