import YunXi.Weixin.Delivery

/-!
# Messages of the Weixin channel

A message is an envelope around a content and a delivery status.  Inbound and outbound
messages are envelopes that were checked and go in one direction.
-/

namespace YunXi
namespace Weixin

open Protocol (Value)

def maxMessageTextBytes : Nat := 64 * 1024

inductive Direction
  | inbound
  | outbound
  deriving DecidableEq, Repr

def Direction.asStr : Direction → String
  | inbound => "inbound"
  | outbound => "outbound"

structure MessageContent where
  text : Option String
  media : List MediaMetadata
  deriving DecidableEq

namespace MessageContent

def validate (content : MessageContent) : Except WeixinContractError Unit := do
  refuseIf (content.text.isNone ∧ content.media.isEmpty)
    (.invalidValue "content" "must contain text or media")
  checkAll (validateText "message text" · maxMessageTextBytes) content.text.toList
  refuseIf (content.media.length > maxMediaItems)
    (.tooManyMedia content.media.length maxMediaItems)
  let metadataSize := (content.media.map MediaMetadata.boundedSizeBytes).sum
  refuseIf (metadataSize > maxMediaMetadataBytes)
    (.mediaMetadataTooLarge metadataSize maxMediaMetadataBytes)
  checkAll MediaMetadata.validate content.media

def new (text : Option String) (media : List MediaMetadata) :
    Except WeixinContractError MessageContent := do
  let content : MessageContent := { text, media }
  content.validate
  return content

end MessageContent

structure MessageEnvelope where
  messageId : MessageId
  sessionId : SessionId
  requestId : RequestId
  idempotencyKey : IdempotencyKey
  direction : Direction
  senderId : ParticipantId
  recipientId : ParticipantId
  sentAtMs : UInt64
  content : MessageContent
  delivery : DeliveryStatus
  deriving DecidableEq

namespace MessageEnvelope

def validate (envelope : MessageEnvelope) : Except WeixinContractError Unit := do
  envelope.content.validate
  envelope.delivery.validate

def new (messageId : MessageId) (sessionId : SessionId) (requestId : RequestId)
    (idempotencyKey : IdempotencyKey) (direction : Direction)
    (senderId recipientId : ParticipantId) (sentAtMs : UInt64) (content : MessageContent)
    (delivery : DeliveryStatus) : Except WeixinContractError MessageEnvelope := do
  let envelope : MessageEnvelope :=
    { messageId, sessionId, requestId, idempotencyKey, direction, senderId, recipientId
      sentAtMs, content, delivery }
  envelope.validate
  return envelope

/-- What the check of a directed message asks of its envelope. -/
def validateDirection (direction : Direction) (envelope : MessageEnvelope) :
    Except WeixinContractError Unit := do
  envelope.validate
  refuseIf (envelope.direction ≠ direction)
    (.invalidDirection direction.asStr envelope.direction.asStr)

end MessageEnvelope

/-- A checked envelope that goes in one direction. -/
structure DirectedMessage (direction : Direction) where
  envelope : MessageEnvelope
  valid : envelope.validateDirection direction = .ok ()
  deriving DecidableEq

abbrev InboundMessage := DirectedMessage .inbound

abbrev OutboundMessage := DirectedMessage .outbound

namespace DirectedMessage

variable {direction : Direction}

def new (envelope : MessageEnvelope) :
    Except WeixinContractError (DirectedMessage direction) :=
  construct (envelope.validateDirection direction) fun valid => ⟨envelope, valid⟩

variable (message : DirectedMessage direction)

theorem validate_envelope : message.envelope.validate = .ok () :=
  (Except.check_bind_eq_ok.mp message.valid).1

theorem direction_envelope : message.envelope.direction = direction :=
  not_not.mp (refuseIf_eq_ok.mp (Except.check_bind_eq_ok.mp message.valid).2)

theorem envelope_of_new {envelope : MessageEnvelope} {message : DirectedMessage direction}
    (built : new envelope = .ok message) : message.envelope = envelope := by
  obtain ⟨passes, rfl⟩ := eq_of_construct built
  rfl

/-- Run an operation on the delivery of a copy, and check the copy again. -/
def mutate (operation : StatusProgram Unit) :
    Except WeixinContractError (DirectedMessage direction) := do
  let (result, delivery) := operation.exec message.envelope.delivery
  result
  new { message.envelope with delivery }

/-- A mutated message is the message with another delivery. -/
theorem envelope_of_mutate {message mutated : DirectedMessage direction}
    {operation : StatusProgram Unit} (returned : message.mutate operation = .ok mutated) :
    mutated.envelope =
      { message.envelope with
        delivery := (operation.exec message.envelope.delivery).2 } :=
  envelope_of_new (Except.check_bind_eq_ok.mp returned).2

end DirectedMessage

namespace MediaKind

def asStr : MediaKind → String
  | image => "image"
  | audio => "audio"
  | video => "video"
  | file => "file"

end MediaKind

def MediaMetadata.toJson (media : MediaMetadata) : Value :=
  .object [("media_id", .string media.mediaId.value), ("kind", .string media.kind.asStr),
    ("mime_type", .string media.mimeType), ("file_name", .ofOption .string media.fileName),
    ("byte_length", .ofNat media.byteLength), ("duration_ms", .ofOption .ofNat media.durationMs),
    ("width", .ofOption .ofNat media.width), ("height", .ofOption .ofNat media.height)]

def MessageContent.toJson (content : MessageContent) : Value :=
  .object [("text", .ofOption .string content.text),
    ("media", .array (content.media.map MediaMetadata.toJson))]

def MessageEnvelope.toJson (envelope : MessageEnvelope) : Value :=
  .object [("message_id", .string envelope.messageId.value),
    ("session_id", .string envelope.sessionId.value),
    ("request_id", .string envelope.requestId.value),
    ("idempotency_key", .string envelope.idempotencyKey.value),
    ("direction", .string envelope.direction.asStr),
    ("sender_id", .string envelope.senderId.value),
    ("recipient_id", .string envelope.recipientId.value),
    ("sent_at_ms", .ofNat envelope.sentAtMs.toNat), ("content", envelope.content.toJson),
    ("delivery", envelope.delivery.toJson)]

/-- `inbound_fixture`. -/
def inboundFixture : Except WeixinContractError InboundMessage := do
  let media ← MediaMetadata.new (← BoundedId.new "fixture-image") .image "image/png"
    (some "greeting.png") 2048 none (some 640) (some 480)
  let content ← MessageContent.new (some "你好，云熙") [media]
  let envelope ← MessageEnvelope.new (← BoundedId.new "fixture-inbound-message")
    (← BoundedId.new "fixture-session") (← BoundedId.new "fixture-inbound-request")
    (← BoundedId.new "fixture-inbound-key") .inbound (← BoundedId.new "user-001")
    (← BoundedId.new "bot-001") 1757000000000 content .newInbound
  DirectedMessage.new envelope

/-- `outbound_fixture`. -/
def outboundFixture : Except WeixinContractError OutboundMessage := do
  let content ← MessageContent.new (some "收到，我会处理这条消息") []
  let envelope ← MessageEnvelope.new (← BoundedId.new "fixture-outbound-message")
    (← BoundedId.new "fixture-session") (← BoundedId.new "fixture-outbound-request")
    (← BoundedId.new "fixture-outbound-key") .outbound (← BoundedId.new "bot-001")
    (← BoundedId.new "user-001") 1757000000100 content .newOutbound
  DirectedMessage.new envelope

end Weixin
end YunXi
