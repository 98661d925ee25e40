import YunXi.Program.Checked
import YunXi.Protocol.Authority

/-!
# Checks of the Weixin channel contract

Identifiers are bounded tokens, texts are bounded and free of control characters, and media
metadata describes a file without carrying it.
-/

namespace YunXi
namespace Weixin

open Protocol

/-- `WeixinContractError`. -/
inductive WeixinContractError
  | empty (field : String)
  | tooLong (field : String) (size maximum : Nat)
  | invalidToken (field : String)
  | invalidText (field : String)
  | invalidValue (field message : String)
  | invalidDirection (expected actual : String)
  | tooManyMedia (count maximum : Nat)
  | mediaMetadataTooLarge (size maximum : Nat)
  | bufferExceedsCapacity (buffered capacity : Nat)
  | invalidStateTransition (source target : String)
  | retryExhausted
  deriving DecidableEq, Repr

/-- `fmt::Display for WeixinContractError`. -/
def WeixinContractError.display : WeixinContractError → String
  | empty field => field ++ " must not be empty"
  | tooLong field size maximum =>
      field ++ " is " ++ toString size ++ " bytes, maximum is " ++ toString maximum
  | invalidToken field => field ++ " contains an invalid token"
  | invalidText field => field ++ " contains a disallowed control character"
  | invalidValue field message => field ++ " is invalid: " ++ message
  | invalidDirection expected actual =>
      "expected " ++ expected ++ " direction, received " ++ actual
  | tooManyMedia count maximum =>
      "message contains " ++ toString count ++ " media items, maximum is " ++ toString maximum
  | mediaMetadataTooLarge size maximum =>
      "media metadata is " ++ toString size ++ " bytes, maximum is " ++ toString maximum
  | bufferExceedsCapacity buffered capacity =>
      "buffered bytes " ++ toString buffered ++ " exceed capacity " ++ toString capacity
  | invalidStateTransition source target =>
      "invalid delivery state transition from " ++ source ++ " to " ++ target
  | retryExhausted => "delivery retry budget is exhausted"

/-- Control characters that a text must not contain. -/
def disallowedControl (character : Char) : Bool :=
  isControlCharacter character && character ≠ '\n' && character ≠ '\r' && character ≠ '\t'

/-- `validate_text`, with `allow_empty` unset as every caller has it. -/
def validateText (field value : String) (maximum : Nat) : Except WeixinContractError Unit := do
  refuseIf (value = "") (.empty field)
  refuseIf (value.utf8ByteSize > maximum) (.tooLong field value.utf8ByteSize maximum)
  refuseIf (value.toList.any disallowedControl) (.invalidText field)

/-- Characters of a token. -/
def tokenCharacter (character : Char) : Bool :=
  isAsciiAlphanumeric character || character == '-' || character == '_' || character == '.' ||
    character == ':' || character == '@'

/-- `validate_token`. -/
def validateToken (field value : String) (maximum : Nat) : Except WeixinContractError Unit := do
  refuseIf (value = "") (.empty field)
  refuseIf (value.utf8ByteSize > maximum) (.tooLong field value.utf8ByteSize maximum)
  refuseIf (¬ value.toList.all tokenCharacter) (.invalidToken field)

/-- The identifiers of `bounded_id!`: a token of at most so many bytes. -/
structure BoundedId (field : String) (maximum : Nat) where
  value : String
  valid : validateToken field value maximum = .ok ()
  deriving DecidableEq

def BoundedId.new {field : String} {maximum : Nat} (value : String) :
    Except WeixinContractError (BoundedId field maximum) :=
  construct (validateToken field value maximum) fun valid => ⟨value, valid⟩

abbrev MessageId := BoundedId "message id" 128
abbrev SessionId := BoundedId "session id" 128
abbrev RequestId := BoundedId "request id" 128
abbrev IdempotencyKey := BoundedId "idempotency key" 256
abbrev ParticipantId := BoundedId "participant id" 256
abbrev MediaId := BoundedId "media id" 256

def maxMimeTypeBytes : Nat := 128
def maxFileNameBytes : Nat := 512
def maxDeclaredMediaBytes : Nat := 16 * 1024 * 1024 * 1024
def maxMediaDurationMs : Nat := 7 * 24 * 60 * 60 * 1000
def maxDimension : Nat := 32768
def maxMediaItems : Nat := 16
def maxMediaMetadataBytes : Nat := 32 * 1024

inductive MediaKind
  | image
  | audio
  | video
  | file
  deriving DecidableEq, Repr

structure MediaMetadata where
  mediaId : MediaId
  kind : MediaKind
  mimeType : String
  fileName : Option String
  byteLength : Nat
  durationMs : Option Nat
  width : Option Nat
  height : Option Nat
  deriving DecidableEq

/-- Two parts around the only slash, in ASCII without control characters or white space. -/
def wellFormedMimeType (major minor : List Char) : Bool :=
  !major.isEmpty && !minor.isEmpty && !minor.contains '/' &&
    (major ++ minor).all fun character =>
      character.toNat < 128 && !isControlCharacter character && !isWhiteSpace character

/-- The checks of the MIME type. -/
def validateMimeType (mimeType : String) : Except WeixinContractError Unit := do
  refuseIf (mimeType = "" ∨ mimeType.utf8ByteSize > maxMimeTypeBytes)
    (.invalidValue "mime_type" "must be a non-empty MIME type no longer than 128 bytes")
  refuseIf (¬ (splitOnce ['/'] mimeType.toList).any fun (major, minor) =>
      wellFormedMimeType major minor)
    (.invalidValue "mime_type" "must contain one ASCII slash and no whitespace")

/-- The checks of the file name. -/
def validateFileName (fileName : String) : Except WeixinContractError Unit := do
  validateText "file name" fileName maxFileNameBytes
  refuseIf (fileName.toList.any fun character => character == '/' || character == '\\')
    (.invalidValue "file_name" "must not contain path separators")

/-- A side that is not a dimension. -/
def badDimension (side : Nat) : Bool :=
  side == 0 || side > maxDimension

namespace MediaMetadata

def validate (media : MediaMetadata) : Except WeixinContractError Unit := do
  validateMimeType media.mimeType
  checkAll validateFileName media.fileName.toList
  refuseIf (media.byteLength > maxDeclaredMediaBytes)
    (.invalidValue "byte_length" "exceeds the declared media size bound")
  refuseIf (media.durationMs.any (· > maxMediaDurationMs))
    (.invalidValue "duration_ms" "exceeds the duration bound")
  refuseIf (media.width.any badDimension ∨ media.height.any badDimension ∨
      media.width.isSome ≠ media.height.isSome)
    (.invalidValue "width/height"
      "must be both absent or non-zero dimensions within the bound")

def new (mediaId : MediaId) (kind : MediaKind) (mimeType : String) (fileName : Option String)
    (byteLength : Nat) (durationMs width height : Option Nat) :
    Except WeixinContractError MediaMetadata := do
  let metadata : MediaMetadata :=
    { mediaId, kind, mimeType, fileName, byteLength, durationMs, width, height }
  metadata.validate
  return metadata

def boundedSizeBytes (media : MediaMetadata) : Nat :=
  media.mediaId.value.utf8ByteSize + media.mimeType.utf8ByteSize +
    media.fileName.elim 0 String.utf8ByteSize + 64

end MediaMetadata

end Weixin
end YunXi
