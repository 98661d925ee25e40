import Mathlib.Data.List.Basic
import Mathlib.Data.String.Basic

/-!
# Text checks of the protocol crate

Texts are measured in UTF-8 bytes and trimmed by the Unicode `White_Space`
property, as `str::len` and `str::trim` do.  The two validators name the field
they check in every error they return.
-/

namespace YunXi
namespace Protocol

variable (character : Char)

/-- Characters with the Unicode `White_Space` property, which `str::trim` strips. -/
def isWhiteSpace : Bool :=
  let code := character.toNat
  (9 ≤ code && code ≤ 13) || code == 0x20 || code == 0x85 || code == 0xA0 ||
    code == 0x1680 || (0x2000 ≤ code && code ≤ 0x200A) || code == 0x2028 ||
    code == 0x2029 || code == 0x202F || code == 0x205F || code == 0x3000

/-- `value.trim().is_empty()`. -/
def isBlank (value : String) : Bool :=
  value.toList.all isWhiteSpace

/-- `value.contains('\0')`. -/
def containsNul (value : String) : Bool :=
  value.toList.any fun character => character.toNat == 0

/-- The longest prefix of whole characters within a byte budget. -/
def takeBytes : Nat → List Char → List Char
  | _, [] => []
  | budget, character :: rest =>
      if character.utf8Size ≤ budget then
        character :: takeBytes (budget - character.utf8Size) rest
      else []

/-- `truncate`: cut a text at the last character boundary within `maximum` bytes. -/
def truncate (value : String) (maximum : Nat) : String :=
  if value.utf8ByteSize ≤ maximum then value
  else String.ofList (takeBytes maximum value.toList)

def isAsciiLowercase : Bool :=
  97 ≤ character.toNat && character.toNat ≤ 122

def isAsciiUppercase : Bool :=
  65 ≤ character.toNat && character.toNat ≤ 90

def isAsciiDigit : Bool :=
  48 ≤ character.toNat && character.toNat ≤ 57

def isAsciiAlphanumeric : Bool :=
  isAsciiLowercase character || isAsciiUppercase character || isAsciiDigit character

/-- `matches!(character, '.' | '-' | '_')`. -/
def isTokenPunctuation : Bool :=
  character == '.' || character == '-' || character == '_'

/-- Host permissions a plugin may need; only their names are used here. -/
inductive GrantKind
  | approval
  | workspaceRead
  | workspaceWrite
  | network
  | secret
  | device
  | providerCredential
  | agentDelegation
  deriving DecidableEq, Repr

/-- The displayed and serialized name of a grant. -/
def GrantKind.name : GrantKind → String
  | approval => "approval"
  | workspaceRead => "workspace_read"
  | workspaceWrite => "workspace_write"
  | network => "network"
  | secret => "secret"
  | device => "device"
  | providerCredential => "provider_credential"
  | agentDelegation => "agent_delegation"

/-- Errors of the model-tool orchestration contracts. -/
inductive ToolProtocolError
  | unsupportedVersion (version expected : Nat)
  | zeroRound
  | roundLimitExceeded (round maximum : Nat)
  | emptyCallBatch
  | tooManyCalls (count maximum : Nat)
  | duplicateCallId (id : String)
  | emptyField (field : String)
  | fieldTooLong (field : String) (length maximum : Nat)
  | invalidTokenCharacter (field : String) (index : Nat) (character : Char)
  | argumentsTooLarge (size maximum : Nat)
  | resultTooLarge (size maximum : Nat)
  | schemaTooLarge (size maximum : Nat)
  | toolSchemaMustBeObject
  | tooManyToolDefinitions (count maximum : Nat)
  | duplicateToolDefinition (name : String)
  | noApprovalGrants
  | tooManyApprovalGrants (count maximum : Nat)
  | duplicateApprovalGrant (grant : GrantKind)
  | invalidPolicy (field : String) (value maximum : Nat)
  deriving DecidableEq, Repr

/-- `fmt::Display for ToolProtocolError`. -/
def ToolProtocolError.display : ToolProtocolError → String
  | unsupportedVersion version expected =>
      "tool protocol version " ++ toString version ++ " is unsupported; expected " ++
        toString expected
  | zeroRound => "tool round must be greater than zero"
  | roundLimitExceeded round maximum =>
      "tool round " ++ toString round ++ " exceeds maximum " ++ toString maximum
  | emptyCallBatch => "tool call batch cannot be empty"
  | tooManyCalls count maximum =>
      "tool call batch contains " ++ toString count ++ " calls; maximum is " ++
        toString maximum
  | duplicateCallId id => "tool call id `" ++ id ++ "` appears more than once"
  | emptyField field => field ++ " cannot be empty"
  | fieldTooLong field length maximum =>
      field ++ " is " ++ toString length ++ " bytes; maximum is " ++ toString maximum
  | invalidTokenCharacter field index character =>
      field ++ " contains unsupported character `" ++ String.ofList [character] ++
        "` at byte " ++ toString index
  | argumentsTooLarge size maximum =>
      "tool arguments are " ++ toString size ++ " bytes; maximum is " ++ toString maximum
  | resultTooLarge size maximum =>
      "tool result is " ++ toString size ++ " bytes; maximum is " ++ toString maximum
  | schemaTooLarge size maximum =>
      "tool input schema is " ++ toString size ++ " bytes; maximum is " ++
        toString maximum
  | toolSchemaMustBeObject => "tool input schema must be a JSON object"
  | tooManyToolDefinitions count maximum =>
      "tool catalog contains " ++ toString count ++ " definitions; maximum is " ++
        toString maximum
  | duplicateToolDefinition name => "tool catalog repeats definition `" ++ name ++ "`"
  | noApprovalGrants => "tool approval request must name at least one grant"
  | tooManyApprovalGrants count maximum =>
      "tool approval request names " ++ toString count ++ " grants; maximum is " ++
        toString maximum
  | duplicateApprovalGrant grant =>
      "tool approval request repeats grant `" ++ grant.name ++ "`"
  | invalidPolicy field value maximum =>
      field ++ " value " ++ toString value ++ " is outside 1..=" ++ toString maximum

def maxToolCallIdBytes : Nat := 128
def maxToolNameBytes : Nat := 128
def maxToolTextBytes : Nat := 4096

/-- `validate_text`: a non-blank text of at most `maxToolTextBytes` bytes. -/
def validateText (field value : String) : Except ToolProtocolError Unit :=
  if isBlank value then .error (.emptyField field)
  else if value.utf8ByteSize > maxToolTextBytes then
    .error (.fieldTooLong field value.utf8ByteSize maxToolTextBytes)
  else .ok ()

/-- The first character that is not allowed, with its byte index. -/
def firstRejected (allowed : Char → Bool) : Nat → List Char → Option (Nat × Char)
  | _, [] => none
  | index, character :: rest =>
      if allowed character then
        firstRejected allowed (index + character.utf8Size) rest
      else some (index, character)

/-- `validate_token` with `require_alphanumeric_start`, which every caller sets. -/
def validateToken (field value : String)
    (maximum : Nat)
    (allowed : Char → Bool) : Except ToolProtocolError Unit :=
  match value.toList with
  | [] => .error (.emptyField field)
  | first :: rest =>
      if value.utf8ByteSize > maximum then
        .error (.fieldTooLong field value.utf8ByteSize maximum)
      else
        match firstRejected allowed 0 (first :: rest) with
        | some (index, character) =>
            .error (.invalidTokenCharacter field index character)
        | none =>
            if isAsciiAlphanumeric first then .ok ()
            else .error (.invalidTokenCharacter field 0 first)

/-- Characters of call ids and approval tickets. -/
def callIdCharacter : Bool :=
  isAsciiAlphanumeric character || isTokenPunctuation character

/-- Characters of tool names and tool error codes. -/
def toolNameCharacter : Bool :=
  isAsciiLowercase character || isAsciiDigit character || isTokenPunctuation character

@[simp] theorem takeBytes_nil (budget : Nat) : takeBytes budget [] = [] := rfl

/-- What is taken fits the budget. -/
theorem utf8ByteSize_takeBytes_le (characters : List Char) (budget : Nat) :
    (String.ofList (takeBytes budget characters)).utf8ByteSize ≤ budget := by
  induction characters generalizing budget with
  | nil => simp
  | cons character rest ih =>
      unfold takeBytes
      split
      · have restBound := ih (budget - character.utf8Size)
        rw [String.ofList_cons]
        simp only [String.utf8ByteSize_append, String.utf8ByteSize_singleton]
        omega
      · simp

/-- What is taken is a part of what there was. -/
theorem takeBytes_subset (characters : List Char) (budget : Nat) :
    takeBytes budget characters ⊆ characters := by
  induction characters generalizing budget with
  | nil => exact List.Subset.refl _
  | cons character rest ih =>
      unfold takeBytes
      split
      · exact List.cons_subset_cons _ (ih _)
      · exact List.nil_subset _

/-- A truncated text fits its bound. -/
theorem utf8ByteSize_truncate_le (value : String) (maximum : Nat) :
    (truncate value maximum).utf8ByteSize ≤ maximum := by
  unfold truncate
  split
  · assumption
  · exact utf8ByteSize_takeBytes_le _ _

/-- A text that begins with something that is not blank is not blank. -/
theorem isBlank_append_left {left : String} (right : String) (said : isBlank left = false) :
    isBlank (left ++ right) = false := by
  unfold isBlank at said ⊢
  rw [String.toList_append, List.all_append, said, Bool.false_and]

end Protocol
end YunXi
