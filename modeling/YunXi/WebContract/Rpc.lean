import YunXi.Program.Checked
import YunXi.Protocol.JsonAccess

/-!
# RPC messages between browser and host

Every message carries the checks of its fields, so a request or a response that exists is
within the bounds of the contract.  The bounds are on the written JSON in bytes.
-/

namespace YunXi
namespace WebContract

open Protocol (Value)

def maxRpcIdBytes : Nat := 128
def maxMethodBytes : Nat := 128
def maxErrorMessageBytes : Nat := 4 * 1024
def maxPayloadBytes : Nat := 256 * 1024
def maxDetailsBytes : Nat := 32 * 1024
def maxFrameBytes : Nat := 512 * 1024

inductive WebContractError
  | emptyField (field : String)
  | fieldTooLong (field : String) (length maximum : Nat)
  | invalidField (field : String)
  | jsonTooLarge (field : String) (length maximum : Nat)
  | frameTooLarge (length maximum : Nat)
  | invalidMessage (message : String)
  deriving DecidableEq, Repr

/-- Characters of a token: printable ASCII without white space. -/
def tokenCharacter (character : Char) : Bool :=
  32 < character.toNat && character.toNat < 127

/-- `validate_token`. -/
def validateToken (field value : String) (maximum : Nat) : Except WebContractError Unit := do
  refuseIf (value = "") (.emptyField field)
  refuseIf (value.utf8ByteSize > maximum) (.fieldTooLong field value.utf8ByteSize maximum)
  refuseIf (¬ value.toList.all tokenCharacter) (.invalidField field)

/-- `validate_json`. -/
def validateJson (field : String) (value : Value) (maximum : Nat) :
    Except WebContractError Unit :=
  refuseIf (value.encodedSize > maximum) (.jsonTooLarge field value.encodedSize maximum)

def validateMethod (method : String) : Except WebContractError Unit :=
  validateToken "method" method maxMethodBytes

def validatePayload (payload : Value) : Except WebContractError Unit :=
  validateJson "payload" payload maxPayloadBytes

theorem validateToken_eq_ok {field value : String} {maximum : Nat} :
    validateToken field value maximum = .ok () ↔
      value ≠ "" ∧ value.utf8ByteSize ≤ maximum ∧ value.toList.all tokenCharacter = true := by
  unfold validateToken
  simp

theorem validateJson_eq_ok {field : String} {value : Value} {maximum : Nat} :
    validateJson field value maximum = .ok () ↔ value.encodedSize ≤ maximum := by
  unfold validateJson
  simp

theorem validatePayload_eq_ok {payload : Value} :
    validatePayload payload = .ok () ↔ payload.encodedSize ≤ maxPayloadBytes :=
  validateJson_eq_ok

structure RpcId where
  text : String
  valid : validateToken "rpcId" text maxRpcIdBytes = .ok ()
  deriving DecidableEq

/-- `RpcId::new`. -/
def RpcId.new (text : String) : Except WebContractError RpcId :=
  construct (validateToken "rpcId" text maxRpcIdBytes) fun valid => ⟨text, valid⟩

theorem all_tokenCharacter_toString (number : Nat) :
    (toString number).toList.all tokenCharacter = true := by
  rw [List.all_eq_true]
  intro character member
  rw [Nat.toString_eq_repr, Nat.toList_repr] at member
  have digit := Nat.isDigit_of_mem_toDigits (by decide) (by decide) member
  unfold tokenCharacter
  simp only [Char.isDigit, Bool.and_eq_true, decide_eq_true_eq] at digit
  have low : 48 ≤ character.toNat := digit.1
  have high : character.toNat ≤ 57 := digit.2
  simp only [Bool.and_eq_true, decide_eq_true_eq]
  omega

theorem utf8Size_of_tokenCharacter {character : Char}
    (token : tokenCharacter character = true) : character.utf8Size = 1 := by
  unfold tokenCharacter at token
  simp only [Bool.and_eq_true, decide_eq_true_eq] at token
  rw [Char.utf8Size_eq_one_iff, UInt32.le_iff_toNat_le]
  have code : character.val.toNat < 127 := token.2
  exact Nat.le_of_lt code

theorem utf8ByteSize_of_token {text : String}
    (token : text.toList.all tokenCharacter = true) :
    text.utf8ByteSize = text.toList.length := by
  rw [← Value.textSize_toList, Value.textSize]
  rw [List.all_eq_true] at token
  rw [List.map_congr_left fun character member =>
    utf8Size_of_tokenCharacter (token character member)]
  simp

/-- A short stem with a machine number is an id. -/
theorem validateToken_numbered {stem : String} (number : UInt64)
    (token : stem.toList.all tokenCharacter = true) (nonempty : stem ≠ "")
    (short : stem.utf8ByteSize ≤ 64) :
    validateToken "rpcId" (stem ++ toString number.toNat) maxRpcIdBytes = .ok () := by
  have digits : (toString number.toNat).toList.length ≤ 20 := by
    rw [Nat.toString_eq_repr, String.length_toList, Nat.length_repr_le_iff (by decide)]
    exact number.toNat_lt.trans (by decide)
  have numberSize := utf8ByteSize_of_token (all_tokenCharacter_toString number.toNat)
  refine validateToken_eq_ok.mpr ⟨?_, ?_, ?_⟩
  · simp [nonempty]
  · rw [String.utf8ByteSize_append, numberSize]
    unfold maxRpcIdBytes
    omega
  · rw [String.toList_append, List.all_append, token, all_tokenCharacter_toString]
    rfl

/-- The checks of `RpcError::new`. -/
def validateError (code message : String) (details : Value) : Except WebContractError Unit := do
  validateToken "error code" code maxMethodBytes
  refuseIf (Protocol.isBlank message) (.emptyField "error message")
  refuseIf (message.utf8ByteSize > maxErrorMessageBytes)
    (.fieldTooLong "error message" message.utf8ByteSize maxErrorMessageBytes)
  validateJson "error details" details maxDetailsBytes
  refuseIf (!details.isObject) (.invalidMessage "error details must be a JSON object")

structure RpcError where
  code : String
  message : String
  details : Value
  valid : validateError code message details = .ok ()

/-- `RpcError::new`. -/
def RpcError.new (code message : String) (details : Value) : Except WebContractError RpcError :=
  construct (validateError code message details) fun valid => ⟨code, message, details, valid⟩

inductive RpcResult
  | success (value : Value)
  | failure (error : RpcError)

namespace RpcResult

def value? : RpcResult → Option Value
  | success value => some value
  | failure _ => none

/-- `validate_result`. -/
def validate : RpcResult → Except WebContractError Unit
  | success value => validatePayload value
  | failure error => do
      validateToken "error code" error.code maxMethodBytes
      validateJson "error details" error.details maxDetailsBytes

/-- An error that was built is within the bounds. -/
theorem validate_failure (error : RpcError) : (failure error).validate = .ok () := by
  have valid := error.valid
  unfold validateError at valid
  simp only [Except.bind_eq_ok, refuseIf_eq_ok] at valid
  obtain ⟨_, code, -, -, -, -, _, details, -⟩ := valid
  exact Except.bind_eq_ok.mpr ⟨(), code, details⟩

end RpcResult

structure ClientRequest where
  rpcId : RpcId
  method : String
  payload : Value
  validMethod : validateMethod method = .ok ()
  validPayload : validatePayload payload = .ok ()

structure ServerRequest where
  rpcId : RpcId
  method : String
  payload : Value
  validMethod : validateMethod method = .ok ()
  validPayload : validatePayload payload = .ok ()

structure ServerResponse where
  rpcId : RpcId
  result : RpcResult
  valid : result.validate = .ok ()

structure ClientResponse where
  rpcId : RpcId
  result : RpcResult
  valid : result.validate = .ok ()

/-- `ServerRequest::new` with a method that is a token. -/
def ServerRequest.new (rpcId : RpcId) (method : String) (payload : Value)
    (validMethod : validateMethod method = .ok ()) : Except WebContractError ServerRequest :=
  construct (validatePayload payload) fun validPayload =>
    ⟨rpcId, method, payload, validMethod, validPayload⟩

/-- `ServerResponse::new`. -/
def ServerResponse.new (rpcId : RpcId) (result : RpcResult) :
    Except WebContractError ServerResponse :=
  construct result.validate fun valid => ⟨rpcId, result, valid⟩

inductive EventChannel
  | mux
  | host
  deriving DecidableEq, Repr

def eventsMuxMethod : String := "events.mux"
def eventsHostMethod : String := "events.host"

def EventChannel.method : EventChannel → String
  | mux => eventsMuxMethod
  | host => eventsHostMethod

theorem EventChannel.validMethod (channel : EventChannel) :
    validateMethod channel.method = .ok () := by
  cases channel <;> exact validateToken_eq_ok.mpr (by decide)

/-- `event_message`. -/
def eventMessage (channel : EventChannel) (rpcId : RpcId) (payload : Value) :
    Except WebContractError ServerRequest :=
  ServerRequest.new rpcId channel.method payload channel.validMethod

/-- The JSON form of an event. -/
def ServerRequest.toJson (request : ServerRequest) : Value :=
  .object [
    ("type", .string "server-request"),
    ("rpcId", .string request.rpcId.text),
    ("method", .string request.method),
    ("payload", request.payload)]

/-- `RpcMessage::encode` of an event, by the size of what it writes. -/
def ServerRequest.encode (request : ServerRequest) : Except WebContractError Nat := do
  refuseIf (request.toJson.encodedSize > maxFrameBytes)
    (.frameTooLarge request.toJson.encodedSize maxFrameBytes)
  return request.toJson.encodedSize

end WebContract
end YunXi
