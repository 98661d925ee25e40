import YunXi.Program.Replacing
import YunXi.Protocol.Mcp
import YunXi.Protocol.Serde

/-!
# Messages of MCP servers

Requests and responses are JSON-RPC messages.  A response is taken for a request only if it
carries the id of the request, and secrets are hidden in every text it brings.
-/

namespace YunXi
namespace ToolMcp

open Protocol

def maxMcpFrameBytes : Nat := 1024 * 1024
def initializeMethod : String := "initialize"
def initializedNotification : String := "notifications/initialized"
def toolsListMethod : String := "tools/list"
def toolsCallMethod : String := "tools/call"
def cancelledNotification : String := "notifications/cancelled"

/-- `McpClientError`; errors of libraries are given by their displayed text. -/
inductive McpClientError
  | spawn (command message : String)
  | io (message : String)
  | httpTransport (message : String)
  | httpBodyRead (message : String)
  | httpStatus (status : Nat)
  | httpResponseTooLarge (maximum : Nat)
  | httpConfiguration (message : String)
  | networkDenied (endpoint : String)
  | secretDenied (reference : String)
  | invalidCancellation (message : String)
  | read (message : String)
  | encode (message : String)
  | malformedJson (message : String)
  | invalidResponse (method message : String)
  | unexpectedResponseId (expected : Nat) (received : Option Value)
  | remote (code : Int) (message : String)
  | unknownTool (name : String)
  | timeout (method : String) (timeoutMillis : Nat)
  | childStopped
  | frameTooLarge (size maximum : Nat)

/-- `McpClientError::is_fatal`. -/
def McpClientError.isFatal : McpClientError → Bool
  | spawn .. | io _ | httpTransport _ | httpBodyRead _ | read _ | encode _ | malformedJson _
  | invalidResponse .. | unexpectedResponseId .. | timeout .. | childStopped | frameTooLarge ..
  | httpResponseTooLarge _ => true
  | httpStatus _ | httpConfiguration _ | networkDenied _ | secretDenied _ | invalidCancellation _
  | remote .. | unknownTool _ => false

/-- `fmt::Display for McpClientError`, with the debug text of a response id. -/
def McpClientError.display (debug : Option Value → String) : McpClientError → String
  | spawn command message => "failed to start MCP command `" ++ command ++ "`: " ++ message
  | io message => "MCP stdio I/O failed: " ++ message
  | httpTransport message => "MCP HTTP transport failed: " ++ message
  | httpBodyRead message => "MCP HTTP response read failed: " ++ message
  | httpStatus status => "MCP HTTP endpoint returned status " ++ toString status
  | httpResponseTooLarge maximum => "MCP HTTP response exceeded " ++ toString maximum ++ " bytes"
  | httpConfiguration message => "MCP HTTP configuration is invalid: " ++ message
  | networkDenied endpoint => "MCP network grant does not allow `" ++ endpoint ++ "`"
  | secretDenied reference => "MCP secret grant does not allow `" ++ reference ++ "`"
  | invalidCancellation message => "MCP cancellation is invalid: " ++ message
  | read message => "MCP stdio reader failed: " ++ message
  | encode message => "MCP JSON-RPC encoding failed: " ++ message
  | malformedJson message => "MCP Server returned malformed JSON-RPC: " ++ message
  | invalidResponse method message =>
      "MCP method `" ++ method ++ "` returned an invalid response: " ++ message
  | unexpectedResponseId expected received =>
      "MCP JSON-RPC response id did not match request " ++ toString expected ++ ": " ++
        debug received
  | remote code message =>
      "MCP Server rejected the request (" ++ toString code ++ "): " ++ message
  | unknownTool name => "MCP tool `" ++ name ++ "` was not discovered"
  | timeout method timeoutMillis =>
      "MCP method `" ++ method ++ "` timed out after " ++ toString timeoutMillis ++ " ms"
  | childStopped => "MCP Server stopped before responding"
  | frameTooLarge size maximum =>
      "MCP JSON-RPC frame is " ++ toString size ++ " bytes; maximum is " ++ toString maximum

/-- `JsonRpcRequest`. -/
structure JsonRpcRequest where
  id : Nat
  method : String
  params : Value

def JsonRpcRequest.toJson (request : JsonRpcRequest) : Value :=
  .object [("jsonrpc", .string "2.0"), ("id", .ofNat request.id),
    ("method", .string request.method), ("params", request.params)]

/-- A request as a value, whose members are sorted. -/
def JsonRpcRequest.toValue (request : JsonRpcRequest) : Value :=
  .object [("id", .ofNat request.id), ("jsonrpc", .string "2.0"),
    ("method", .string request.method), ("params", request.params)]

/-- `JsonRpcNotification`. -/
structure JsonRpcNotification where
  method : String
  params : Value

def JsonRpcNotification.toJson (notification : JsonRpcNotification) : Value :=
  .object [("jsonrpc", .string "2.0"), ("method", .string notification.method),
    ("params", notification.params)]

/-- What is read with the JSON library: a value of bytes, or the text of its error; and the
text of the error when a value is not of a type. -/
structure JsonLibrary where
  fromSlice : List UInt8 → Except String Value
  fromValueError : Value → String

/-- A machine integer of 64 bits with a sign. -/
def asI64 : Value → Option Int
  | .number text =>
      match text.toList with
      | '-' :: digits =>
          if digits ≠ [] ∧ digits.all isAsciiDigit ∧ Value.digitsValue digits ≤ 2 ^ 63 then
            some (-(Value.digitsValue digits : Int))
          else none
      | _ => ((Value.number text).asU64.filter (· < 2 ^ 63)).map Int.ofNat
  | _ => none

/-- `JsonRpcError`. -/
structure JsonRpcError where
  code : Int
  message : String
  deriving DecidableEq, Repr

def JsonRpcError.read (value : Value) : Option JsonRpcError := do
  let field ← Value.fields ⟨["code", "message"], 2, false⟩ value
  let code ← (field "code").bind asI64
  let message ← (field "message").bind Value.asStr
  return ⟨code, message⟩

/-- `JsonRpcResponse`. -/
structure JsonRpcResponse where
  jsonrpc : String
  id : Option Value
  result : Option Value
  error : Option JsonRpcError

/-- An `Option` field that holds any value but `null`. -/
def present : Option Value → Option Value
  | none | some .null => none
  | some value => some value

def JsonRpcResponse.read (value : Value) : Option JsonRpcResponse := do
  let field ← Value.fields ⟨["jsonrpc", "id", "result", "error"], 1, false⟩ value
  let jsonrpc ← (field "jsonrpc").bind Value.asStr
  let error ← Value.optional JsonRpcError.read (field "error")
  return ⟨jsonrpc, present (field "id"), present (field "result"), error⟩

/-- `response.id == Some(json!(expected_id))`; integers are printed without a fraction. -/
def isId (expectedId : Nat) : Option Value → Bool
  | some (.number text) => text == toString expectedId
  | _ => false

def redactedText : String := "<redacted>"

/-- `redact_text`. -/
def redactText (redactions : List String) (value : String) : String :=
  String.ofList (Replacing.replaceAll redactedText.toList
    ((redactions.filter (· ≠ "")).map String.toList) value.toList)

mutual

/-- `redact_value`. -/
def redactValue (redactions : List String) : Value → Value
  | .string value => .string (redactText redactions value)
  | .array values => .array (redactItems redactions values)
  | .object values => .object (redactMembers redactions values)
  | .null => .null
  | .bool value => .bool value
  | .number text => .number text

def redactItems (redactions : List String) : List Value → List Value
  | [] => []
  | item :: items => redactValue redactions item :: redactItems redactions items

def redactMembers (redactions : List String) : List (String × Value) → List (String × Value)
  | [] => []
  | (key, value) :: members =>
      (key, redactValue redactions value) :: redactMembers redactions members

end

/-- `validate_response`. -/
def validateResponse (library : JsonLibrary) (redactions : List String) (value : Value)
    (expectedId : Nat) (method : String) : Except McpClientError Value :=
  match JsonRpcResponse.read value with
  | none => .error (.malformedJson (library.fromValueError value))
  | some response =>
      if response.jsonrpc ≠ "2.0" then
        .error (.invalidResponse method "JSON-RPC version must be 2.0")
      else if ¬ isId expectedId response.id then
        .error (.unexpectedResponseId expectedId response.id)
      else
        match response.error with
        | some error => .error (.remote error.code (redactText redactions error.message))
        | none =>
            match response.result with
            | none =>
                .error (.invalidResponse method
                  "JSON-RPC response has neither result nor error")
            | some result =>
                if result.encodedSize > maxMcpResultBytes then
                  .error (.frameTooLarge result.encodedSize maxMcpResultBytes)
                else .ok (redactValue redactions result)

end ToolMcp
end YunXi
