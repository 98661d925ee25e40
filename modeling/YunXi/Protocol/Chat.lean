import YunXi.Protocol.ToolCalls

/-!
# Chat messages and the JSON form of wire values

The serialized forms follow the `serde` attributes of the source: optional
message fields are skipped when absent, and tagged enumerations put their tag
beside their fields.
-/

namespace YunXi
namespace Protocol

inductive ChatRole
  | system
  | user
  | assistant
  | tool
  deriving DecidableEq, Repr

structure ChatMessage where
  role : ChatRole
  content : String
  toolCallId : Option ToolCallId
  toolName : Option ToolName
  toolCalls : List ToolCall

namespace ChatMessage

def new (role : ChatRole) (content : String) : ChatMessage :=
  ⟨role, content, none, none, []⟩

def user (content : String) : ChatMessage := new .user content

def assistant (content : String) : ChatMessage := new .assistant content

def assistantToolCalls (toolCalls : List ToolCall) : ChatMessage :=
  ⟨.assistant, "", none, none, toolCalls⟩

def toolResult (callId : ToolCallId) (toolName : ToolName) (content : String) :
    ChatMessage :=
  ⟨.tool, content, some callId, some toolName, []⟩

end ChatMessage

structure ChatRequest where
  messages : List ChatMessage
  tools : Option ToolCatalog

structure ChatResult where
  content : String
  finishReason : Option String
  toolCalls : List ToolCall

namespace ChatResult

def new (content : String) (finishReason : Option String) : ChatResult :=
  ⟨content, finishReason, []⟩

def withToolCalls (result : ChatResult) (toolCalls : List ToolCall) : ChatResult :=
  { result with toolCalls }

end ChatResult

def ChatRole.toJson : ChatRole → Value
  | system => .string "system"
  | user => .string "user"
  | assistant => .string "assistant"
  | tool => .string "tool"

def ToolCall.toJson (call : ToolCall) : Value :=
  .object [("id", .string call.id.text), ("name", .string call.name.text),
    ("arguments", call.arguments)]

/-- A member that is skipped when its value is absent. -/
def optionalMember (key : String) (value : Option Value) : List (String × Value) :=
  (value.map fun present => (key, present)).toList

/-- The tool-call member, skipped when the list is empty. -/
def toolCallsMember (toolCalls : List ToolCall) : List (String × Value) :=
  if toolCalls.isEmpty then []
  else [("tool_calls", .array (toolCalls.map ToolCall.toJson))]

def ChatMessage.toJson (message : ChatMessage) : Value :=
  .object ([("role", message.role.toJson), ("content", .string message.content)] ++
    optionalMember "tool_call_id" (message.toolCallId.map fun id => .string id.text) ++
    optionalMember "tool_name" (message.toolName.map fun name => .string name.text) ++
    toolCallsMember message.toolCalls)

def ChatResult.toJson (result : ChatResult) : Value :=
  .object ([("content", .string result.content),
    ("finish_reason", match result.finishReason with
      | some reason => .string reason
      | none => .null)] ++ toolCallsMember result.toolCalls)

def ToolCallBatch.toJson (batch : ToolCallBatch) : Value :=
  .object [("protocol_version", .ofNat batch.protocolVersion),
    ("round", .ofNat batch.round),
    ("calls", .array (batch.calls.map ToolCall.toJson))]

def ToolResultOutcome.toJson : ToolResultOutcome → Value
  | completed output => .object [("status", .string "completed"), ("output", output)]
  | failed code message retryable =>
      .object [("status", .string "failed"), ("code", .string code),
        ("message", .string message), ("retryable", .bool retryable)]
  | rejected code message =>
      .object [("status", .string "rejected"), ("code", .string code),
        ("message", .string message)]
  | cancelled reason =>
      .object [("status", .string "cancelled"), ("reason", .string reason)]

def ToolResult.toJson (result : ToolResult) : Value :=
  .object [("protocol_version", .ofNat result.protocolVersion),
    ("round", .ofNat result.round), ("call_id", .string result.callId.text),
    ("tool_name", .string result.toolName.text), ("outcome", result.outcome.toJson)]

def ToolApprovalRequest.toJson (request : ToolApprovalRequest) : Value :=
  .object [("protocol_version", .ofNat request.protocolVersion),
    ("round", .ofNat request.round), ("call_id", .string request.callId.text),
    ("tool_name", .string request.toolName.text),
    ("summary", .string request.summary),
    ("requested_grants",
      .array (request.requestedGrants.map fun grant => .string grant.name))]

def ToolApprovalState.toJson : ToolApprovalState → Value
  | approved ticket =>
      .object [("decision", .string "approved"), ("ticket", .string ticket)]
  | denied reason =>
      .object [("decision", .string "denied"), ("reason", .string reason)]

def ToolApprovalDecision.toJson (decision : ToolApprovalDecision) : Value :=
  .object [("protocol_version", .ofNat decision.protocolVersion),
    ("round", .ofNat decision.round), ("call_id", .string decision.callId.text),
    ("tool_name", .string decision.toolName.text), ("state", decision.state.toJson)]

example : (ChatMessage.user "hello").toJson.toText =
    "\x7b\"role\":\"user\",\"content\":\"hello\"\x7d" := by decide

end Protocol
end YunXi
