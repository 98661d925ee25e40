import YunXi.Program.Checked
import YunXi.Protocol.Authority

/-!
# Results of MCP servers

A tool descriptor, a list of tools and the result of a call are values that passed their
checks: names and descriptions are bounded texts without control characters, a schema is an
object, names do not repeat.
-/

namespace YunXi
namespace Protocol

def mcpProtocolVersion : String := "2024-11-05"
def maxServerNameBytes : Nat := 64
def maxMcpToolNameBytes : Nat := 256
def maxDescriptionBytes : Nat := 4096
def maxMcpToolSchemaBytes : Nat := 256 * 1024
def maxTools : Nat := 64
def maxMcpResultBytes : Nat := 1024 * 1024

/-- The fields that are checked. -/
inductive McpField
  | serverName
  | toolName
  | toolDescription
  | toolSchema
  | toolResult
  deriving DecidableEq, Repr

def McpField.text : McpField → String
  | serverName => "MCP server name"
  | toolName => "MCP tool name"
  | toolDescription => "MCP tool description"
  | toolSchema => "MCP tool schema"
  | toolResult => "MCP tool result"

/-- `McpProtocolError`, as far as the checks of results return it. -/
inductive McpProtocolError
  | emptyField (field : McpField)
  | fieldTooLong (field : McpField) (length maximum : Nat)
  | controlCharacter (field : McpField)
  | invalidNameStart (field : McpField) (value : String)
  | invalidNameCharacter (index : Nat) (character : Char)
  | schemaMustBeObject
  | tooManyTools (count maximum : Nat)
  | duplicateTool (name : String)
  | valueTooLarge (field : McpField) (size maximum : Nat)
  deriving DecidableEq, Repr

/-- `fmt::Display for McpProtocolError`. -/
def McpProtocolError.display : McpProtocolError → String
  | emptyField field => field.text ++ " cannot be empty"
  | fieldTooLong field length maximum =>
      field.text ++ " is " ++ toString length ++ " bytes; maximum is " ++ toString maximum
  | controlCharacter field => field.text ++ " contains a control character"
  | invalidNameStart field value =>
      field.text ++ " `" ++ value ++ "` must start with a lowercase ASCII letter"
  | invalidNameCharacter index character =>
      "MCP server name contains unsupported character `" ++ String.ofList [character] ++
        "` at byte " ++ toString index
  | schemaMustBeObject => "MCP tool schema must be an object"
  | tooManyTools count maximum =>
      "MCP tool list contains " ++ toString count ++ " tools; maximum is " ++
        toString maximum
  | duplicateTool name => "MCP tool list repeats `" ++ name ++ "`"
  | valueTooLarge field size maximum =>
      field.text ++ " is " ++ toString size ++ " bytes; maximum is " ++ toString maximum

/-- `validate_text`. -/
def validateMcpText (field : McpField) (value : String) (maximum : Nat)
    (requireLowercaseStart : Bool) : Except McpProtocolError Unit := do
  refuseIf (isBlank value) (.emptyField field)
  refuseIf (value.utf8ByteSize > maximum) (.fieldTooLong field value.utf8ByteSize maximum)
  refuseIf (value.toList.any isControlCharacter) (.controlCharacter field)
  refuseIf (requireLowercaseStart ∧ ¬ value.toList.head?.any isAsciiLowercase)
    (.invalidNameStart field value)

/-- Characters of a server name. -/
def serverNameCharacter (character : Char) : Bool :=
  isAsciiLowercase character || isAsciiDigit character || character == '-' || character == '_'

/-- `validate_server_name`. -/
def validateServerName (value : String) : Except McpProtocolError Unit := do
  validateMcpText .serverName value maxServerNameBytes true
  match firstRejected serverNameCharacter 0 value.toList with
  | some (index, character) => .error (.invalidNameCharacter index character)
  | none => .ok ()

/-- `validate_value_size`; a value can always be written. -/
def validateValueSize (value : Value) (maximum : Nat) (field : McpField) :
    Except McpProtocolError Unit :=
  refuseIf (value.encodedSize > maximum) (.valueTooLarge field value.encodedSize maximum)

/-- `McpToolDescriptor::validate`. -/
def validateDescriptor (name description : String) (inputSchema : Value) :
    Except McpProtocolError Unit := do
  validateMcpText .toolName name maxMcpToolNameBytes false
  validateMcpText .toolDescription description maxDescriptionBytes false
  refuseIf (¬ inputSchema.isObject) .schemaMustBeObject
  validateValueSize inputSchema maxMcpToolSchemaBytes .toolSchema

structure McpToolDescriptor where
  name : String
  description : String
  inputSchema : Value
  valid : validateDescriptor name description inputSchema = .ok ()

def McpToolDescriptor.new (name description : String) (inputSchema : Value) :
    Except McpProtocolError McpToolDescriptor :=
  construct (validateDescriptor name description inputSchema) fun valid =>
    ⟨name, description, inputSchema, valid⟩

/-- Refuse the first name that repeats; every descriptor passes its own check. -/
def validateDistinctTools : List String → List McpToolDescriptor → Except McpProtocolError Unit
  | _, [] => .ok ()
  | seen, tool :: rest => do
      refuseIf (tool.name ∈ seen) (.duplicateTool tool.name)
      validateDistinctTools (tool.name :: seen) rest

/-- `McpToolListResult::validate`. -/
def validateToolList (serverName : String) (tools : List McpToolDescriptor) :
    Except McpProtocolError Unit := do
  validateServerName serverName
  refuseIf (tools.length > maxTools) (.tooManyTools tools.length maxTools)
  validateDistinctTools [] tools

structure McpToolListResult where
  serverName : String
  tools : List McpToolDescriptor
  truncated : Bool
  valid : validateToolList serverName tools = .ok ()

def McpToolListResult.new (serverName : String) (tools : List McpToolDescriptor)
    (truncated : Bool) : Except McpProtocolError McpToolListResult :=
  construct (validateToolList serverName tools) fun valid =>
    ⟨serverName, tools, truncated, valid⟩

/-- `McpToolCallResult::validate`. -/
def validateCallResult (serverName toolName : String) (output : Value) :
    Except McpProtocolError Unit := do
  validateServerName serverName
  validateMcpText .toolName toolName maxMcpToolNameBytes false
  validateValueSize output maxMcpResultBytes .toolResult

structure McpToolCallResult where
  serverName : String
  toolName : String
  output : Value
  isError : Bool
  valid : validateCallResult serverName toolName output = .ok ()

def McpToolCallResult.new (serverName toolName : String) (output : Value) (isError : Bool) :
    Except McpProtocolError McpToolCallResult :=
  construct (validateCallResult serverName toolName output) fun valid =>
    ⟨serverName, toolName, output, isError, valid⟩

end Protocol
end YunXi
