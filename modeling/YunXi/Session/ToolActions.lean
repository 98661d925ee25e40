import YunXi.MultiAgent.Contract
import YunXi.Protocol.Chat
import YunXi.Protocol.JsonAccess

/-!
# Tools of the model

The tools the model is offered, what a call of one asks for, and the decoding that refuses
every call whose arguments are not exactly what its tool takes.
-/

namespace YunXi
namespace Session

open Protocol

def shellToolName : String := "shell.execute"
def patchToolName : String := "patch.apply"
def fileSearchToolName : String := "file.search"
def fileReadToolName : String := "file.read"
def agentSpawnToolName : String := "agent.spawn"
def agentListToolName : String := "agent.list"
def agentMessageToolName : String := "agent.message"
def agentInterruptToolName : String := "agent.interrupt"

def maxShellArgumentBytes : Nat := 64 * 1024
def maxPatchArgumentBytes : Nat := 2 * 1024 * 1024
def defaultModelToolTimeoutMillis : Nat := 120000
def maxModelToolTimeoutMillis : Nat := 120000

/-- `McpToolBinding`, whose definition was checked when it was bound. -/
structure McpToolBinding where
  modelName : ToolName
  serverName : String
  remoteName : String
  description : String
  inputSchema : Value
  valid : validateDefinition description inputSchema = .ok ()

/-- `SkillToolBinding`, whose definition was checked when it was bound. -/
structure SkillToolBinding where
  modelName : ToolName
  skillId : String
  remoteName : String
  description : String
  inputSchema : Value
  valid : validateDefinition description inputSchema = .ok ()

/-- The definition the model is offered for a binding. -/
def McpToolBinding.definition (binding : McpToolBinding) : ToolDefinition :=
  ⟨binding.modelName, binding.description, binding.inputSchema, binding.valid⟩

/-- The definition the model is offered for a binding. -/
def SkillToolBinding.definition (binding : SkillToolBinding) : ToolDefinition :=
  ⟨binding.modelName, binding.description, binding.inputSchema, binding.valid⟩

inductive ToolAction
  | shell (command : String) (timeoutMillis : Nat)
  | patch (patch : String) (timeoutMillis : Nat)
  | fileSearch (query path : String)
  | fileRead (path : String)
  | agentSpawn (task : String) (name parentId : Option String)
  | agentList
  | agentMessage (agentId message : String)
  | agentInterrupt (agentId : String) (recursive : Bool)
  | mcp (binding : McpToolBinding) (arguments : Value)
  | skill (binding : SkillToolBinding) (arguments : Value)

/-- `true` or `false`, as Rust prints them. -/
def displayBool (value : Bool) : String :=
  if value then "true" else "false"

/-- `ToolAction::summary`. -/
def ToolAction.summary : ToolAction → String
  | shell command timeoutMillis =>
      "command: " ++ command ++ " (timeout: " ++ toString timeoutMillis ++ " ms)"
  | .patch text timeoutMillis =>
      "patch bytes: " ++ toString text.utf8ByteSize ++ " (timeout: " ++
        toString timeoutMillis ++ " ms)"
  | fileSearch query path => "query: " ++ query ++ " (root: " ++ path ++ ")"
  | fileRead path => "path: " ++ path
  | agentSpawn task name parentId =>
      "task: " ++ toString task.utf8ByteSize ++ " bytes | name: " ++
        name.getD "automatic" ++ " | parent: " ++ parentId.getD MultiAgent.rootAgentId
  | agentList => "list delegated agents"
  | agentMessage agentId message =>
      "agent: " ++ agentId ++ " | message: " ++ toString message.utf8ByteSize ++ " bytes"
  | agentInterrupt agentId recursive =>
      "agent: " ++ agentId ++ " | recursive: " ++ displayBool recursive
  | mcp binding arguments =>
      "server: " ++ binding.serverName ++ " | tool: " ++ binding.remoteName ++
        " | arguments: " ++ toString arguments.encodedSize ++ " bytes"
  | skill binding arguments =>
      "skill: " ++ binding.skillId ++ " | tool: " ++ binding.remoteName ++
        " | arguments: " ++ toString arguments.encodedSize ++ " bytes"

theorem ToolAction.summary_shell (command : String) (timeoutMillis : Nat) :
    (shell command timeoutMillis).summary =
      "command: " ++ command ++ " (timeout: " ++ toString timeoutMillis ++ " ms)" :=
  rfl

theorem ToolAction.summary_patch (text : String) (timeoutMillis : Nat) :
    (ToolAction.patch text timeoutMillis).summary =
      "patch bytes: " ++ toString text.utf8ByteSize ++ " (timeout: " ++
        toString timeoutMillis ++ " ms)" :=
  rfl

theorem ToolAction.summary_agentSpawn (task : String) (name parentId : Option String) :
    (agentSpawn task name parentId).summary =
      "task: " ++ toString task.utf8ByteSize ++ " bytes | name: " ++
        name.getD "automatic" ++ " | parent: " ++ parentId.getD MultiAgent.rootAgentId :=
  rfl

theorem ToolAction.summary_agentMessage (agentId message : String) :
    (agentMessage agentId message).summary =
      "agent: " ++ agentId ++ " | message: " ++ toString message.utf8ByteSize ++ " bytes" :=
  rfl

theorem ToolAction.summary_mcp (binding : McpToolBinding) (arguments : Value) :
    (mcp binding arguments).summary =
      "server: " ++ binding.serverName ++ " | tool: " ++ binding.remoteName ++
        " | arguments: " ++ toString arguments.encodedSize ++ " bytes" :=
  rfl

/-- `requires_approval`. -/
def requiresApproval : ToolAction → Bool
  | .shell .. | .patch .. | .mcp .. | .agentSpawn .. | .agentMessage .. => true
  | .fileSearch .. | .fileRead .. | .agentList | .agentInterrupt .. | .skill .. => false

/-- `ToolCallError`, as far as decoding returns it. -/
inductive ToolCallError
  | unsupportedTool (name : String)
  | argumentsMustBeObject
  | missingArgument (field : String)
  | argumentMustBeText (field : String)
  | argumentMustBeBoolean (field : String)
  | argumentEmpty (field : String)
  | argumentTooLong (field : String) (length maximum : Nat)
  | timeoutMustBeInteger
  | timeoutOutOfRange (value maximum : Nat)
  deriving DecidableEq, Repr

/-- `fmt::Display for ToolCallError`. -/
def ToolCallError.display : ToolCallError → String
  | unsupportedTool name => "unsupported model tool `" ++ name ++ "`"
  | argumentsMustBeObject => "model tool arguments must be a JSON object"
  | missingArgument field => "tool argument `" ++ field ++ "` is missing"
  | argumentMustBeText field => "tool argument `" ++ field ++ "` must be text"
  | argumentMustBeBoolean field => "tool argument `" ++ field ++ "` must be a boolean"
  | argumentEmpty field => "tool argument `" ++ field ++ "` cannot be empty"
  | argumentTooLong field length maximum =>
      "tool argument `" ++ field ++ "` is " ++ toString length ++ " bytes; maximum is " ++
        toString maximum
  | timeoutMustBeInteger => "tool argument `timeout_millis` must be an integer"
  | timeoutOutOfRange value maximum =>
      "tool argument `timeout_millis` value " ++ toString value ++ " is outside 1..=" ++
        toString maximum

variable (object : List (String × Value))

/-- `required_text`. -/
def requiredText (field : String) (maximum : Nat) :
    Except ToolCallError String :=
  match object.lookup field with
  | none => .error (.missingArgument field)
  | some value =>
      match value.asStr with
      | none => .error (.argumentMustBeText field)
      | some text =>
          if isBlank text then .error (.argumentEmpty field)
          else if maximum < text.utf8ByteSize then
            .error (.argumentTooLong field text.utf8ByteSize maximum)
          else .ok text

/-- `optional_text`. -/
def optionalText (field : String) (maximum : Nat) :
    Except ToolCallError (Option String) :=
  match object.lookup field with
  | none => .ok none
  | some _ => (requiredText object field maximum).map some

/-- `optional_bool`. -/
def optionalBool (field : String) :
    Except ToolCallError (Option Bool) :=
  match object.lookup field with
  | none => .ok none
  | some value =>
      match value.asBool with
      | none => .error (.argumentMustBeBoolean field)
      | some flag => .ok (some flag)

/-- `optional_timeout`. -/
def optionalTimeout : Except ToolCallError Nat :=
  match object.lookup "timeout_millis" with
  | none => .ok defaultModelToolTimeoutMillis
  | some value =>
      match value.asU64 with
      | none => .error .timeoutMustBeInteger
      | some timeout =>
          if timeout = 0 ∨ maxModelToolTimeoutMillis < timeout then
            .error (.timeoutOutOfRange timeout maxModelToolTimeoutMillis)
          else .ok timeout

/-- `decode_call_with_skills`. -/
def decodeCallWithSkills (call : ToolCall) (multiAgentEnabled : Bool)
    (mcpTools : List McpToolBinding) (skillTools : List SkillToolBinding) :
    Except ToolCallError ToolAction :=
  match call.arguments.asObject with
  | none => .error .argumentsMustBeObject
  | some object =>
      let name := call.name.text
      if name = shellToolName then do
        let command ← requiredText object "command" maxShellArgumentBytes
        let timeout ← optionalTimeout object
        return .shell command timeout
      else if name = patchToolName then do
        let patch ← requiredText object "patch" maxPatchArgumentBytes
        let timeout ← optionalTimeout object
        return .patch patch timeout
      else if name = fileSearchToolName then do
        let query ← requiredText object "query" 256
        let path ← optionalText object "path" 1024
        return .fileSearch query (path.getD ".")
      else if name = fileReadToolName then do
        let path ← requiredText object "path" 1024
        return .fileRead path
      else if name = agentSpawnToolName ∧ multiAgentEnabled then do
        let task ← requiredText object "task" MultiAgent.maxAgentMessageBytes
        let childName ← optionalText object "name" 64
        let parentId ← optionalText object "parent_id" 128
        return .agentSpawn task childName parentId
      else if name = agentListToolName ∧ multiAgentEnabled then
        .ok .agentList
      else if name = agentMessageToolName ∧ multiAgentEnabled then do
        let agentId ← requiredText object "agent_id" 128
        let message ← requiredText object "message" MultiAgent.maxAgentMessageBytes
        return .agentMessage agentId message
      else if name = agentInterruptToolName ∧ multiAgentEnabled then do
        let agentId ← requiredText object "agent_id" 128
        let recursive ← optionalBool object "recursive"
        return .agentInterrupt agentId (recursive.getD true)
      else
        match mcpTools.find? (·.modelName.text == name) with
        | some binding => .ok (.mcp binding call.arguments)
        | none =>
            match skillTools.find? (·.modelName.text == name) with
            | some binding => .ok (.skill binding call.arguments)
            | none => .error (.unsupportedTool name)

/-- `tool_result_message`. -/
def toolResultMessage (call : ToolCall) (outcome : ToolResultOutcome) : ChatMessage :=
  .toolResult call.id call.name outcome.toJson.toText

/-- A definition whose name and description the source writes out. -/
def builtinDefinition (name : ToolName) (description : String) (properties : List (String × Value))
    (required : List String)
    (valid : validateDefinition description (.object (
      [("additionalProperties", .bool false), ("properties", .object properties)] ++
      (if required.isEmpty then [] else
        [("required", .array (required.map .string))]) ++
      [("type", .string "object")])) = .ok ()) : ToolDefinition :=
  ⟨name, description, _, valid⟩

/-- A text argument of a bounded length. -/
def textProperty (maximum : Nat) : Value :=
  .object [("maxLength", .ofNat maximum), ("type", .string "string")]

/-- The timeout argument. -/
def timeoutProperty : Value :=
  .object [("maximum", .ofNat maxModelToolTimeoutMillis), ("minimum", .ofNat 1),
    ("type", .string "integer")]

def shellDefinition : ToolDefinition :=
  builtinDefinition ⟨shellToolName, by decide⟩
    "Execute one bounded shell command after explicit user approval."
    [("command", textProperty maxShellArgumentBytes), ("timeout_millis", timeoutProperty)]
    ["command"] (by decide +kernel)

def patchDefinition : ToolDefinition :=
  builtinDefinition ⟨patchToolName, by decide⟩
    "Apply a bounded workspace patch after explicit user approval."
    [("patch", textProperty maxPatchArgumentBytes), ("timeout_millis", timeoutProperty)]
    ["patch"] (by decide +kernel)

def fileSearchDefinition : ToolDefinition :=
  builtinDefinition ⟨fileSearchToolName, by decide⟩
    "Search file and directory names inside the granted workspace."
    [("path", textProperty 1024), ("query", textProperty 256)]
    ["query"] (by decide +kernel)

def fileReadDefinition : ToolDefinition :=
  builtinDefinition ⟨fileReadToolName, by decide⟩
    "Read a bounded UTF-8 text file inside the granted workspace."
    [("path", textProperty 1024)]
    ["path"] (by decide +kernel)

def agentSpawnDefinition : ToolDefinition :=
  builtinDefinition ⟨agentSpawnToolName, by decide⟩
    "Start one isolated child model branch after explicit user approval."
    [("name", textProperty 64), ("parent_id", textProperty 128),
      ("task", textProperty MultiAgent.maxAgentMessageBytes)]
    ["task"] (by decide +kernel)

def agentListDefinition : ToolDefinition :=
  builtinDefinition ⟨agentListToolName, by decide⟩
    "List delegated child branches, budgets, and recent lifecycle events."
    [] [] (by decide)

def agentMessageDefinition : ToolDefinition :=
  builtinDefinition ⟨agentMessageToolName, by decide⟩
    "Send another message to an existing child model branch after approval."
    [("agent_id", textProperty 128),
      ("message", textProperty MultiAgent.maxAgentMessageBytes)]
    ["agent_id", "message"] (by decide +kernel)

def agentInterruptDefinition : ToolDefinition :=
  builtinDefinition ⟨agentInterruptToolName, by decide⟩
    "Interrupt one child branch and optionally propagate cancellation to descendants."
    [("agent_id", textProperty 128), ("recursive", .object [("type", .string "boolean")])]
    ["agent_id"] (by decide +kernel)

/-- The definitions of `catalog_with_skills`. -/
def catalogDefinitions (shellEnabled patchEnabled filesEnabled multiAgentEnabled : Bool)
    (mcpTools : List McpToolBinding) (skillTools : List SkillToolBinding) :
    List ToolDefinition :=
  ((if shellEnabled then [shellDefinition] else []) ++
    (if patchEnabled then [patchDefinition] else []) ++
    (if filesEnabled then [fileSearchDefinition, fileReadDefinition] else []) ++
    (if multiAgentEnabled then [agentSpawnDefinition, agentListDefinition,
      agentMessageDefinition, agentInterruptDefinition] else []) ++
    mcpTools.map McpToolBinding.definition ++
    skillTools.map SkillToolBinding.definition).take maxToolDefinitions

/-- The capabilities of a session that its model tools use.  The names of its tools are
distinct whatever is switched off; the source asserts this whenever it builds a catalog. -/
structure Capabilities where
  shell : Bool
  patch : Bool
  files : Bool
  mcp : Bool
  multiAgent : Bool
  mcpTools : List McpToolBinding
  skillTools : List SkillToolBinding
  mcpNetworkGrant : Bool
  mcpSecretGrant : Bool
  distinct : ∀ shell patch files multiAgent,
    validateCatalog toolProtocolVersion
      (catalogDefinitions shell patch files multiAgent mcpTools skillTools) = .ok ()

namespace Capabilities

variable (capabilities : Capabilities)

/-- `decode_call_with_skills` with the capabilities of a session. -/
def decode (call : ToolCall) : Except ToolCallError ToolAction :=
  decodeCallWithSkills call capabilities.multiAgent capabilities.mcpTools
    capabilities.skillTools

/-- The definitions the model is offered. -/
def definitions : List ToolDefinition :=
  catalogDefinitions capabilities.shell capabilities.patch capabilities.files
    capabilities.multiAgent capabilities.mcpTools capabilities.skillTools

/-- `catalog_with_skills`. -/
def catalog : Option ToolCatalog :=
  if capabilities.definitions.isEmpty then none
  else some ⟨toolProtocolVersion, capabilities.definitions, capabilities.distinct _ _ _ _⟩

/-- `requested_grants`. -/
def requestedGrants : ToolAction → List GrantKind
  | .shell .. => [.approval, .workspaceRead]
  | .patch .. => [.approval, .workspaceRead, .workspaceWrite]
  | .mcp .. =>
      [.approval] ++ (if capabilities.mcpNetworkGrant then [.network] else []) ++
        if capabilities.mcpSecretGrant then [.secret] else []
  | .agentSpawn .. | .agentMessage .. =>
      [.approval, .workspaceRead, .workspaceWrite, .agentDelegation]
  | .fileSearch .. | .fileRead .. | .agentList | .agentInterrupt .. | .skill .. => []

end Capabilities

end Session
end YunXi
