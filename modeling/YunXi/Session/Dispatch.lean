import YunXi.Protocol.Mcp
import YunXi.Session.ChildTurns
import YunXi.ToolFiles.Read
import YunXi.ToolFiles.Search
import YunXi.ToolPatch.Apply

/-!
# Dispatch of tool actions

An action of the model is put to the plugin of its tool, and what the plugin returns is serialized
as the outcome of the call.  Results stand in the order of their keys, as a JSON object has them.
-/

namespace YunXi
namespace Session

open MultiAgent
open Protocol
open ToolFiles (FileReadResult FileSearchMatch FileSearchResult)
open ToolPatch (ActionGrant ActionGrantError PatchChangeKind PatchFileChange PathBuf WorkspaceGrant)

variable {κ : Type}

structure ShellExecuteResult where
  exitCode : Option Int
  stdout : String
  stderr : String
  timedOut : Bool
  outputTruncated : Bool
  deriving DecidableEq, Repr

def exitCodeToJson : Option Int → Value
  | none => .null
  | some code => .number (toString code)

def ShellExecuteResult.toJson (result : ShellExecuteResult) : Value :=
  .object [
    ("exit_code", exitCodeToJson result.exitCode),
    ("output_truncated", .bool result.outputTruncated),
    ("stderr", .string result.stderr),
    ("stdout", .string result.stdout),
    ("timed_out", .bool result.timedOut)]

structure PatchApplyResult where
  changes : List PatchFileChange
  deriving DecidableEq, Repr

def patchChangeKindToJson : PatchChangeKind → Value
  | .added => .string "added"
  | .updated => .string "updated"
  | .deleted => .string "deleted"

def patchFileChangeToJson (change : PatchFileChange) : Value :=
  .object [
    ("added_lines", .ofNat change.addedLines),
    ("kind", patchChangeKindToJson change.kind),
    ("path", .string change.path),
    ("removed_lines", .ofNat change.removedLines)]

def PatchApplyResult.toJson (result : PatchApplyResult) : Value :=
  .object [("changes", .array (result.changes.map patchFileChangeToJson))]

def fileSearchMatchToJson (found : FileSearchMatch) : Value :=
  .object [("is_directory", .bool found.isDirectory), ("path", .string found.path)]

def fileSearchResultToJson (result : FileSearchResult) : Value :=
  .object [
    ("matches", .array (result.results.map fileSearchMatchToJson)),
    ("truncated", .bool result.truncated)]

def fileReadResultToJson (result : FileReadResult) : Value :=
  .object [
    ("bytes", .ofNat result.bytes),
    ("content", .string result.content),
    ("path", .string result.path),
    ("truncated", .bool result.truncated)]

def mcpToolCallResultToJson (result : McpToolCallResult) : Value :=
  .object [
    ("is_error", .bool result.isError),
    ("output", result.output),
    ("server_name", .string result.serverName),
    ("tool_name", .string result.toolName)]

def agentBudgetToJson (budget : AgentBudget) : Value :=
  .object [
    ("max_agents", .ofNat budget.maxAgents),
    ("max_depth", .ofNat budget.maxDepth),
    ("max_total_turns", .ofNat budget.maxTotalTurns),
    ("max_turns_per_agent", .ofNat budget.maxTurnsPerAgent)]

def agentListResultToJson (result : AgentListResult) : Value :=
  .object [
    ("agents", .array (result.agents.map AgentSnapshot.toJson)),
    ("budget", agentBudgetToJson result.budget),
    ("events", .array (result.events.map AgentEvent.toJson)),
    ("total_turns", .ofNat result.totalTurns),
    ("truncated", .bool result.truncated)]

def agentMutationResultToJson (result : AgentMutationResult) : Value :=
  .object [
    ("agents", .array (result.agents.map AgentSnapshot.toJson)),
    ("events", .array (result.events.map AgentEvent.toJson))]

/-- `fmt::Display for ActionGrantError`. -/
def displayActionGrantError : ActionGrantError → String
  | .emptyWorkspaceRoot => "workspace root cannot be empty"
  | .emptyWorkingDirectory => "working directory cannot be empty"
  | .approvalRequired => "explicit action approval is required"
  | .emptyApprovalTicket => "approval ticket cannot be empty"
  | .invalidTimeout value maximum =>
      "action timeout " ++ toString value ++ " ms is outside 1..=" ++ toString maximum
  | .invalidOutputLimit value maximum =>
      "action output limit " ++ toString value ++ " bytes is outside 1..=" ++ toString maximum
  | .workspaceWriteNotGranted => "workspace write permission was not granted"
  | .invalidNetworkGrant message => "network grant is invalid: " ++ message
  | .invalidSecretGrant message => "secret grant is invalid: " ++ message
  | .networkGrantNotEnabled => "network scope was supplied without network permission"

/-- `ActionGrant::approved` with its limits. -/
def approvedGrant (workspace : WorkspaceGrant) (workingDirectory : PathBuf) (ticket : String)
    (timeoutMillis maxOutputBytes : Nat) : ActionGrant where
  workspace := workspace
  workingDirectory := workingDirectory
  approval := .approved ticket
  allowWrite := false
  allowNetwork := false
  networkIsEmpty := true
  networkCheck := .ok ()
  secretCheck := .ok ()
  timeoutMillis := timeoutMillis
  maxOutputBytes := maxOutputBytes

/-- `WorkspaceGrant::read_only`. -/
def readOnly (root : PathBuf) : WorkspaceGrant := ⟨root, true, false⟩

/-- `MAX_ARGUMENT_BYTES` of MCP calls. -/
def maxMcpArgumentBytes : Nat := 256 * 1024

/-- `McpProtocolError`, as far as the check of a request returns it. -/
inductive McpRequestError
  | invalidGrant (error : ActionGrantError)
  | invalidName (error : McpProtocolError)
  | argumentsTooLarge (size maximum : Nat)
  deriving DecidableEq, Repr

def McpRequestError.display : McpRequestError → String
  | invalidGrant error => "MCP action grant is invalid: " ++ displayActionGrantError error
  | invalidName error => error.display
  | argumentsTooLarge size maximum =>
      "MCP tool arguments is " ++ toString size ++ " bytes; maximum is " ++ toString maximum

structure McpToolCallRequest where
  grant : ActionGrant
  serverName : String
  toolName : String
  arguments : Value

/-- `McpToolCallRequest::validate`. -/
def McpToolCallRequest.validate (request : McpToolCallRequest) : Except McpRequestError Unit := do
  request.grant.validate.mapError .invalidGrant
  (validateServerName request.serverName).mapError .invalidName
  (validateMcpText .toolName request.toolName maxMcpToolNameBytes false).mapError .invalidName
  refuseIf (request.arguments.encodedSize > maxMcpArgumentBytes)
    (.argumentsTooLarge request.arguments.encodedSize maxMcpArgumentBytes)

/-- `AgentInterruptRequest::new`. -/
def newInterruptRequest (grant : AgentDelegationGrant) (agentId : String) (recursive : Bool) :
    Except AgentProtocolError AgentInterruptRequest :=
  checked AgentInterruptRequest.validate ⟨grant, agentId, recursive⟩

/-- The plugins behind the host, with the operations that tools of the model invoke.  The files
plugin is asked for a path in the working directory. -/
structure ToolPlugins (κ : Type) where
  shell : ActionGrant → (command : String) → Fallible κ PluginCallError ShellExecuteResult
  patch : ActionGrant → (patch : String) → Fallible κ PluginCallError PatchApplyResult
  searchFiles : WorkspaceGrant → (path query : String) →
    Fallible κ PluginCallError FileSearchResult
  readFile : WorkspaceGrant → (path : String) → Fallible κ PluginCallError FileReadResult
  callMcp : McpToolCallRequest → Fallible κ PluginCallError McpToolCallResult
  coordinator : Coordinator κ
  listAgents : AgentDelegationGrant → Fallible κ PluginCallError AgentListResult
  interruptAgent : AgentInterruptRequest → Fallible κ PluginCallError AgentMutationResult

/-- A network grant: whether it is empty, and what its own validation says. -/
structure CheckedNetworkGrant where
  isEmpty : Bool
  check : Except String Unit

/-- The fields of `SpineToolBroker` that all its tools use. -/
structure ToolBroker (κ : Type) extends SpineToolBroker κ where
  shellCapability : Bool
  patchCapability : Bool
  filesCapability : Bool
  mcpCapability : Bool
  mcpTools : List McpToolBinding
  mcpNetworkGrant : Option CheckedNetworkGrant
  mcpSecretCheck : Except String Unit

namespace ToolBroker

/-- `notice`. -/
def notice (broker : ToolBroker κ) (message : String) : ToolBroker κ :=
  { broker with notices := broker.notices ++ [message] }

/-- `plugin_error_outcome`. -/
def pluginErrorOutcome (broker : ToolBroker κ) (toolName : String) (error : PluginCallError)
    (fallbackCode : String) (disable : ToolBroker κ → ToolBroker κ) :
    ToolResultOutcome × ToolBroker κ :=
  let report := fun (code message : String) (retryable : Bool) (broker : ToolBroker κ) =>
    (failedOutcome code message retryable,
      broker.notice ("model tool `" ++ toolName ++ "` failed: " ++ code ++ ": " ++ message))
  match error with
  | .rejected _ code message retryable => report code message retryable broker
  | other =>
      report fallbackCode other.display false
        (if callLostRoute other then disable broker else broker)

/-- A call of a plugin, with the outcome its result is serialized to. -/
def callPlugin {α : Type} (broker : ToolBroker κ) (call : Fallible κ PluginCallError α)
    (toJson : α → Value) (invalidMessage toolName fallbackCode : String)
    (disable : ToolBroker κ → ToolBroker κ) : ToolResultOutcome × ToolBroker κ :=
  let answered := { broker with host := (call.exec broker.host).2 }
  match (call.exec broker.host).1 with
  | .ok result => (serializedOutcome (toJson result) invalidMessage, answered)
  | .error error => answered.pluginErrorOutcome toolName error fallbackCode disable

section Tools

variable (plugins : ToolPlugins κ)

variable (broker : ToolBroker κ)

def shellGrant (timeoutMillis : Nat) (ticket : String) : ActionGrant :=
  approvedGrant (readOnly ⟨broker.cwd⟩) ⟨broker.cwd⟩ ticket timeoutMillis (64 * 1024)

/-- `execute_shell`. -/
def executeShell (command : String) (timeoutMillis : Nat)
    (ticket : String) : ToolResultOutcome × ToolBroker κ :=
  if broker.shellCapability = false then
    (failedOutcome "tool_unavailable" "shell capability is disabled or unavailable" false, broker)
  else
    broker.callPlugin (plugins.shell (broker.shellGrant timeoutMillis ticket) command)
      ShellExecuteResult.toJson "shell returned an invalid result" shellToolName
      "tool_unavailable" fun broker => { broker with shellCapability := false }

def patchGrant (timeoutMillis : Nat) (ticket : String) : ActionGrant :=
  { approvedGrant ⟨⟨broker.cwd⟩, true, true⟩ ⟨broker.cwd⟩ ticket timeoutMillis (64 * 1024) with
    allowWrite := true }

/-- `execute_patch`. -/
def executePatch (patch : String) (timeoutMillis : Nat)
    (ticket : String) : ToolResultOutcome × ToolBroker κ :=
  if broker.patchCapability = false then
    (failedOutcome "tool_unavailable" "patch capability is disabled or unavailable" false, broker)
  else
    broker.callPlugin (plugins.patch (broker.patchGrant timeoutMillis ticket) patch)
      PatchApplyResult.toJson "patch returned an invalid result" patchToolName
      "tool_unavailable" fun broker => { broker with patchCapability := false }

/-- The outcome of a call when there is no files plugin. -/
def filesUnavailable : ToolResultOutcome :=
  failedOutcome "file_tool_unavailable" "file capability is disabled or unavailable" false

/-- `execute_file_search`. -/
def executeFileSearch (query path : String) :
    ToolResultOutcome × ToolBroker κ :=
  if broker.filesCapability = false then (filesUnavailable, broker)
  else
    broker.callPlugin (plugins.searchFiles (readOnly ⟨broker.cwd⟩) path query)
      fileSearchResultToJson "file search returned an invalid result" fileSearchToolName
      "file_tool_unavailable" fun broker => { broker with filesCapability := false }

/-- `execute_file_read`. -/
def executeFileRead (path : String) :
    ToolResultOutcome × ToolBroker κ :=
  if broker.filesCapability = false then (filesUnavailable, broker)
  else
    broker.callPlugin (plugins.readFile (readOnly ⟨broker.cwd⟩) path)
      fileReadResultToJson "file read returned an invalid result" fileReadToolName
      "file_tool_unavailable" fun broker => { broker with filesCapability := false }

def mcpGrant (ticket : String) : ActionGrant :=
  let grant := approvedGrant (readOnly ⟨broker.cwd⟩) ⟨broker.cwd⟩ ticket
    defaultModelToolTimeoutMillis (1024 * 1024)
  let grant := match broker.mcpNetworkGrant with
    | some network => { grant with
        allowNetwork := !network.isEmpty
        networkIsEmpty := network.isEmpty
        networkCheck := network.check }
    | none => grant
  { grant with secretCheck := broker.mcpSecretCheck }

/-- `execute_mcp`. -/
def executeMcp (binding : McpToolBinding) (arguments : Value)
    (ticket : String) : ToolResultOutcome × ToolBroker κ :=
  if broker.mcpCapability = false then
    (failedOutcome "mcp_unavailable" "MCP capability is disabled or unavailable" false, broker)
  else
    let request : McpToolCallRequest :=
      ⟨broker.mcpGrant ticket, binding.serverName, binding.remoteName, arguments⟩
    match request.validate with
    | .error error => (completedRejection "invalid_mcp_request" error.display, broker)
    | .ok _ =>
        broker.callPlugin (plugins.callMcp request) mcpToolCallResultToJson
          "MCP returned an invalid result" binding.modelName.text "mcp_unavailable"
          fun broker => { broker with mcpCapability := false, mcpTools := [] }

/-- Give up the coordinator. -/
def withoutAgents : ToolBroker κ :=
  { broker with multiAgentCapability := false }

/-- `execute_agent_list`. -/
def executeAgentList (ticket : String) :
    ToolResultOutcome × ToolBroker κ :=
  if broker.multiAgentCapability = false then
    (SpineToolBroker.multiAgentUnavailable, broker)
  else
    match broker.agentDelegationGrant ticket with
    | .error error => (failedOutcome "invalid_agent_grant" error.display false, broker)
    | .ok grant =>
        broker.callPlugin (plugins.listAgents grant) agentListResultToJson
          "multi-agent list returned invalid data" agentListToolName "multi_agent_unavailable"
          withoutAgents

/-- `execute_agent_interrupt`. -/
def executeAgentInterrupt (agentId : String) (recursive : Bool)
    (ticket : String) : ToolResultOutcome × ToolBroker κ :=
  if broker.multiAgentCapability = false then
    (SpineToolBroker.multiAgentUnavailable, broker)
  else
    match broker.agentDelegationGrant ticket with
    | .error error => (failedOutcome "invalid_agent_grant" error.display false, broker)
    | .ok grant =>
        match newInterruptRequest grant agentId recursive with
        | .error error => (failedOutcome "invalid_agent_request" error.display false, broker)
        | .ok request =>
            broker.callPlugin (plugins.interruptAgent request) agentMutationResultToJson
              "multi-agent interrupt returned invalid data" agentInterruptToolName
              "multi_agent_unavailable" withoutAgents

/-- The calls that delegate a turn, on the fields that they use. -/
def executeDelegating (broker : ToolBroker κ) (childModel : ChildModel) (ticket : String)
    (call : DelegatingCall) : ToolResultOutcome × ToolBroker κ :=
  let ended := broker.toSpineToolBroker.executeDelegating plugins.coordinator childModel ticket call
  (ended.1, { broker with toSpineToolBroker := ended.2 })

/-- A tool of a skill is only metadata. -/
def skillUnavailable (binding : SkillToolBinding) : ToolResultOutcome :=
  completedRejection "skill_tool_unavailable"
    ("Skill `" ++ binding.skillId ++ "` declared tool `" ++ binding.remoteName ++
      "` as metadata only; execution is not enabled")

/-- `execute_action`. -/
def executeAction (childModel : ChildModel) (action : ToolAction)
    (ticket : String) : ToolResultOutcome × ToolBroker κ :=
  match action with
  | .skill binding _ => (skillUnavailable binding, broker)
  | .shell command timeoutMillis => broker.executeShell plugins command timeoutMillis ticket
  | .patch patch timeoutMillis => broker.executePatch plugins patch timeoutMillis ticket
  | .fileSearch query path => broker.executeFileSearch plugins query path
  | .fileRead path => broker.executeFileRead plugins path
  | .mcp binding arguments => broker.executeMcp plugins binding arguments ticket
  | .agentSpawn task name parentId =>
      broker.executeDelegating plugins childModel ticket (.agentSpawn task name parentId)
  | .agentList => broker.executeAgentList plugins ticket
  | .agentMessage agentId message =>
      broker.executeDelegating plugins childModel ticket (.agentMessage agentId message)
  | .agentInterrupt agentId recursive =>
      broker.executeAgentInterrupt plugins agentId recursive ticket

end Tools

end ToolBroker

end Session
end YunXi
