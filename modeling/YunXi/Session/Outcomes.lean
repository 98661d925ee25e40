import YunXi.Protocol.Serde
import YunXi.Session.Dispatch

/-!
# Outcomes of calls that were executed

A plugin bounds what it returns in bytes of text; the outcome of the call is bounded in bytes of
JSON, where characters are escaped and the result has an envelope.  A call whose result no longer
fits was executed and is reported as rejected.
-/

namespace YunXi
namespace Session

open MultiAgent
open Protocol

variable {κ : Type}

/-- A completed outcome that is valid. -/
def Completes (outcome : ToolResultOutcome) : Prop :=
  ∃ value, outcome = .completed value ∧ outcome.validate = .ok ()

theorem validate_completed (value : Value) :
    (ToolResultOutcome.completed value).validate = .ok () ↔
      value.encodedSize ≤ maxToolResultBytes := by
  have step : (ToolResultOutcome.completed value).validate =
      if value.encodedSize > maxToolResultBytes then
        .error (.resultTooLarge value.encodedSize maxToolResultBytes)
      else .ok () := rfl
  rw [step]
  split
  · next large =>
      refine iff_of_false (fun same => ?_) (not_le.mpr large)
      cases same
  · next small => exact iff_of_true rfl (not_lt.mp small)

theorem not_completes_completedRejection (code message : String) :
    ¬ Completes (completedRejection code message) := by
  rintro ⟨value, same, -⟩
  unfold completedRejection at same
  cases built : ToolResultOutcome.newRejected code message with
  | ok outcome =>
      obtain ⟨-, rfl⟩ := build_eq_ok built
      rw [built] at same
      cases same
  | error error =>
      rw [built] at same
      cases same

theorem not_completes_failedOutcome (code message : String) (retryable : Bool) :
    ¬ Completes (failedOutcome code message retryable) := by
  rintro ⟨value, same, -⟩
  unfold failedOutcome at same
  cases built : ToolResultOutcome.newFailed code message retryable with
  | ok outcome =>
      obtain ⟨-, rfl⟩ := build_eq_ok built
      rw [built] at same
      cases same
  | error error =>
      rw [built] at same
      cases same

/-- A result is completed just when its JSON is not too long. -/
theorem completes_serializedOutcome_iff (value : Value) (invalidMessage : String) :
    Completes (serializedOutcome value invalidMessage) ↔
      value.encodedSize ≤ maxToolResultBytes := by
  unfold serializedOutcome
  rw [← validate_completed]
  split
  · next valid => exact iff_of_true ⟨value, rfl, valid⟩ valid
  · next invalid => exact iff_of_false (not_completes_completedRejection _ _) invalid

/-- What the plugins of an executed call returned at the end: a result, or a reply of a child model
that the coordinator is not told since its request does not take it. -/
inductive Answer
  | result (value : Value)
  | refusedReply

/-- An answer that an outcome has room for. -/
def Answer.Fits : Answer → Prop
  | result value => value.encodedSize ≤ maxToolResultBytes
  | refusedReply => False

def childTurnToJson (result : AgentMutationResult) (reply : String) : Value :=
  .object [
    ("agent", match result.agents with
      | [] => .null
      | agent :: _ => agent.toJson),
    ("events", .array (result.events.map AgentEvent.toJson)),
    ("reply", .string reply)]

/-- A turn of a child that was started and whose model replied. -/
inductive TurnAnswers (coordinator : Coordinator κ) (childModel : ChildModel) (host : κ)
    (grant : AgentDelegationGrant) (agentId message : String) : Answer → Prop
  | completed {start : AgentTurnStartRequest} {started : AgentTurnStartResult} {reply : String}
      {complete : AgentTurnCompleteRequest} {result : AgentMutationResult} {middle : κ}
      (isStart : AgentTurnStartRequest.new grant agentId message = .ok start)
      (starts : (coordinator.startTurn start).exec host = (.ok started, middle))
      (replies : runIsolatedChildModel childModel started.transcript = .ok reply)
      (isComplete : AgentTurnCompleteRequest.new grant agentId reply = .ok complete)
      (completes : ((coordinator.completeTurn complete).exec middle).1 = .ok result) :
      TurnAnswers coordinator childModel host grant agentId message
        (.result (childTurnToJson result reply))
  | refused {start : AgentTurnStartRequest} {started : AgentTurnStartResult} {reply : String}
      {error : AgentProtocolError} {middle : κ}
      (isStart : AgentTurnStartRequest.new grant agentId message = .ok start)
      (starts : (coordinator.startTurn start).exec host = (.ok started, middle))
      (replies : runIsolatedChildModel childModel started.transcript = .ok reply)
      (isRefused : AgentTurnCompleteRequest.new grant agentId reply = .error error) :
      TurnAnswers coordinator childModel host grant agentId message .refusedReply

/-- The plugin of an action's tool was there, was called and returned a result. -/
inductive Executes (plugins : ToolPlugins κ) (childModel : ChildModel) (broker : ToolBroker κ)
    (ticket : String) : ToolAction → Answer → Prop
  | shell {command : String} {timeoutMillis : Nat} {result : ShellExecuteResult}
      (available : broker.shellCapability = true)
      (answers : ((plugins.shell (broker.shellGrant timeoutMillis ticket) command).exec
        broker.host).1 = .ok result) :
      Executes plugins childModel broker ticket (.shell command timeoutMillis)
        (.result result.toJson)
  | patch {patch : String} {timeoutMillis : Nat} {result : PatchApplyResult}
      (available : broker.patchCapability = true)
      (answers : ((plugins.patch (broker.patchGrant timeoutMillis ticket) patch).exec
        broker.host).1 = .ok result) :
      Executes plugins childModel broker ticket (.patch patch timeoutMillis)
        (.result result.toJson)
  | fileSearch {query path : String} {result : ToolFiles.FileSearchResult}
      (available : broker.filesCapability = true)
      (answers : ((plugins.searchFiles (readOnly ⟨broker.cwd⟩) path query).exec
        broker.host).1 = .ok result) :
      Executes plugins childModel broker ticket (.fileSearch query path)
        (.result (fileSearchResultToJson result))
  | fileRead {path : String} {result : ToolFiles.FileReadResult}
      (available : broker.filesCapability = true)
      (answers : ((plugins.readFile (readOnly ⟨broker.cwd⟩) path).exec
        broker.host).1 = .ok result) :
      Executes plugins childModel broker ticket (.fileRead path)
        (.result (fileReadResultToJson result))
  | mcp {binding : McpToolBinding} {arguments : Value} {result : McpToolCallResult}
      (available : broker.mcpCapability = true)
      (valid : McpToolCallRequest.validate
        ⟨broker.mcpGrant ticket, binding.serverName, binding.remoteName, arguments⟩ = .ok ())
      (answers : ((plugins.callMcp
        ⟨broker.mcpGrant ticket, binding.serverName, binding.remoteName, arguments⟩).exec
        broker.host).1 = .ok result) :
      Executes plugins childModel broker ticket (.mcp binding arguments)
        (.result (mcpToolCallResultToJson result))
  | agentList {grant : AgentDelegationGrant} {result : AgentListResult}
      (available : broker.multiAgentCapability = true)
      (granted : broker.agentDelegationGrant ticket = .ok grant)
      (answers : ((plugins.listAgents grant).exec broker.host).1 = .ok result) :
      Executes plugins childModel broker ticket .agentList
        (.result (agentListResultToJson result))
  | agentInterrupt {agentId : String} {recursive : Bool} {grant : AgentDelegationGrant}
      {request : AgentInterruptRequest} {result : AgentMutationResult}
      (available : broker.multiAgentCapability = true)
      (granted : broker.agentDelegationGrant ticket = .ok grant)
      (isRequest : newInterruptRequest grant agentId recursive = .ok request)
      (answers : ((plugins.interruptAgent request).exec broker.host).1 = .ok result) :
      Executes plugins childModel broker ticket (.agentInterrupt agentId recursive)
        (.result (agentMutationResultToJson result))
  | agentMessage {agentId message : String} {grant : AgentDelegationGrant} {answer : Answer}
      (available : broker.multiAgentCapability = true)
      (granted : broker.agentDelegationGrant ticket = .ok grant)
      (answers : TurnAnswers plugins.coordinator childModel broker.host grant agentId message
        answer) :
      Executes plugins childModel broker ticket (.agentMessage agentId message) answer
  | agentSpawn {task : String} {name parentId : Option String} {grant : AgentDelegationGrant}
      {request : AgentSpawnRequest} {spawned : AgentSpawnResult} {host : κ} {answer : Answer}
      (available : broker.multiAgentCapability = true)
      (granted : broker.agentDelegationGrant ticket = .ok grant)
      (isRequest : SpineToolBroker.spawnRequest grant task name parentId = .ok request)
      (spawns : (plugins.coordinator.spawn request).exec broker.host = (.ok spawned, host))
      (answers : TurnAnswers plugins.coordinator childModel host grant spawned.agent.id task
        answer) :
      Executes plugins childModel broker ticket (.agentSpawn task name parentId) answer

theorem ToolBroker.callPlugin_of_ok {α : Type} {broker : ToolBroker κ}
    {call : Fallible κ PluginCallError α} {result : α}
    (answers : (call.exec broker.host).1 = .ok result) (toJson : α → Value)
    (invalidMessage toolName fallbackCode : String) (disable : ToolBroker κ → ToolBroker κ) :
    (broker.callPlugin call toJson invalidMessage toolName fallbackCode disable).1 =
      serializedOutcome (toJson result) invalidMessage := by
  unfold callPlugin
  rw [answers]

variable {grant : AgentDelegationGrant}

variable {agentId : String} {answer : Answer}

theorem completes_executeChildAgentTurn_iff {coordinator : Coordinator κ} {childModel : ChildModel}
    {broker : SpineToolBroker κ} {message : String}
    (answers : TurnAnswers coordinator childModel broker.host grant agentId message answer)
    (toolName : String) :
    Completes (broker.executeChildAgentTurn coordinator childModel grant agentId message
      toolName).1 ↔ answer.Fits := by
  cases answers with
  | completed isStart starts replies isComplete completes =>
      unfold SpineToolBroker.executeChildAgentTurn SpineToolBroker.invoke
      rw [isStart]
      dsimp only
      rw [starts]
      dsimp only
      unfold SpineToolBroker.finishChildAgentTurn SpineToolBroker.invoke
      rw [replies]
      dsimp only
      rw [isComplete]
      dsimp only
      rw [completes]
      exact completes_serializedOutcome_iff _ _
  | refused isStart starts replies isRefused =>
      unfold SpineToolBroker.executeChildAgentTurn SpineToolBroker.invoke
      rw [isStart]
      dsimp only
      rw [starts]
      dsimp only
      unfold SpineToolBroker.finishChildAgentTurn
      rw [replies]
      dsimp only
      rw [isRefused]
      exact iff_of_false (not_completes_failedOutcome _ _ _) id

namespace ToolBroker

variable {plugins : ToolPlugins κ} {childModel : ChildModel} {broker : ToolBroker κ}
  {ticket : String}

theorem completes_executeShell_iff {command : String} {timeoutMillis : Nat}
    {result : ShellExecuteResult} (available : broker.shellCapability = true)
    (answers : ((plugins.shell (broker.shellGrant timeoutMillis ticket) command).exec
      broker.host).1 = .ok result) :
    Completes (broker.executeShell plugins command timeoutMillis ticket).1 ↔
      result.toJson.encodedSize ≤ maxToolResultBytes := by
  unfold executeShell
  rw [available, if_neg Bool.noConfusion, callPlugin_of_ok answers]
  exact completes_serializedOutcome_iff _ _

theorem completes_executePatch_iff {patch : String} {timeoutMillis : Nat}
    {result : PatchApplyResult} (available : broker.patchCapability = true)
    (answers : ((plugins.patch (broker.patchGrant timeoutMillis ticket) patch).exec
      broker.host).1 = .ok result) :
    Completes (broker.executePatch plugins patch timeoutMillis ticket).1 ↔
      result.toJson.encodedSize ≤ maxToolResultBytes := by
  unfold executePatch
  rw [available, if_neg Bool.noConfusion, callPlugin_of_ok answers]
  exact completes_serializedOutcome_iff _ _

theorem completes_executeFileSearch_iff {query path : String} {result : ToolFiles.FileSearchResult}
    (available : broker.filesCapability = true)
    (answers : ((plugins.searchFiles (readOnly ⟨broker.cwd⟩) path query).exec
      broker.host).1 = .ok result) :
    Completes (broker.executeFileSearch plugins query path).1 ↔
      (fileSearchResultToJson result).encodedSize ≤ maxToolResultBytes := by
  unfold executeFileSearch
  rw [available, if_neg Bool.noConfusion, callPlugin_of_ok answers]
  exact completes_serializedOutcome_iff _ _

theorem completes_executeFileRead_iff {path : String} {result : ToolFiles.FileReadResult}
    (available : broker.filesCapability = true)
    (answers : ((plugins.readFile (readOnly ⟨broker.cwd⟩) path).exec broker.host).1 =
      .ok result) :
    Completes (broker.executeFileRead plugins path).1 ↔
      (fileReadResultToJson result).encodedSize ≤ maxToolResultBytes := by
  unfold executeFileRead
  rw [available, if_neg Bool.noConfusion, callPlugin_of_ok answers]
  exact completes_serializedOutcome_iff _ _

theorem completes_executeMcp_iff {binding : McpToolBinding} {arguments : Value}
    {result : McpToolCallResult} (available : broker.mcpCapability = true)
    (valid : McpToolCallRequest.validate
      ⟨broker.mcpGrant ticket, binding.serverName, binding.remoteName, arguments⟩ = .ok ())
    (answers : ((plugins.callMcp
      ⟨broker.mcpGrant ticket, binding.serverName, binding.remoteName, arguments⟩).exec
      broker.host).1 = .ok result) :
    Completes (broker.executeMcp plugins binding arguments ticket).1 ↔
      (mcpToolCallResultToJson result).encodedSize ≤ maxToolResultBytes := by
  unfold executeMcp
  dsimp only
  rw [available, if_neg Bool.noConfusion, valid]
  dsimp only
  rw [callPlugin_of_ok answers]
  exact completes_serializedOutcome_iff _ _

theorem completes_executeAgentList_iff {result : AgentListResult}
    (available : broker.multiAgentCapability = true)
    (granted : broker.agentDelegationGrant ticket = .ok grant)
    (answers : ((plugins.listAgents grant).exec broker.host).1 = .ok result) :
    Completes (broker.executeAgentList plugins ticket).1 ↔
      (agentListResultToJson result).encodedSize ≤ maxToolResultBytes := by
  unfold executeAgentList
  rw [available, if_neg Bool.noConfusion, granted]
  dsimp only
  rw [callPlugin_of_ok answers]
  exact completes_serializedOutcome_iff _ _

theorem completes_executeAgentInterrupt_iff {recursive : Bool}
    {request : AgentInterruptRequest} {result : AgentMutationResult}
    (available : broker.multiAgentCapability = true)
    (granted : broker.agentDelegationGrant ticket = .ok grant)
    (isRequest : newInterruptRequest grant agentId recursive = .ok request)
    (answers : ((plugins.interruptAgent request).exec broker.host).1 = .ok result) :
    Completes (broker.executeAgentInterrupt plugins agentId recursive ticket).1 ↔
      (agentMutationResultToJson result).encodedSize ≤ maxToolResultBytes := by
  unfold executeAgentInterrupt
  rw [available, if_neg Bool.noConfusion, granted]
  dsimp only
  rw [isRequest]
  dsimp only
  rw [callPlugin_of_ok answers]
  exact completes_serializedOutcome_iff _ _

theorem completes_agentMessage_iff {message : String}
    (available : broker.multiAgentCapability = true)
    (granted : broker.agentDelegationGrant ticket = .ok grant)
    (answers : TurnAnswers plugins.coordinator childModel broker.host grant agentId message
      answer) :
    Completes (broker.executeDelegating plugins childModel ticket (.agentMessage agentId
      message)).1 ↔ answer.Fits := by
  unfold executeDelegating SpineToolBroker.executeDelegating SpineToolBroker.executeAgentMessage
  dsimp only
  rw [available, if_neg Bool.noConfusion, granted]
  exact completes_executeChildAgentTurn_iff answers _

theorem completes_agentSpawn_iff {task : String} {name parentId : Option String}
    {request : AgentSpawnRequest} {spawned : AgentSpawnResult}
    {host : κ} (available : broker.multiAgentCapability = true)
    (granted : broker.agentDelegationGrant ticket = .ok grant)
    (isRequest : SpineToolBroker.spawnRequest grant task name parentId = .ok request)
    (spawns : (plugins.coordinator.spawn request).exec broker.host = (.ok spawned, host))
    (answers : TurnAnswers plugins.coordinator childModel host grant spawned.agent.id task
      answer) :
    Completes (broker.executeDelegating plugins childModel ticket (.agentSpawn task name
      parentId)).1 ↔ answer.Fits := by
  unfold executeDelegating SpineToolBroker.executeDelegating SpineToolBroker.executeAgentSpawn
  dsimp only
  rw [available, if_neg Bool.noConfusion, granted]
  dsimp only
  rw [isRequest]
  dsimp only
  unfold SpineToolBroker.invoke
  rw [spawns]
  exact completes_executeChildAgentTurn_iff answers _

end ToolBroker

/-- A call that was executed is completed just when there is room for its answer. -/
theorem executeAction_completes_iff (plugins : ToolPlugins κ) (childModel : ChildModel)
    (broker : ToolBroker κ) (ticket : String) (action : ToolAction) (answer : Answer)
    (executes : Executes plugins childModel broker ticket action answer) :
    Completes (broker.executeAction plugins childModel action ticket).1 ↔ answer.Fits := by
  unfold ToolBroker.executeAction
  cases executes with
  | shell available answers => exact ToolBroker.completes_executeShell_iff available answers
  | patch available answers => exact ToolBroker.completes_executePatch_iff available answers
  | fileSearch available answers =>
      exact ToolBroker.completes_executeFileSearch_iff available answers
  | fileRead available answers => exact ToolBroker.completes_executeFileRead_iff available answers
  | mcp available valid answers =>
      exact ToolBroker.completes_executeMcp_iff available valid answers
  | agentList available granted answers =>
      exact ToolBroker.completes_executeAgentList_iff available granted answers
  | agentInterrupt available granted isRequest answers =>
      exact ToolBroker.completes_executeAgentInterrupt_iff available granted isRequest answers
  | agentMessage available granted answers =>
      exact ToolBroker.completes_agentMessage_iff available granted answers
  | agentSpawn available granted isRequest spawns answers =>
      exact ToolBroker.completes_agentSpawn_iff available granted isRequest spawns answers

/-- What the shell plugin can return of a text: an exit code of 32 bits, and both outputs cut. -/
structure ShellExecuteResult.Bounded (result : ShellExecuteResult) : Prop where
  code : ∀ code ∈ result.exitCode, -2 ^ 31 ≤ code ∧ code < 2 ^ 31
  stdout : result.stdout.utf8ByteSize ≤ 64 * 1024
  stderr : result.stderr.utf8ByteSize ≤ 64 * 1024

theorem utf8ByteSize_toString_int_le {code : Int} (low : -2 ^ 31 ≤ code) (high : code < 2 ^ 31) :
    (toString code).utf8ByteSize ≤ 11 := by
  cases code with
  | ofNat value =>
      have natural : (value : Int) < 2 ^ 31 := high
      have small : value < 10 ^ 11 := by omega
      exact Value.utf8ByteSize_toString_le (by decide) small
  | negSucc value =>
      have small : value + 1 < 10 ^ 10 := by omega
      have digits := Value.utf8ByteSize_toString_le (show 0 < 10 by decide) small
      have shape : toString (Int.negSucc value) = "-" ++ toString (value + 1) := rfl
      have sign : "-".utf8ByteSize = 1 := rfl
      rw [shape, String.utf8ByteSize_append, sign]
      omega

/-- Output of a shell always fits, however it has to be escaped. -/
theorem ShellExecuteResult.Bounded.fits {result : ShellExecuteResult} (bounded : result.Bounded) :
    (Answer.result result.toJson).Fits := by
  have code : (exitCodeToJson result.exitCode).encodedSize ≤ 11 := by
    cases isCode : result.exitCode with
    | none => decide
    | some code =>
        obtain ⟨low, high⟩ := bounded.code code isCode
        have digits := utf8ByteSize_toString_int_le low high
        rwa [exitCodeToJson, Value.encodedSize_eq, Value.write, Value.textSize_toList]
  have truncated := Value.encodedSize_bool_le result.outputTruncated
  have timedOut := Value.encodedSize_bool_le result.timedOut
  have stdout := Value.encodedSize_string_le result.stdout
  have stderr := Value.encodedSize_string_le result.stderr
  have keys : "exit_code".utf8ByteSize = 9 ∧ "output_truncated".utf8ByteSize = 16 ∧
      "stderr".utf8ByteSize = 6 ∧ "stdout".utf8ByteSize = 6 ∧ "timed_out".utf8ByteSize = 9 := by
    decide
  have object := Value.encodedSize_object_le [
    ("exit_code", exitCodeToJson result.exitCode),
    ("output_truncated", .bool result.outputTruncated),
    ("stderr", .string result.stderr),
    ("stdout", .string result.stdout),
    ("timed_out", .bool result.timedOut)]
  have inputs := bounded.stdout
  have errors := bounded.stderr
  simp only [List.map_cons, List.map_nil, List.sum_cons, List.sum_nil, Value.memberBound,
    keys] at object
  unfold Answer.Fits ShellExecuteResult.toJson maxToolResultBytes
  omega

/-- Only the MCP plugin is there, and returns a result. -/
def mcpPlugins (result : McpToolCallResult) : ToolPlugins Unit where
  shell := fun _ _ => .ofExcept (.error (.unavailable "yunxi-tool-shell" "not running"))
  patch := fun _ _ => .ofExcept (.error (.unavailable "yunxi-tool-patch" "not running"))
  searchFiles := fun _ _ _ => .ofExcept (.error (.unavailable "yunxi-tool-files" "not running"))
  readFile := fun _ _ => .ofExcept (.error (.unavailable "yunxi-tool-files" "not running"))
  callMcp := fun _ => .ofExcept (.ok result)
  coordinator :=
    { spawn := fun _ => .ofExcept (.error (.unavailable "yunxi-multi-agent" "not running"))
      startTurn := fun _ => .ofExcept (.error (.unavailable "yunxi-multi-agent" "not running"))
      completeTurn := fun _ => .ofExcept (.error (.unavailable "yunxi-multi-agent" "not running"))
      failTurn := fun _ => .ofExcept (.error (.unavailable "yunxi-multi-agent" "not running")) }
  listAgents := fun _ => .ofExcept (.error (.unavailable "yunxi-multi-agent" "not running"))
  interruptAgent := fun _ => .ofExcept (.error (.unavailable "yunxi-multi-agent" "not running"))

def mcpBinding : McpToolBinding :=
  ⟨⟨"mcp.notes.read", by decide⟩, "notes", "read", "Reads the notes.", .object [], by decide⟩

def mcpBroker : ToolBroker Unit where
  host := ()
  cwd := "/work"
  agentSessionId := "session-1"
  agentBudget := ⟨1, 1, 1, 1⟩
  multiAgentCapability := false
  notices := []
  shellCapability := false
  patchCapability := false
  filesCapability := false
  mcpCapability := true
  mcpTools := [mcpBinding]
  mcpNetworkGrant := none
  mcpSecretCheck := .ok ()

theorem validate_mcpRequest : McpToolCallRequest.validate
    ⟨mcpBroker.mcpGrant "ticket-1", mcpBinding.serverName, mcpBinding.remoteName, .object []⟩ =
      .ok () := by
  decide

def shortResult : McpToolCallResult := ⟨"notes", "read", .string "none", false, by decide⟩

theorem executeAction_completes_iff_short :
    Completes (mcpBroker.executeAction (mcpPlugins shortResult) (fun _ => .unavailable "none")
      (.mcp mcpBinding (.object [])) "ticket-1").1 ↔
      (Answer.result (mcpToolCallResultToJson shortResult)).Fits :=
  executeAction_completes_iff (mcpPlugins shortResult) (fun _ => .unavailable "none") mcpBroker
    "ticket-1" (.mcp mcpBinding (.object [])) (.result (mcpToolCallResultToJson shortResult))
    (.mcp rfl validate_mcpRequest rfl)

theorem encodedSize_lt_object {members : List (String × Value)} {member : String × Value}
    (among : member ∈ members) : member.2.encodedSize < (Value.object members).encodedSize := by
  have inside : member.2.encodedSize ≤ Value.textSize (Value.writeMembers members) := by
    induction members with
    | nil => exact absurd among List.not_mem_nil
    | cons first rest ih =>
        obtain ⟨key, value⟩ := first
        cases rest with
        | nil =>
            rw [List.mem_singleton.mp among]
            simp only [Value.writeMembers, Value.textSize_append, Value.textSize_cons,
              Value.encodedSize_eq]
            omega
        | cons second rest =>
            simp only [Value.writeMembers, Value.textSize_append, Value.textSize_cons]
            rcases List.mem_cons.mp among with isFirst | later
            · rw [isFirst, Value.encodedSize_eq]
              dsimp only
              omega
            · have bound := ih later
              omega
  have brace : ('\x7b').utf8Size = 1 := by decide
  rw [Value.encodedSize_eq (.object members), Value.write, Value.textSize_append,
    Value.textSize_cons, brace]
  omega

theorem encodedSize_replicate (count : Nat) :
    (Value.string (String.ofList (List.replicate count 'a'))).encodedSize = count + 2 := by
  have letters : Value.textSize ((List.replicate count 'a').flatMap Value.escapeCharacter) =
      count := by
    induction count with
    | zero => rfl
    | succ count ih =>
        have letter : Value.textSize (Value.escapeCharacter 'a') = 1 := by decide
        rw [List.replicate_succ, List.flatMap_cons, Value.textSize_append, ih,
          letter]
        omega
  have quote : ('\"').utf8Size = 1 := by decide
  rw [Value.encodedSize_eq, Value.write, Value.writeString, String.toList_ofList,
    Value.textSize_append, Value.textSize_cons, letters, Value.textSize_cons, Value.textSize_nil,
    quote]
  omega

theorem validate_fullResult : validateCallResult "notes" "read"
    (.string (String.ofList (List.replicate (maxMcpResultBytes - 2) 'a'))) = .ok () := by
  have size := encodedSize_replicate (maxMcpResultBytes - 2)
  have names : validateServerName "notes" = .ok () := by decide
  have text : validateMcpText .toolName "read" maxMcpToolNameBytes false = .ok () := by decide
  unfold validateCallResult validateValueSize
  rw [names, text, size]
  rfl

/-- As long as an MCP result may be. -/
def fullResult : McpToolCallResult := ⟨"notes", "read", _, false, validate_fullResult⟩

theorem encodedSize_output_lt (result : McpToolCallResult) :
    result.output.encodedSize < (mcpToolCallResultToJson result).encodedSize := by
  have among : ("output", result.output) ∈ [("is_error", Value.bool result.isError),
      ("output", result.output), ("server_name", .string result.serverName),
      ("tool_name", .string result.toolName)] := List.mem_cons_of_mem _ List.mem_cons_self
  exact encodedSize_lt_object among

theorem encodedSize_fullResult : fullResult.output.encodedSize = maxToolResultBytes := by
  have output : fullResult.output =
      .string (String.ofList (List.replicate (maxMcpResultBytes - 2) 'a')) := by
    unfold fullResult
    dsimp only
  rw [output, encodedSize_replicate]
  rfl

/-- A valid result of a tool that was called is reported as rejected. -/
theorem not_completes_fullResult : ¬ ∀ result : McpToolCallResult,
    Completes (mcpBroker.executeAction (mcpPlugins result) (fun _ => .unavailable "none")
      (.mcp mcpBinding (.object [])) "ticket-1").1 := by
  intro all
  have fits := (ToolBroker.completes_executeMcp_iff rfl validate_mcpRequest rfl).mp (all fullResult)
  have larger := encodedSize_output_lt fullResult
  rw [encodedSize_fullResult] at larger
  exact not_lt.mpr fits larger

end Session
end YunXi
