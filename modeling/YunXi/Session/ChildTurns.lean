import YunXi.MultiAgent.Wire
import YunXi.Program.Fallible
import YunXi.Session.Plugins
import YunXi.Session.ToolActions

/-!
# Turns of delegated agents

The host runs the turn of a child agent.  It asks the coordinator to start the turn, runs
the child's model in a host of its own, and tells the coordinator how the turn ended.  A
turn the coordinator has started leaves its agent running until one of these reports is
accepted, so every way out of the turn has to make one.
-/

namespace YunXi
namespace Session

open MultiAgent
open Protocol (ChatMessage ChatRequest ChatResult ToolResultOutcome Value takeBytes isBlank)

variable {κ : Type}

/-- The coordinator behind the host, with the operations a child turn invokes. -/
structure Coordinator (κ : Type) where
  spawn : AgentSpawnRequest → Fallible κ PluginCallError AgentSpawnResult
  startTurn : AgentTurnStartRequest → Fallible κ PluginCallError AgentTurnStartResult
  completeTurn : AgentTurnCompleteRequest → Fallible κ PluginCallError AgentMutationResult
  failTurn : AgentTurnFailRequest → Fallible κ PluginCallError AgentMutationResult

/-- How the child's model ends in its own host. -/
inductive ChildModelRun
  | unavailable (error : String)
  | failed (error : PluginCallError)
  | replied (result : ChatResult)

/-- The child's model, with the host that is launched for it and shut down after it. -/
abbrev ChildModel := ChatRequest → ChildModelRun

/-- The fields of `SpineToolBroker` that delegated turns use, with the state of the
coordinator behind its host. -/
structure SpineToolBroker (κ : Type) where
  host : κ
  cwd : String
  agentSessionId : String
  agentBudget : AgentBudget
  multiAgentCapability : Bool
  notices : List String

structure ChildTurnError where
  code : String
  message : String
  deriving DecidableEq, Repr

namespace ChildTurnError

/-- The message as far as it fits, without NUL characters. -/
def bounded (message : String) : String :=
  String.ofList (takeBytes 3000
    (Strings.replaceCharacter (Char.ofNat 0) ' ' message).toList)

/-- `ChildTurnError::new`. -/
def new (code message : String) : ChildTurnError where
  code := code
  message :=
    if isBlank (bounded message) then "isolated child model turn failed"
    else bounded message

end ChildTurnError

/-- The instructions of every child agent. -/
def childInstructions : String :=
  "You are an isolated YunXi child agent. Complete only the delegated task. You have no " ++
  "inherited tools, workspace access, or channel authority. Return a concrete result and " ++
  "do not claim actions you could not perform."

/-- The messages the child's model is asked with. -/
def childMessages (transcript : List AgentTranscriptEntry) : List ChatMessage :=
  .new .system childInstructions :: transcript.map fun entry =>
    match entry.role with
    | .user => .user entry.content
    | .assistant => .assistant entry.content

/-- `run_isolated_child_model`. -/
def runIsolatedChildModel (childModel : ChildModel) (transcript : List AgentTranscriptEntry) :
    Except ChildTurnError String :=
  match childModel ⟨childMessages transcript, none⟩ with
  | .unavailable error => .error (.new "child_model_unavailable" error)
  | .failed error => .error (.new "child_model_failed" error.display)
  | .replied result =>
      if result.toolCalls.isEmpty = false then
        .error (.new "child_tools_not_allowed"
          "isolated child model returned tool calls without receiving a tool catalog")
      else if isBlank result.content then
        .error (.new "child_empty_response"
          "isolated child model returned an empty response")
      else .ok result.content

namespace SpineToolBroker

variable (broker : SpineToolBroker κ)

/-- `ProcessPluginHostHandle::invoke`. -/
def invoke {α : Type} (call : Fallible κ PluginCallError α) :
    Except PluginCallError α × SpineToolBroker κ :=
  ((call.exec broker.host).1, { broker with host := (call.exec broker.host).2 })

/-- `notice`. -/
def notice (message : String) : SpineToolBroker κ :=
  { broker with notices := broker.notices ++ [message] }

/-- Give up the coordinator when a call has lost the route to it. -/
def loseRoute (error : PluginCallError) : SpineToolBroker κ :=
  { broker with
    multiAgentCapability := broker.multiAgentCapability && !callLostRoute error }

/-- `plugin_error_outcome` for the calls of the agent tools. -/
def pluginErrorOutcome (toolName : String)
    (error : PluginCallError) : ToolResultOutcome × SpineToolBroker κ :=
  let report := fun (code message : String) (retryable : Bool) (broker : SpineToolBroker κ) =>
    (failedOutcome code message retryable,
      broker.notice ("model tool `" ++ toolName ++ "` failed: " ++ code ++ ": " ++ message))
  match error with
  | .rejected _ code message retryable => report code message retryable broker
  | other => report "multi_agent_unavailable" other.display false (broker.loseRoute other)

/-- `agent_delegation_grant`. -/
def agentDelegationGrant (ticket : String) :
    Except AgentProtocolError AgentDelegationGrant :=
  AgentDelegationGrant.new broker.cwd broker.agentSessionId ticket broker.agentBudget

section Turn

variable (coordinator : Coordinator κ)

/-- `report_child_agent_failure`. -/
def reportChildAgentFailure (broker : SpineToolBroker κ) (grant : AgentDelegationGrant)
    (agentId : String) (failure : ChildTurnError) : SpineToolBroker κ :=
  match AgentTurnFailRequest.new grant agentId failure.code failure.message with
  | .error error =>
      broker.notice
        ("failed to encode child agent failure for `" ++ agentId ++ "`: " ++ error.display)
  | .ok request =>
      match broker.invoke (coordinator.failTurn request) with
      | (.ok _, broker) => broker
      | (.error error, broker) =>
          (broker.loseRoute error).notice
            ("failed to persist child agent `" ++ agentId ++ "` failure: " ++ error.display)

/-- The result of a completed child turn. -/
def childTurnOutcome (result : AgentMutationResult) (reply : String) : ToolResultOutcome :=
  serializedOutcome
    (.object [
      ("agent", match result.agents with
        | [] => .null
        | agent :: _ => agent.toJson),
      ("events", .array (result.events.map AgentEvent.toJson)),
      ("reply", .string reply)])
    "multi-agent completion returned invalid data"

variable (childModel : ChildModel)

/-- `execute_child_agent_turn` once the turn has started. -/
def finishChildAgentTurn (broker : SpineToolBroker κ) (grant : AgentDelegationGrant)
    (agentId toolName : String) (started : AgentTurnStartResult) :
    ToolResultOutcome × SpineToolBroker κ :=
  match runIsolatedChildModel childModel started.transcript with
  | .error error =>
      (failedOutcome error.code error.message false,
        broker.reportChildAgentFailure coordinator grant agentId error)
  | .ok reply =>
      match AgentTurnCompleteRequest.new grant agentId reply with
      | .error error =>
          let failure := ChildTurnError.new "child_reply_invalid" error.display
          (failedOutcome failure.code failure.message false,
            broker.reportChildAgentFailure coordinator grant agentId failure)
      | .ok complete =>
          match broker.invoke (coordinator.completeTurn complete) with
          | (.ok result, broker) => (childTurnOutcome result reply, broker)
          -- this way out reports nothing to the coordinator
          | (.error error, broker) => broker.pluginErrorOutcome toolName error

/-- `execute_child_agent_turn`. -/
def executeChildAgentTurn (broker : SpineToolBroker κ) (grant : AgentDelegationGrant)
    (agentId message toolName : String) : ToolResultOutcome × SpineToolBroker κ :=
  match AgentTurnStartRequest.new grant agentId message with
  | .error error => (failedOutcome "invalid_agent_request" error.display false, broker)
  | .ok start =>
      match broker.invoke (coordinator.startTurn start) with
      | (.error error, broker) => broker.pluginErrorOutcome toolName error
      | (.ok started, broker) =>
          broker.finishChildAgentTurn coordinator childModel grant agentId toolName started

/-- The request of an `agent.spawn` call. -/
def spawnRequest (grant : AgentDelegationGrant) (task : String)
    (name parentId : Option String) : Except AgentProtocolError AgentSpawnRequest := do
  let request ← AgentSpawnRequest.new grant task
  let request ← match name with
    | some name => request.withName name
    | none => pure request
  match parentId with
  | some parentId => request.withParent parentId
  | none => pure request

/-- The outcome of a call when there is no coordinator. -/
def multiAgentUnavailable : ToolResultOutcome :=
  failedOutcome "multi_agent_unavailable"
    "multi-agent capability is disabled or unavailable" false

/-- `execute_agent_spawn`. -/
def executeAgentSpawn (broker : SpineToolBroker κ) (task : String)
    (name parentId : Option String) (ticket : String) :
    ToolResultOutcome × SpineToolBroker κ :=
  if broker.multiAgentCapability = false then (multiAgentUnavailable, broker)
  else
    match broker.agentDelegationGrant ticket with
    | .error error => (failedOutcome "invalid_agent_grant" error.display false, broker)
    | .ok grant =>
        match spawnRequest grant task name parentId with
        | .error error => (failedOutcome "invalid_agent_request" error.display false, broker)
        | .ok request =>
            match broker.invoke (coordinator.spawn request) with
            | (.error error, broker) => broker.pluginErrorOutcome agentSpawnToolName error
            | (.ok spawned, broker) =>
                broker.executeChildAgentTurn coordinator childModel grant spawned.agent.id
                  task agentSpawnToolName

/-- `execute_agent_message`. -/
def executeAgentMessage (broker : SpineToolBroker κ) (agentId message ticket : String) :
    ToolResultOutcome × SpineToolBroker κ :=
  if broker.multiAgentCapability = false then (multiAgentUnavailable, broker)
  else
    match broker.agentDelegationGrant ticket with
    | .error error => (failedOutcome "invalid_agent_grant" error.display false, broker)
    | .ok grant =>
        broker.executeChildAgentTurn coordinator childModel grant agentId message
          agentMessageToolName

end Turn

end SpineToolBroker

/-- The two calls that delegate a turn. -/
inductive DelegatingCall
  | agentSpawn (task : String) (name parentId : Option String)
  | agentMessage (agentId message : String)
  deriving DecidableEq, Repr

/-- `execute_action` for these calls. -/
def SpineToolBroker.executeDelegating (coordinator : Coordinator κ) (childModel : ChildModel)
    (broker : SpineToolBroker κ) (ticket : String) :
    DelegatingCall → ToolResultOutcome × SpineToolBroker κ
  | .agentSpawn task name parentId =>
      broker.executeAgentSpawn coordinator childModel task name parentId ticket
  | .agentMessage agentId message =>
      broker.executeAgentMessage coordinator childModel agentId message ticket

end Session
end YunXi
