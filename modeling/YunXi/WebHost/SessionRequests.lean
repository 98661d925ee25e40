import YunXi.WebHost.Host

/-!
# Session and child agent requests

Creating a session, paging through its history, prompting it, and looking at the agents it
delegated work to.
-/

namespace YunXi
namespace Web

open Protocol (Value ChatMessage isBlank)
open Settings
open WebContract
open WebGateway

variable {ω σ : Type} (backend : Backend ω σ)

variable (payload : Value)

/-- `dispatch_session_create`. -/
def dispatchSessionCreate : Handler ω σ Value := do
  .throwIf (payload.isObject = false)
    (.failure "invalid-payload" "session.create payload must be an object" (.object []))
  let host ← get
  .throwIf (host.pendingApproval.isSome = true)
    (.failure "agent-busy" "resolve the pending approval before creating another session"
      (.object []))
  match ← useSession (ChatSession.createWebSession backend) with
  | .error error => .ofExcept (sessionFailure none error)
  | .ok session => do
      modify fun host => { host with
        webHistory := []
        webSessionId := some session.id
        pendingApproval := none }
      orFail (publishEvent .host (.object [("blank", .bool true), ("cwd", .string session.cwd),
        ("sessionId", .string session.id), ("type", .string "host/session-added")]))
      orFail (publishEvent .mux (.object [("lastSeq", .number "-1"),
        ("sessionId", .string session.id), ("type", .string "session/subscribed")]))
      return .object [("sessionId", .string session.id)]

def pageValue (page : List Value × Bool) : Value :=
  .object [("events", .array page.1), ("hasMore", .bool page.2)]

/-- `dispatch_session_history`. -/
def dispatchSessionHistory : Handler ω σ Value := do
  let sessionId ← .ofExcept
    (requiredText payload "sessionId" "session.history requires a string sessionId")
  requireFreeFor sessionId
  let page ← .ofExcept (pageRequest "session.history" payload)
  openSession backend sessionId
  let host ← get
  return pageValue (historyPage (backend.nowMillis host.world) host.webHistory page.beforeSeq
    page.maximum)

/-- The checks of `dispatch_session_prompt`: the session and the text. -/
def promptRequest : Except Stop (String × String) := do
  let sessionId ←
    requiredText payload "sessionId" "session.prompt requires a string sessionId"
  match promptText payload with
  | none => invalidPayload "session.prompt requires non-empty text content" "content"
  | some content =>
      let mode := textField payload "mode"
      if mode ≠ some "queue" ∧ mode ≠ some "steer" then
        invalidPayload "session.prompt mode must be queue or steer" "mode"
      else if mode = some "steer" then
        .error (.failure "mode-not-supported"
          "session.prompt steer mode is not enabled by this WebHost"
          (.object [("mode", .string "steer")]))
      else return (sessionId, content)

/-- The end of a prompt, when the session has returned: the answer is kept and published, a
tool call is put to the user, and after a failure the message is taken back. -/
def finishPrompt (sessionId : String) (previousLength : Nat) :
    Except ChatFailure String → Handler ω σ Value
  | .ok reply => do
      modify fun host => { host with webHistory := host.webHistory ++ [.assistant reply] }
      orFail (publishTurnEvents backend previousLength sessionId)
      return acceptedValue
  | .error failure => do
      let host ← get
      if host.session.pending.isSome then do
        orFail (publishTurnEvents backend previousLength sessionId)
        orFail (publishPendingApproval sessionId)
        return acceptedValue
      else do
        modify fun host => { host with webHistory := host.webHistory.take previousLength }
        throw (.failure "model-error" "the model could not complete the prompt"
          (.object [("message", .string (boundedMessage failure.display))]))

/-- The turn a prompt starts, once its session is the current one. -/
def runPrompt (sessionId content : String) : Handler ω σ Value := do
  let before ← get
  modify fun host => { host with webHistory := host.webHistory ++ [.user content] }
  orFail (publishSessionStatus sessionId true)
  let started ← get
  let result ← useSession (ChatSession.complete backend started.webHistory)
  orFail (publishSessionStatus sessionId false)
  finishPrompt backend sessionId before.webHistory.length result

/-- `dispatch_session_prompt`. -/
def dispatchSessionPrompt : Handler ω σ Value := do
  let (sessionId, content) ← .ofExcept (promptRequest payload)
  requireFreeFor sessionId
  openSession backend sessionId
  let host ← get
  .throwIf (host.pendingApproval.isSome = true)
    (.failure "agent-busy" "resolve the pending approval before sending another prompt"
      (.object [("sessionId", .string sessionId)]))
  runPrompt backend sessionId content

/-- `subagent_context`: the root session, the parent agent in it and the agents. -/
def subagentContext (parentSessionId : String) :
    Handler ω σ (Except String (Option (String × String × List MultiAgent.AgentSnapshot))) := do
  let host ← get
  match host.webSessionId with
  | none => return .ok none
  | some rootSessionId =>
      match ← useSession (ChatSession.webAgentGraph backend rootSessionId) with
      | .error error => return .error error
      | .ok agents =>
          if parentSessionId = rootSessionId then
            return .ok (some (rootSessionId, MultiAgent.rootAgentId, agents))
          else if agents.any fun agent => agent.id = parentSessionId then
            return .ok (some (rootSessionId, parentSessionId, agents))
          else return .ok none

def entriesValue (entries : List Value) (parentAvailable : Bool) : Value :=
  .object [("entries", .array entries), ("parentAvailable", .bool parentAvailable)]

/-- The entry of a child in a list of agents. -/
def childEntry (agents : List MultiAgent.AgentSnapshot) (agent : MultiAgent.AgentSnapshot) :
    Value :=
  .object [
    ("activity", .string (if agent.status = .running then "running" else "inactive")),
    ("hasChildren", .bool (agents.any fun child => child.parentId = agent.id)),
    ("id", .string agent.id), ("kind", .string "child"), ("label", .string agent.name),
    ("mode", .string "one-shot")]

/-- `dispatch_subagent_list`. -/
def dispatchSubagentList : Handler ω σ Value := do
  let parentSessionId ← .ofExcept
    (requiredText payload "parentSessionId" "subagent.list requires a string parentSessionId")
  let host ← get
  if backend.multiAgentAvailable host.session.plugins = false then
    return entriesValue [] (host.webSessionId = some parentSessionId)
  else
    match ← subagentContext backend parentSessionId with
    | .error _ =>
        throw (.failure "subagent-parent-unavailable" "the multi-agent catalog is unavailable"
          (.object [("parentSessionId", .string parentSessionId)]))
    | .ok none => return entriesValue [] false
    | .ok (some (_, parentAgentId, agents)) =>
        return entriesValue
          ((agents.filter fun agent => agent.parentId = parentAgentId).map (childEntry agents))
          true

structure ChildRequest where
  parentSessionId : String
  childSessionId : String
  page : PageRequest

/-- The checks of `dispatch_subagent_history`. -/
def childRequest : Except Stop ChildRequest := do
  let parentSessionId ← requiredText payload "parentSessionId"
    "subagent.history requires a string parentSessionId"
  let childSessionId ← requiredText payload "childSessionId"
    "subagent.history requires a string childSessionId"
  if textField payload "mode" ≠ some "one-shot" then
    .error (.failure "subagent-not-resumable"
      "this WebHost exposes one-shot child history only"
      (.object [("childSessionId", .string childSessionId)]))
  else do
    let page ← pageRequest "subagent.history" payload
    return ⟨parentSessionId, childSessionId, page⟩

/-- The two sessions a request names, in the details of a failure. -/
def ChildRequest.names (request : ChildRequest) : List (String × Value) :=
  [("childSessionId", .string request.childSessionId),
    ("parentSessionId", .string request.parentSessionId)]

/-- A failure of the agent catalog. -/
def catalogFailure (request : ChildRequest) (message : String) : Stop :=
  .failure "subagent-catalog-diagnostic" message
    (.object (request.names ++ [("reason", .string "unavailable")]))

/-- A transcript entry as a message. -/
def transcriptMessage (entry : MultiAgent.AgentTranscriptEntry) : ChatMessage :=
  match entry.role with
  | .user => .user entry.content
  | .assistant => .assistant entry.content

/-- `dispatch_subagent_history`. -/
def dispatchSubagentHistory : Handler ω σ Value := do
  let request ← .ofExcept (childRequest payload)
  let host ← get
  .throwIf (backend.multiAgentAvailable host.session.plugins = false)
    (catalogFailure request "the multi-agent coordinator is disabled or unavailable")
  match ← subagentContext backend request.parentSessionId with
  | .error _ => throw (catalogFailure request "the multi-agent history is unavailable")
  | .ok none =>
      throw (.failure "subagent-not-found" "the requested parent session does not exist"
        (.object request.names))
  | .ok (some (rootSessionId, parentAgentId, agents)) => do
      .throwIf (¬ agents.any fun agent =>
          agent.id = request.childSessionId ∧ agent.parentId = parentAgentId)
        (.failure "subagent-not-found"
          "the requested child session does not exist under this parent"
          (.object request.names))
      match ← useSession
          (ChatSession.webAgentInspect backend rootSessionId request.childSessionId) with
      | .error _ => throw (catalogFailure request "the child session history is unavailable")
      | .ok transcript => do
          let host ← get
          return pageValue (historyPage (backend.nowMillis host.world)
            (transcript.map transcriptMessage) request.page.beforeSeq request.page.maximum)

end Web
end YunXi
