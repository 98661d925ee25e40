import YunXi.WebGateway.Dispatch
import YunXi.WebGateway.Events
import YunXi.WebHost.History
import YunXi.WebHost.Session

/-!
# The web host

A host answers requests of the browser, takes its responses to approvals and hands out
events.  Handlers update the host step by step, and an update made before a failure stays.
-/

namespace YunXi
namespace Web

open Protocol (Value ChatMessage isBlank)
open Settings
open WebContract
open WebGateway

def maxSettingsMutations : Nat := 64

structure WebPendingApproval where
  rpcId : RpcId
  approvalId : String
  sessionId : String
  toolName : String
  callId : String
  reason : String
  deriving DecidableEq

inductive WebHostError
  | session (message : String)
  | gateway (error : GatewayError)
  deriving DecidableEq

/-- The host with the world its session lives in and the settings files. -/
structure WebHost (ω σ : Type) where
  session : ChatSession σ
  world : ω
  disk : SettingsDisk
  projection : GatewayProjection
  events : EventBuffer
  webHistory : List ChatMessage
  webSessionId : Option String
  pendingApproval : Option WebPendingApproval
  nextWebId : UInt64
  rebuildInProgress : Bool

/-- How a handler stops: with a failure to answer, or with an error of the host. -/
inductive Stop
  | failure (code message : String) (details : Value)
  | error (error : WebHostError)

/-- Programs of the host that can only fail as a whole. -/
abbrev HostProgram (ω σ α : Type) := Fallible (WebHost ω σ) WebHostError α

/-- Handlers of requests, whose value is sent as a success. -/
abbrev Handler (ω σ α : Type) := Fallible (WebHost ω σ) Stop α

variable {ω σ : Type} (backend : Backend ω σ)

/-- `GatewayError` of a contract check. -/
def WebHostError.contract (error : WebContractError) : WebHostError :=
  .gateway (.contract error)

/-- `publish_event`. -/
def publishEvent (channel : EventChannel) (payload : Value) : HostProgram ω σ Unit :=
  .embed .gateway (fun host => host.events) (fun events host => { host with events })
    (EventBuffer.publish channel payload)

/-- `publish_event_with_id`. -/
def publishEventWithId (channel : EventChannel) (rpcId : RpcId) (payload : Value) :
    HostProgram ω σ Unit :=
  .embed .gateway (fun host => host.events) (fun events host => { host with events })
    (EventBuffer.publishWithId channel rpcId payload)

/-- Publish events one after the other, up to the first that is refused. -/
def publishAll (channel : EventChannel) : List Value → HostProgram ω σ Unit
  | [] => return ()
  | payload :: rest => do
      publishEvent channel payload
      publishAll channel rest

/-- Let the session do something and get its result. -/
def useSession {ε ε' α : Type} (program : SessionProgram ω σ ε α) :
    Fallible (WebHost ω σ) ε' (Except ε α) :=
  .attempt (fun host => (host.session, host.world))
    (fun after host => { host with session := after.1, world := after.2 }) program

/-- Write to the settings store and get the result. -/
def useSettings (program : CapabilitySettingsStore.Writer → StoreProgram Bool) :
    Handler ω σ (Except CapabilitySettingsError Bool) :=
  .ofFunction fun host =>
    let (result, store, disk) := (program (backend.writeFault host.world host.disk).writer).exec
      (host.session.capabilitySettings, host.disk)
    (.ok result,
      { host with session := { host.session with capabilitySettings := store }, disk })

/-- Part of a handler that can only fail as a whole. -/
def orFail {α : Type} (program : HostProgram ω σ α) : Handler ω σ α :=
  .embed .error id (fun after _ => after) program

/-- `refresh`. -/
def refresh {ε : Type} : Fallible (WebHost ω σ) ε Unit :=
  modify fun host =>
    let (projection, plugins, world) := backend.webProjection host.session.plugins host.world
    { host with session := { host.session with plugins }, world, projection }

/-- `string_field`: a text that is not blank. -/
def stringField (payload : Value) (field : String) : Option String :=
  (payload.get field |>.bind Value.asStr).filter fun text => !isBlank text

/-- `optional_u64`. -/
def optionalU64 (payload : Value) (field : String) : Option Nat :=
  payload.get field |>.bind Value.asU64

/-- `payload.get(field).and_then(Value::as_str)`. -/
def textField (payload : Value) (field : String) : Option String :=
  payload.get field |>.bind Value.asStr

/-- The texts of content blocks, all of which have to be texts. -/
def blockTexts : List Value → Option (List String)
  | [] => some []
  | block :: rest => do
      guard (textField block "type" = some "text")
      let text ← textField block "text"
      let texts ← blockTexts rest
      return text :: texts

/-- `prompt_text`. -/
def promptText (payload : Value) : Option String := do
  let content ← payload.get "content" |>.bind Value.asArray
  guard (content ≠ [])
  let texts ← blockTexts content
  guard (isBlank (String.join texts) = false)
  return String.join texts

/-- `expected_revision`. -/
def expectedRevision (payload : Value) : Except Unit (Option UInt64) :=
  match payload.get "expectedRevision" with
  | none => .ok none
  | some value =>
      match value.asU64 with
      | some revision => .ok (some (UInt64.ofNat revision))
      | none => .error ()

/-- A member that is an optional text. -/
def optionalText : Option String → Value
  | some text => .string text
  | none => .null

def invalidPayload {α : Type} (message field : String) : Except Stop α :=
  .error (.failure "invalid-payload" message (.object [("field", .string field)]))

/-- A text field that has to be there. -/
def requiredText (payload : Value) (field message : String) : Except Stop String :=
  match stringField payload field with
  | some text => .ok text
  | none => invalidPayload message field

structure PageRequest where
  beforeSeq : Option Nat
  maximum : Nat

/-- The page fields of a history request, `method` in the texts of their errors. -/
def pageRequest (method : String) (payload : Value) : Except Stop PageRequest := do
  let beforeSeq := optionalU64 payload "beforeSeq"
  let rawMaximum := optionalU64 payload "maxMessages"
  let maximum := max 1 (min (rawMaximum.getD 50) 128)
  if (payload.get "beforeSeq").isSome ∧ beforeSeq.isNone then
    invalidPayload (method ++ " beforeSeq must be a non-negative integer") "beforeSeq"
  else if (payload.get "maxMessages").isSome ∧ ¬ rawMaximum.any fun value => value > 0 then
    invalidPayload (method ++ " maxMessages must be a positive integer") "maxMessages"
  else return ⟨beforeSeq, maximum⟩

def contractError {α : Type} (result : Except WebContractError α) : Except WebHostError α :=
  result.mapError .contract

/-- `success`. -/
def success (request : ClientRequest) (value : Value) : Except WebHostError ServerResponse :=
  contractError (ServerResponse.new request.rpcId (.success value))

/-- `failure`. -/
def failure (request : ClientRequest) (code message : String) (details : Value) :
    Except WebHostError ServerResponse := do
  let error ← contractError (RpcError.new code message details)
  contractError (ServerResponse.new request.rpcId (.failure error))

/-- Answer a request with what its handler returned or stopped with. -/
def answer (request : ClientRequest) (handler : Handler ω σ Value) :
    HostProgram ω σ ServerResponse :=
  .ofFunction fun host =>
    match handler.exec host with
    | (.ok value, after) => (success request value, after)
    | (.error (.failure code message details), after) =>
        (failure request code message details, after)
    | (.error (.error error), after) => (.error error, after)

def approvalPayload (pending : WebPendingApproval) : Value :=
  .object [("approvalId", .string pending.approvalId), ("callId", .string pending.callId),
    ("reason", .string pending.reason), ("sessionId", .string pending.sessionId),
    ("toolName", .string pending.toolName), ("type", .string "approval/requested")]

/-- `saturating_add(1)`. -/
def saturatingSucc (number : UInt64) : UInt64 :=
  if number.toNat + 1 = UInt64.size then number else number + 1

theorem approvalRpcId_valid (number : UInt64) :
    validateToken "rpcId" ("approval-rpc-" ++ toString number.toNat) maxRpcIdBytes = .ok () :=
  validateToken_numbered number (by decide) (by decide) (by decide)

/-- The approval a session waits for, as it is registered under a number. -/
def registration (number : UInt64) (sessionId : String) (approval : PendingApprovalView) :
    WebPendingApproval where
  rpcId := ⟨"approval-rpc-" ++ toString number.toNat, approvalRpcId_valid number⟩
  approvalId := "approval-" ++ toString number.toNat
  sessionId := sessionId
  toolName := approval.toolName
  callId := approval.callId
  reason := approval.summary

variable (sessionId : String)

/-- `publish_pending_approval`: register what the session waits for, or publish again what
is registered. -/
def publishPendingApproval : HostProgram ω σ Unit := do
  let host ← get
  match host.session.pending with
  | none => return ()
  | some approval =>
      match host.pendingApproval with
      | some pending => publishEventWithId .mux pending.rpcId (approvalPayload pending)
      | none => do
          let pending := registration host.nextWebId sessionId approval
          modify fun host => { host with
            nextWebId := saturatingSucc host.nextWebId
            pendingApproval := some pending }
          publishEventWithId .mux pending.rpcId (approvalPayload pending)

def statusPayload (running : Bool) : Value :=
  .object [("running", .bool running), ("sessionId", .string sessionId),
    ("type", .string "host/session-status")]

/-- `publish_session_status`. -/
def publishSessionStatus (running : Bool) : HostProgram ω σ Unit :=
  publishEvent .host (statusPayload sessionId running)

/-- `publish_turn_events`. -/
def publishTurnEvents (start : Nat) (sessionId : String) : HostProgram ω σ Unit := do
  let host ← get
  publishAll .mux ((turnEventsFrom (backend.nowMillis host.world) host.webHistory start).map
    (sessionEventPayload sessionId))

/-- `ensure_web_session`: load another session's messages unless it is the current one. -/
def ensureWebSession : Handler ω σ (Except String Unit) := do
  let host ← get
  if host.webSessionId = some sessionId then return .ok ()
  else
    match ← useSession (ChatSession.activateWebSession backend sessionId) with
    | .ok snapshot => do
        modify fun host => { host with
          webHistory := snapshot.messages
          webSessionId := some sessionId
          pendingApproval := none }
        return .ok ()
    | .error error => return .error error

/-- Whether a text contains another. -/
def textContains (value part : String) : Bool :=
  part.toList <:+: value.toList

/-- `session_failure`. -/
def sessionFailure {α : Type} (sessionId : Option String) (error : String) :
    Except Stop α :=
  let notFound := sessionId.any fun id => error = "session `" ++ id ++ "` was not found"
  let details : Value := match sessionId with
    | some id => .object [("sessionId", .string id)]
    | none => .object []
  .error <|
    if notFound then
      .failure "session-not-found" "the requested session does not exist" details
    else if textContains error "disabled or unavailable" then
      .failure "storage-unavailable" "session storage is disabled or unavailable" details
    else .failure "internal" "session storage could not complete the request" details

/-- Refuse what has to wait for the pending approval of another session. -/
def requireFreeFor : Handler ω σ Unit := do
  let host ← get
  .throwIf (host.pendingApproval.isSome ∧ host.webSessionId ≠ some sessionId)
    (.failure "agent-busy" "resolve the pending approval before switching sessions"
      (.object [("sessionId", optionalText host.webSessionId)]))

/-- Make a session the current one, or stop with its failure. -/
def openSession : Handler ω σ Unit := do
  match ← ensureWebSession backend sessionId with
  | .ok () => return ()
  | .error error => .ofExcept (sessionFailure (some sessionId) error)

def acceptedValue : Value := .object [("accepted", .bool true)]

end Web
end YunXi
