import YunXi.WebHost.SessionRequests
import YunXi.WebHost.SettingsRequests

/-!
# Operations of the host

Dispatching a request, taking a response to an approval, handing out events, and the runs
they make up.
-/

namespace YunXi
namespace Web

open Protocol (Value ChatMessage isBlank)
open Settings
open WebContract
open WebGateway

variable {ω σ : Type} (backend : Backend ω σ)

/-- The clock of the gateway, zero when it does not fit a machine number. -/
def gatewayMillis (millis : Nat) : UInt64 :=
  if millis < UInt64.size then UInt64.ofNat millis else 0

/-- A result of the gateway as the outcome of a handler. -/
def gatewayHandler (request : ClientRequest) : Handler ω σ Value := do
  let host ← get
  match gatewayResult host.projection (gatewayMillis (backend.nowMillis host.world)) request with
  | .ok value => return value
  | .error error => throw (.failure error.code error.message error.details)

/-- The handler of a request by its method. -/
def handler (request : ClientRequest) : Handler ω σ Value :=
  let method := request.method
  if method = sessionCreateMethod then dispatchSessionCreate backend request.payload
  else if method = sessionHistoryMethod then dispatchSessionHistory backend request.payload
  else if method = sessionPromptMethod then dispatchSessionPrompt backend request.payload
  else if method = subagentListMethod then dispatchSubagentList backend request.payload
  else if method = subagentHistoryMethod then dispatchSubagentHistory backend request.payload
  else if method = settingsDescribeMethod then dispatchSettingsDescribe request.payload
  else if method = settingsUpdateMethod ∨ method = settingsReplaceMethod ∨
      method = settingsMutateMethod then
    dispatchSettingsWrite backend method request.payload
  else gatewayHandler backend request

/-- `dispatch`. -/
def dispatch (request : ClientRequest) : HostProgram ω σ ServerResponse := do
  refresh backend
  answer request (handler backend request)

def receipt (accepted : Bool) (reason : Option String) : Value :=
  .object ([("accepted", .bool accepted)] ++
    Protocol.optionalMember "reason" (reason.map .string))

/-- The outcome a response names; without one it rejects. -/
def responseOutcome (response : ClientResponse) : String :=
  ((response.result.value?.bind fun value => value.get "outcome").bind Value.asStr).getD
    "rejected"

/-- A response answers an approval when it names it and says how it is resolved. -/
def Answers (response : ClientResponse) (pending : WebPendingApproval) : Prop :=
  ∃ value, response.result.value? = some value ∧ value.isObject = true ∧
    textField value "sessionId" = some pending.sessionId ∧
    textField value "approvalId" = some pending.approvalId ∧
    (responseOutcome response = "allowed-once" ∨ responseOutcome response = "rejected")

instance (response : ClientResponse) (pending : WebPendingApproval) :
    Decidable (Answers response pending) :=
  match given : response.result.value? with
  | none => .isFalse fun ⟨_, same, _⟩ => by rw [given] at same; cases same
  | some value =>
      decidable_of_iff
        (value.isObject = true ∧ textField value "sessionId" = some pending.sessionId ∧
          textField value "approvalId" = some pending.approvalId ∧
          (responseOutcome response = "allowed-once" ∨ responseOutcome response = "rejected"))
        ⟨fun holds => ⟨value, given, holds⟩, fun ⟨other, same, holds⟩ => by
          rw [given, Option.some.injEq] at same
          rwa [same]⟩

def resolvedPayload (pending : WebPendingApproval) (outcome : String) : Value :=
  .object [("approvalId", .string pending.approvalId), ("outcome", .string outcome),
    ("sessionId", .string pending.sessionId), ("type", .string "approval/resolved")]

def errorPayload (sessionId message : String) : Value :=
  .object [("message", .string (boundedMessage message)), ("sessionId", .string sessionId),
    ("type", .string "session/error")]

/-- What follows once an approval was resolved: the rest of the turn is published. -/
def finishResolution (pending : WebPendingApproval) :
    Except String (Option String) → HostProgram ω σ Unit
  | .ok reply => do
      match reply with
      | some reply => do
          let before ← get
          modify fun host => { host with webHistory := host.webHistory ++ [.assistant reply] }
          publishTurnEvents backend before.webHistory.length pending.sessionId
      | none => pure ()
      let host ← get
      if host.session.pending.isSome then publishPendingApproval pending.sessionId
      else return ()
  | .error error => publishEvent .mux (errorPayload pending.sessionId error)

/-- The part of `respond` after its checks: the approval has been taken out. -/
def resolveApproval (pending : WebPendingApproval) (outcome : String) : HostProgram ω σ Value := do
  modify fun host => { host with pendingApproval := none }
  let result ← useSession
    (if outcome = "allowed-once" then ChatSession.approvePendingModelTool backend
    else ChatSession.denyPendingModelTool backend)
  publishEvent .mux (resolvedPayload pending outcome)
  finishResolution backend pending result
  return receipt true none

/-- `respond`. -/
def respond (response : ClientResponse) : HostProgram ω σ Value := do
  let host ← get
  match host.pendingApproval with
  | none => return receipt false (some "not-pending")
  | some pending =>
      -- the approval is put back on both of these exits
      if response.rpcId ≠ pending.rpcId then return receipt false (some "not-pending")
      else if ¬ Answers response pending then return receipt false (some "bad-response")
      else resolveApproval backend pending (responseOutcome response)

/-- `take_events` of the gateway. -/
def takeFromGateway (channel : EventChannel) (maximumEvents maximumEncodedBytes : Nat) :
    HostProgram ω σ (List ServerRequest) :=
  .embed .gateway (fun host => host.events) (fun events host => { host with events })
    (EventBuffer.takeBounded channel maximumEvents maximumEncodedBytes)

/-- `take_events`: an approval that still waits is published again when its queue is empty. -/
def takeEvents (channel : EventChannel) (maximumEvents maximumEncodedBytes : Nat) :
    HostProgram ω σ (List ServerRequest) := do
  let events ← takeFromGateway channel maximumEvents maximumEncodedBytes
  let host ← get
  match host.pendingApproval with
  | some pending =>
      if channel = .mux ∧ events.isEmpty ∧ host.events.hasEvents .mux = false then do
        publishPendingApproval pending.sessionId
        takeFromGateway channel maximumEvents maximumEncodedBytes
      else return events
  | none => return events

/-- `WebHost::launch`: a host over a session that was launched. -/
def launched (session : ChatSession σ) (world : ω) (disk : SettingsDisk) : WebHost ω σ :=
  let (projection, plugins, world) := backend.webProjection session.plugins world
  { session := { session with plugins }
    world
    disk
    projection
    events := .new
    webHistory := []
    webSessionId := none
    pendingApproval := none
    nextWebId := 1
    rebuildInProgress := false }

/-- What reaches the host. -/
inductive Operation
  | refresh
  | request (request : ClientRequest)
  | response (response : ClientResponse)
  | poll (channel : EventChannel) (maximumEvents maximumEncodedBytes : Nat)

/-- The host after an operation, whether it failed or not. -/
def step (host : WebHost ω σ) : Operation → WebHost ω σ
  | .refresh => ((refresh backend : HostProgram ω σ Unit).exec host).2
  | .request request => ((dispatch backend request).exec host).2
  | .response response => ((respond backend response).exec host).2
  | .poll channel maximumEvents maximumEncodedBytes =>
      ((takeEvents channel maximumEvents maximumEncodedBytes : HostProgram ω σ _).exec host).2

end Web
end YunXi
