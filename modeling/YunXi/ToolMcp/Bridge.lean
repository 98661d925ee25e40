import YunXi.PluginHost.Serving
import YunXi.ToolMcp.Permission

/-!
# The bridge between a host and an MCP server

The bridge answers the invocations of its host one after the other.  It starts the client when
an invocation needs it, answers what goes wrong with a failure, and ends with an error after
which the client cannot be used.
-/

namespace YunXi
namespace ToolMcp

open Protocol
open PluginHost (Answers HostInput InvocationCodecError InvocationRequest PluginErrors
  PluginMessage ServingPlugin SessionError answers_of_completed completed failure invocationsOf
  serve serve_answers)

def toolMcp : String := "tool.mcp"
def toolMcpVersion : UInt32 := 1
def toolMcpListOperation : String := "list"
def toolMcpCallOperation : String := "call"
def toolMcpCancelOperation : String := "cancel"
def toolMcpStatusOperation : String := "status"
def discoveryTimeoutMillis : Nat := 10000

structure McpToolListRequest where
  refresh : Bool
  networkGrant : Option NetworkGrant
  secretGrant : Option SecretGrant

/-- `McpToolCallRequest`, with what is read of its grant. -/
structure McpToolCallRequest where
  networkGrant : NetworkGrant
  secretGrant : SecretGrant
  timeoutMillis : Nat
  serverName : String
  toolName : String
  arguments : Value

structure McpToolCancelRequest where
  serverName : String
  requestId : Nat
  reason : String

structure McpStatusRequest where
  serverName : String

/-- What payloads are decoded to, or the text of the error; and the check of the grants of a
list request. -/
structure PayloadDecoders where
  list : Value → Except String McpToolListRequest
  call : Value → Except String McpToolCallRequest
  cancel : Value → Except String McpToolCancelRequest
  status : Value → Except String McpStatusRequest
  checkGrants : McpToolListRequest → Except String Unit

/-- `McpProtocolError`, as far as the check of a cancellation returns it. -/
inductive McpCancelError
  | serverName (error : McpProtocolError)
  | zeroRequestId
  | cancelledWithoutSupport

def McpCancelError.display : McpCancelError → String
  | serverName error => error.display
  | zeroRequestId => "MCP request id must be greater than zero"
  | cancelledWithoutSupport => "MCP cancellation cannot be marked cancelled when unsupported"

/-- `McpToolCancelResult`. -/
structure McpToolCancelResult where
  serverName : String
  requestId : Nat
  cancelled : Bool
  supported : Bool

/-- `McpToolCancelResult::new`. -/
def McpToolCancelResult.new (serverName : String) (requestId : Nat)
    (cancelled supported : Bool) : Except McpCancelError McpToolCancelResult := do
  (validateServerName serverName).mapError .serverName
  refuseIf (requestId = 0) .zeroRequestId
  refuseIf (cancelled = true ∧ supported = false) .cancelledWithoutSupport
  return ⟨serverName, requestId, cancelled, supported⟩

def McpToolCancelResult.toValue (result : McpToolCancelResult) : Value :=
  .object [("cancelled", .bool result.cancelled), ("request_id", .ofNat result.requestId),
    ("server_name", .string result.serverName), ("supported", .bool result.supported)]

def descriptorValue (tool : McpToolDescriptor) : Value :=
  .object [("description", .string tool.description), ("inputSchema", tool.inputSchema),
    ("name", .string tool.name)]

def listValue (result : McpToolListResult) : Value :=
  .object [("server_name", .string result.serverName),
    ("tools", .array (result.tools.map descriptorValue)), ("truncated", .bool result.truncated)]

def callValue (result : McpToolCallResult) : Value :=
  .object [("is_error", .bool result.isError), ("output", result.output),
    ("server_name", .string result.serverName), ("tool_name", .string result.toolName)]

/-- `McpStatusResult::new` of a server that is ready, with its tools. -/
def readyStatus (serverName : String) (toolCount : Nat) : Except McpProtocolError Value := do
  validateServerName serverName
  refuseIf (toolCount > maxTools) (.tooManyTools toolCount maxTools)
  return .object [("last_error", .null), ("server_name", .string serverName),
    ("state", .string "ready"), ("tool_count", .ofNat toolCount)]

/-- `McpPluginError` of a connected bridge. -/
inductive McpPluginError
  | client (error : McpClientError)
  | invocation (error : InvocationCodecError)
  | decode (message : String)
  | protocolPayload (message : String)
  | protocol (error : SessionError)
  | unexpectedHostMessage (message : String)

namespace McpPluginError

def code : McpPluginError → String
  | protocol _ | unexpectedHostMessage _ => "plugin_error"
  | invocation _ | decode _ | protocolPayload _ => "invalid_request"
  | client (.remote _ _) => "mcp_remote_error"
  | client (.unknownTool _) => "unknown_tool"
  | client (.networkDenied _) => "network_denied"
  | client (.secretDenied _) => "secret_denied"
  | client (.httpStatus _) | client (.httpConfiguration _) => "mcp_http_error"
  | client _ => "mcp_protocol_error"

def isFatalClientError : McpPluginError → Bool
  | client error => error.isFatal
  | _ => false

def display (debug : Option Value → String) : McpPluginError → String
  | client error => error.display debug
  | invocation error => error.display
  | decode message => "failed to decode invocation payload: " ++ message
  | protocolPayload message => message
  | protocol error => error.display
  | unexpectedHostMessage message => message

end McpPluginError

/-- Where a server is reached over HTTP, with the secrets that are there. -/
structure HttpConfig where
  endpoint : String
  headers : List (String × String)
  secretValues : List (String × String)

/-- The transport of a configuration, with what becomes of the process it spawns, or of the HTTP
client it builds and the requests that are sent. -/
inductive McpTransport
  | stdio (spawned : Except McpClientError StdioServer)
  | http (config : HttpConfig) (built : Except String (List HttpExchange))

/-- What does not change while a bridge runs. -/
structure BridgeSetting where
  serverName : String
  transport : McpTransport
  version : String
  libraries : Libraries
  decoders : PayloadDecoders
  debugId : Option Value → String

variable (setting : BridgeSetting)

namespace BridgeSetting

/-- The backend of `start_with_authority`. -/
def backend (networkGrant : NetworkGrant)
    (secretGrant : SecretGrant) : Except McpClientError McpBackend :=
  match setting.transport with
  | .stdio spawned => spawned.map .stdio
  | .http config built =>
      (newTransport config.endpoint config.headers config.secretValues networkGrant secretGrant
        built).map .http

variable (client : Option McpClient)

/-- `ensure_client`.  A client that did not start is kept beside the error that ends the bridge,
for what it has sent. -/
def ensureClient (networkGrant : Option NetworkGrant) (secretGrant : Option SecretGrant) :
    Except McpPluginError McpClient × Option McpClient :=
  match client with
  | some client => (.ok client, some client)
  | none =>
      match setting.backend (networkGrant.getD .none) (secretGrant.getD .empty) with
      | .error error => (.error (.client error), none)
      | .ok backend =>
          match McpClient.start backend setting.serverName setting.version setting.libraries
              discoveryTimeoutMillis with
          | (.error error, client) => (.error (.client error), some client)
          | (.ok (), client) => (.ok client, some client)

variable (requestId : Nat)

variable (payload : Value)

/-- The message of `encode_response`. -/
def encodeResponse : Except McpPluginError PluginMessage :=
  (completed requestId payload).mapError .invocation

/-- An error is answered unless it is fatal. -/
def answerError (error : McpPluginError) :
    Except McpPluginError PluginMessage :=
  if error.isFatalClientError then .error error
  else .ok (failure requestId error.code (error.display setting.debugId))

/-- The answer to a request for another server. -/
def unknownServer (serverName : String) : PluginMessage :=
  failure requestId "unknown_server" ("MCP server `" ++ serverName ++ "` is not registered")

/-- What comes of an invocation: an answer, or the error that ends the bridge. -/
abbrev Handled := Except McpPluginError PluginMessage × Option McpClient

def handleList : Handled :=
  match setting.decoders.list payload with
  | .error message => (.error (.decode message), client)
  | .ok listRequest =>
      match setting.decoders.checkGrants listRequest with
      | .error message => (.error (.protocolPayload message), client)
      | .ok () =>
          match setting.ensureClient client listRequest.networkGrant listRequest.secretGrant with
          | (.error error, client) => (.error error, client)
          | (.ok client, _) =>
              let (result, client) :=
                if listRequest.refresh then
                  client.listTools setting.libraries discoveryTimeoutMillis
                else
                  ((McpToolListResult.new client.serverName client.tools false).mapError
                    fun error => .invalidResponse toolsListMethod error.display, client)
              match (result.mapError .client).bind fun result =>
                  encodeResponse requestId (listValue result) with
              | .error error => (setting.answerError requestId error, some client)
              | .ok response => (.ok response, some client)

def handleCall : Handled :=
  match setting.decoders.call payload with
  | .error message => (.error (.decode message), client)
  | .ok call =>
      match setting.ensureClient client none none with
      | (.error error, client) => (.error error, client)
      | (.ok client, _) =>
          if call.serverName ≠ client.serverName then
            (.ok (unknownServer requestId call.serverName), some client)
          else
            let (result, client) := client.callTool setting.libraries call.toolName
              call.arguments (some call.networkGrant) (some call.secretGrant) call.timeoutMillis
            match (result.mapError .client).bind fun result =>
                encodeResponse requestId (callValue result) with
            | .error error => (setting.answerError requestId error, some client)
            | .ok response => (.ok response, some client)

/-- What a bridge says of a cancellation, without a client when there was nothing to cancel. -/
def cancelResult (serverName : String) (requestId : Nat) (cancelled : Bool) :
    Except McpPluginError McpToolCancelResult :=
  (McpToolCancelResult.new serverName requestId cancelled true).mapError fun error =>
    .protocolPayload error.display

def answerCancel
    (result : Except McpPluginError McpToolCancelResult) : Except McpPluginError PluginMessage :=
  match result with
  | .ok result => encodeResponse requestId result.toValue
  | .error error => setting.answerError requestId error

def handleCancel : Handled :=
  match setting.decoders.cancel payload with
  | .error message => (.error (.decode message), client)
  | .ok cancel =>
      match client with
      | none =>
          (setting.answerCancel requestId
            (cancelResult cancel.serverName cancel.requestId false), none)
      | some client =>
          if cancel.serverName ≠ client.serverName then
            (.ok (unknownServer requestId cancel.serverName), some client)
          else
            let (result, client) :=
              client.cancelRequest setting.libraries cancel.requestId cancel.reason none none
            (setting.answerCancel requestId ((result.mapError .client).bind fun _ =>
              cancelResult client.serverName cancel.requestId true), some client)

def handleStatus : Handled :=
  match setting.decoders.status payload with
  | .error message => (.error (.decode message), client)
  | .ok status =>
      match setting.ensureClient client none none with
      | (.error error, client) => (.error error, client)
      | (.ok client, _) =>
          if status.serverName ≠ client.serverName then
            (.ok (unknownServer requestId status.serverName), some client)
          else
            (((readyStatus client.serverName client.tools.length).mapError fun error =>
                McpPluginError.client (.invalidResponse "status" error.display)).bind
              (encodeResponse requestId), some client)

/-- What the loop of `run_mcp_plugin` does with an invocation. -/
def handle (request : InvocationRequest) : Handled :=
  if request.capability.id.text ≠ toolMcp ∨ request.capability.version ≠ toolMcpVersion then
    (.ok (unsupported request.requestId), client)
  else if request.operation = toolMcpListOperation then
    setting.handleList client request.requestId request.payload
  else if request.operation = toolMcpCallOperation then
    setting.handleCall client request.requestId request.payload
  else if request.operation = toolMcpCancelOperation then
    setting.handleCancel client request.requestId request.payload
  else if request.operation = toolMcpStatusOperation then
    setting.handleStatus client request.requestId request.payload
  else (.ok (unsupported request.requestId), client)
where
  unsupported (requestId : Nat) : PluginMessage :=
    failure requestId "unsupported_operation"
      "MCP bridge does not support the requested operation"

end BridgeSetting

def McpPluginError.ofSession : PluginErrors McpPluginError :=
  ⟨.protocol, .unexpectedHostMessage⟩

/-- `run_mcp_plugin`, once it is connected. -/
def BridgeSetting.run (plugin : ServingPlugin (Option McpClient))
    (inputs : List HostInput) :
    Option (Except McpPluginError Unit) × ServingPlugin (Option McpClient) :=
  serve McpPluginError.ofSession setting.handle plugin inputs

section Answers

open BridgeSetting

variable (setting : BridgeSetting) {client : Option McpClient} {requestId : Nat}
  {response : PluginMessage}

variable {payload : Value}

theorem encodeResponse_answers
    (encoded : encodeResponse requestId payload = .ok response) : Answers requestId response :=
  answers_of_completed (Except.mapError_eq_ok.mp encoded)

theorem answerError_answers {error : McpPluginError}
    (answered : setting.answerError requestId error = .ok response) :
    Answers requestId response := by
  unfold BridgeSetting.answerError at answered
  rw [Except.ite_error_eq_ok] at answered
  cases answered.2
  exact .failed _ _

theorem encodeResult_answers {α ε : Type} {result : Except ε α} {wrap : ε → McpPluginError}
    {toValue : α → Value}
    (encoded : ((result.mapError wrap).bind fun value =>
      encodeResponse requestId (toValue value)) = .ok response) :
    Answers requestId response := by
  obtain ⟨value, -, encoded⟩ := Except.bind_eq_ok.mp encoded
  exact encodeResponse_answers encoded

theorem answerCancel_answers {result : Except McpPluginError McpToolCancelResult}
    (answered : setting.answerCancel requestId result = .ok response) :
    Answers requestId response := by
  unfold BridgeSetting.answerCancel at answered
  split at answered
  · exact encodeResponse_answers answered
  · exact answerError_answers setting answered

theorem handleList_answers
    (answered : (setting.handleList client requestId payload).1 = .ok response) :
    Answers requestId response := by
  unfold BridgeSetting.handleList at answered
  split at answered
  · cases answered
  · split at answered
    · cases answered
    · split at answered
      · cases answered
      · dsimp only at answered
        split at answered
        · exact answerError_answers setting answered
        · next encoded =>
            cases answered
            exact encodeResult_answers encoded

theorem handleCall_answers
    (answered : (setting.handleCall client requestId payload).1 = .ok response) :
    Answers requestId response := by
  unfold BridgeSetting.handleCall at answered
  split at answered
  · cases answered
  · split at answered
    · cases answered
    · split at answered
      · cases answered
        exact .failed _ _
      · dsimp only at answered
        split at answered
        · exact answerError_answers setting answered
        · next encoded =>
            cases answered
            exact encodeResult_answers encoded

theorem handleCancel_answers
    (answered : (setting.handleCancel client requestId payload).1 = .ok response) :
    Answers requestId response := by
  unfold BridgeSetting.handleCancel at answered
  split at answered
  · cases answered
  · split at answered
    · exact answerCancel_answers setting answered
    · split at answered
      · cases answered
        exact .failed _ _
      · exact answerCancel_answers setting answered

theorem handleStatus_answers
    (answered : (setting.handleStatus client requestId payload).1 = .ok response) :
    Answers requestId response := by
  unfold BridgeSetting.handleStatus at answered
  split at answered
  · cases answered
  · split at answered
    · cases answered
    · split at answered
      · cases answered
        exact .failed _ _
      · obtain ⟨value, -, encoded⟩ := Except.bind_eq_ok.mp answered
        exact encodeResponse_answers encoded

/-- What an invocation is answered with carries its id. -/
theorem handle_answers {request : InvocationRequest}
    (answered : (setting.handle client request).1 = .ok response) :
    Answers request.requestId response := by
  unfold BridgeSetting.handle at answered
  split at answered
  · cases answered
    exact .failed _ _
  · split at answered
    · exact handleList_answers setting answered
    · split at answered
      · exact handleCall_answers setting answered
      · split at answered
        · exact handleCancel_answers setting answered
        · split at answered
          · exact handleStatus_answers setting answered
          · cases answered
            exact .failed _ _

end Answers

/-- The bridge answers the invocations it receives in their order, each of them once and under
its id, and leaves none unanswered while it runs. -/
theorem bridge_answers (plugin : ServingPlugin (Option McpClient))
    (inputs : List HostInput) :
    ∃ (answered unanswered : List InvocationRequest) (responses : List PluginMessage),
      invocationsOf inputs = answered ++ unanswered ∧
      (setting.run plugin inputs).2.sent = plugin.sent ++ responses ∧
      List.Forall₂ (fun request response => Answers request.requestId response) answered
        responses ∧
      ((setting.run plugin inputs).1 = none → unanswered = []) :=
  serve_answers plugin inputs fun _ _ _ _ answered => handle_answers setting answered

end ToolMcp
end YunXi
