import YunXi.WebGateway.Dispatch
import YunXi.WebGateway.Events
import YunXi.WebGateway.Http

/-!
# The HTTP carrier

Requests are routed to the backend and its answers are sent.  Where the source expects a
result to be there, the model can panic.
-/

namespace YunXi
namespace WebGateway

open Protocol (Value)
open WebContract

def maxSseEvents : Nat := 256
def maxSseResponseBytes : Nat := 512 * 1024
def maxHttpResponseBytes : Nat := maxSseResponseBytes
def sseStaticOverheadBytes : Nat := 32

/-- A failed `expect`, with its message. -/
structure Panic where
  message : String
  deriving DecidableEq, Repr

/-- `result.expect(message)`. -/
def expect {ε α : Type} (message : String) (result : Except ε α) : Except Panic α :=
  result.mapError fun _ => ⟨message⟩

/-- A message of any of the four kinds, as its JSON form is read. -/
inductive WireRpcMessage
  | clientRequest (rpcId : RpcId) (method : String) (payload : Value)
  | serverResponse (rpcId : RpcId) (result : RpcResult)
  | serverRequest (rpcId : RpcId) (method : String) (payload : Value)
  | clientResponse (rpcId : RpcId) (result : RpcResult)

/-- `fmt::Display for WebContractError`. -/
def displayContractError : WebContractError → String
  | .emptyField field => field ++ " cannot be empty"
  | .fieldTooLong field length maximum =>
      field ++ " is " ++ toString length ++ " bytes; maximum is " ++ toString maximum
  | .invalidField field => field ++ " contains unsupported whitespace or characters"
  | .jsonTooLarge field length maximum =>
      field ++ " JSON is " ++ toString length ++ " bytes; maximum is " ++ toString maximum
  | .frameTooLarge length maximum =>
      "JSON frame is " ++ toString length ++ " bytes; maximum is " ++ toString maximum
  | .invalidMessage message => "invalid RPC message: " ++ message

/-- `ClientRequest::new`. -/
def newClientRequest (rpcId : RpcId) (method : String) (payload : Value) :
    Except WebContractError ClientRequest :=
  match validMethod : validateMethod method with
  | .ok () =>
      construct (validatePayload payload) fun validPayload =>
        ⟨rpcId, method, payload, validMethod, validPayload⟩
  | .error error => .error error

/-- `ClientResponse::new`. -/
def newClientResponse (rpcId : RpcId) (result : RpcResult) :
    Except WebContractError ClientResponse :=
  construct result.validate fun valid => ⟨rpcId, result, valid⟩

def RpcError.toJson (error : RpcError) : Value :=
  .object [("code", .string error.code), ("message", .string error.message),
    ("details", error.details)]

def RpcResult.toJson : RpcResult → Value
  | .success value => .object [("ok", .bool true), ("value", value)]
  | .failure error => .object [("ok", .bool false), ("error", RpcError.toJson error)]

/-- A message of any of the four kinds. -/
inductive RpcMessage
  | clientRequest (request : ClientRequest)
  | serverResponse (response : ServerResponse)
  | serverRequest (request : ServerRequest)
  | clientResponse (response : ClientResponse)

def RpcMessage.toJson : RpcMessage → Value
  | .clientRequest request =>
      .object [("type", .string "client-request"), ("rpcId", .string request.rpcId.text),
        ("method", .string request.method), ("payload", request.payload)]
  | .serverResponse response =>
      .object [("type", .string "server-response"), ("rpcId", .string response.rpcId.text),
        ("result", RpcResult.toJson response.result)]
  | .serverRequest request => request.toJson
  | .clientResponse response =>
      .object [("type", .string "client-response"), ("rpcId", .string response.rpcId.text),
        ("result", RpcResult.toJson response.result)]

/-- The bytes of a JSON value within a bound, or its size. -/
def encodeWithin (value : Value) (maximum : Nat) : Except Nat (List UInt8) :=
  if value.encodedSize ≤ maximum then .ok (utf8Bytes value.toText) else .error value.encodedSize

/-- `RpcMessage::encode`, whose validation passes for what was built. -/
def RpcMessage.encode (message : RpcMessage) : Except WebContractError (List UInt8) :=
  (encodeWithin message.toJson maxFrameBytes).mapError fun size =>
    .frameTooLarge size maxFrameBytes

/-- What a host does behind the carrier; its errors are given by their displayed text. -/
structure GatewayBackend (β : Type) where
  refresh : β → β
  dispatch : ClientRequest → β → Except String ServerResponse × β
  respond : ClientResponse → β → Except String Value × β
  takeEvents : EventChannel → Nat → Nat → β → Except String (List RpcMessage) × β

structure EmbeddedWebAsset where
  contentType : String
  cacheControl : String
  body : List UInt8

/-- The carrier over a backend, with the assets of the build and the JSON library. -/
structure HttpCarrier (β : Type) where
  backend : GatewayBackend β
  embeddedWebAsset : String → Option EmbeddedWebAsset
  /-- `serde_json::from_slice` into a JSON value. -/
  readJson : List UInt8 → Option Value
  /-- `serde_json::from_value` into the derived message type, with the text of its error. -/
  readMessage : Value → Except String WireRpcMessage

/-- Handlers of the carrier. -/
abbrev CarrierProgram (β : Type) := Fallible β Panic

namespace HttpCarrier

variable {β : Type} (carrier : HttpCarrier β)

/-- `ClientRequest::deserialize`. -/
def readClientRequest (value : Value) : Except String ClientRequest := do
  match ← carrier.readMessage value with
  | .clientRequest rpcId method payload =>
      (newClientRequest rpcId method payload).mapError displayContractError
  | _ => throw "expected a client-request message"

/-- `ClientResponse::deserialize`. -/
def readClientResponse (value : Value) : Except String ClientResponse := do
  match ← carrier.readMessage value with
  | .clientResponse rpcId result =>
      (newClientResponse rpcId result).mapError displayContractError
  | _ => throw "expected a client-response message"

end HttpCarrier

/-- `has_json_content_type`. -/
def hasJsonContentType (request : HttpRequest) : Bool :=
  (request.header "content-type").any fun value =>
    eqIgnoreAsciiCase
      (trim ((splitOnce ';' value).elim value Prod.fst)) "application/json"

/-- `response_from_message`. -/
def responseFromMessage (message : RpcMessage) : HttpResponse :=
  match message.encode with
  | .ok body => response 200 "OK" [("Content-Type", "application/json")] body
  | .error error =>
      textResponse 500 ("response encoding failed: " ++ displayContractError error)

/-- `response_from_value`. -/
def responseFromValue (value : Value) : HttpResponse :=
  match encodeWithin value maxHttpResponseBytes with
  | .ok body => response 200 "OK" [("Content-Type", "application/json")] body
  | .error size =>
      textResponse 500 ("JSON response is " ++ toString size ++ " bytes; maximum is " ++
        toString maxHttpResponseBytes)

/-- The id of an answer to a request whose id is not known. -/
def invalidRequestId : RpcId := ⟨"invalid-request", by decide⟩

/-- `salvaged_rpc_id`. -/
def salvagedRpcId (value : Value) : RpcId :=
  match (value.get "rpcId").bind Value.asStr with
  | some text =>
      match RpcId.new text with
      | .ok rpcId => rpcId
      | .error _ => invalidRequestId
  | none => invalidRequestId

/-- The details of a bad request. -/
def badRequestDetails (message : String) : Value := .object [("message", .string message)]

/-- `bad_request_response`. -/
def badRequestResponse (rpcId : RpcId) (message : String) : Except Panic RpcMessage := do
  let error ← expect "bounded bad request error"
    (RpcError.new "bad-request" "invalid client-request message" (badRequestDetails message))
  let answer ← expect "bounded bad request response" (ServerResponse.new rpcId (.failure error))
  return .serverResponse answer

/-- The methods that can be posted. -/
def unaryMethods : List String :=
  [agentPresetListMethod, commandsListMethod, credentialsDescribeMethod,
    dynamicCordisInventoryMethod, dynamicCordisSyncInspectMethod, healthStatusMethod,
    hostDescribeMethod, llmProvidersMethod, pluginInventoryListMethod, sessionCreateMethod,
    sessionHistoryMethod, sessionListMethod, sessionModelsMethod, sessionPromptMethod,
    settingsDescribeMethod, settingsMutateMethod, settingsReplaceMethod, settingsUpdateMethod,
    skillListMethod, subagentHistoryMethod, subagentListMethod, workspaceListMethod]

/-- `unary_method`. -/
def unaryMethod (path : String) : Option String :=
  (Strings.stripPrefix "/api/" path).filter fun method => unaryMethods.contains method

/-- `api_path_matches`. -/
def apiPathMatches (path method : String) : Bool :=
  Strings.stripPrefix "/api/" path = some method

/-- `fmt::Display for GatewayError` of a contract error. -/
def displayRejected (error : WebContractError) : String :=
  "Web contract rejected the response: " ++ displayContractError error

/-- `append_bytes`. -/
def appendBytes (output bytes : List UInt8) : Except String (List UInt8) :=
  if output.length + bytes.length > maxSseResponseBytes then
    .error ("SSE response is " ++ toString (output.length + bytes.length) ++
      " bytes; maximum is " ++ toString maxSseResponseBytes)
  else .ok (output ++ bytes)

/-- The messages of a stream after what was written before. -/
def appendEvents : List UInt8 → List RpcMessage → Except String (List UInt8)
  | output, [] => .ok output
  | output, message :: rest => do
      let encoded ← message.encode.mapError displayRejected
      let output ← appendBytes output (utf8Bytes "data: ")
      let output ← appendBytes output encoded
      let output ← appendBytes output (utf8Bytes "\n\n")
      appendEvents output rest

/-- `encode_events`. -/
def encodeEvents (messages : List RpcMessage) : Except String (List UInt8) := do
  let output ← appendBytes [] (utf8Bytes ": connected\n\n")
  let output ← appendEvents output messages
  appendBytes output (utf8Bytes ": end\n\n")

def eventErrorId : RpcId := ⟨"event-error", by decide⟩

/-- `error_event`. -/
def errorEvent (channel : EventChannel) (message : String) : Except String (List UInt8) := do
  let event ← (eventMessage channel eventErrorId
    (.object [("type", .string "stream/error"),
      ("error", .object [("code", .string "internal"), ("message", .string message),
        ("details", .object [])])])).mapError displayRejected
  encodeEvents [.serverRequest event]

/-- The headers of an asset or a stream. -/
def contentHeaders (contentType cacheControl : String) : List (String × String) :=
  [("Content-Type", contentType), ("Cache-Control", cacheControl),
    ("X-Content-Type-Options", "nosniff")]

/-- `static_plugin_events_response`. -/
def staticPluginEventsResponse : HttpResponse :=
  response 200 "OK" (contentHeaders "text/event-stream" "no-cache")
    (utf8Bytes ": static YunXi Web build\n\n")

namespace HttpCarrier

variable {β : Type} (carrier : HttpCarrier β)

/-- `backend.refresh()`. -/
def refresh : CarrierProgram β Unit := modify carrier.backend.refresh

/-- Ask the backend, which answers or fails with a text. -/
def ask {α : Type} (question : β → Except String α × β) : CarrierProgram β (Except String α) :=
  .ofFunction fun state => (.ok (question state).1, (question state).2)

/-- `web_asset_response`. -/
def webAssetResponse (path : String) : Except Panic HttpResponse :=
  match carrier.embeddedWebAsset path with
  | some asset =>
      .ok (response 200 "OK" (contentHeaders asset.contentType asset.cacheControl) asset.body)
  | none => .error ⟨"Web asset path is checked before dispatch"⟩

/-- `handle_events`. -/
def handleEvents (channel : EventChannel) : CarrierProgram β HttpResponse := do
  carrier.refresh
  let rawBudget := maxSseResponseBytes - sseStaticOverheadBytes - maxSseEvents * 8
  let taken ← ask (carrier.backend.takeEvents channel maxSseEvents rawBudget)
  let body := match taken with
    | .ok events => encodeEvents events
    | .error error => errorEvent channel error
  match body with
  | .ok body => return response 200 "OK" (contentHeaders "text/event-stream" "no-cache") body
  | .error error => return textResponse 500 ("SSE carrier failure: " ++ error)

/-- `handle_response`. -/
def handleResponse (request : HttpRequest) : CarrierProgram β HttpResponse := do
  if hasJsonContentType request = false then
    return textResponse 415 "content type must be application/json"
  else
    match carrier.readJson request.body with
    | none => return textResponse 400 "body is not JSON"
    | some value =>
        match carrier.readClientResponse value with
        | .error _ =>
            return responseFromValue
              (.object [("accepted", .bool false), ("reason", .string "bad-response")])
        | .ok clientResponse => do
            carrier.refresh
            match ← ask (carrier.backend.respond clientResponse) with
            | .ok receipt => return responseFromValue receipt
            | .error error => return textResponse 500 ("gateway response failure: " ++ error)

/-- A bad request, answered or not. -/
def refuse (rpcId : RpcId) (message : String) : CarrierProgram β HttpResponse := do
  let answer ← .ofExcept (badRequestResponse rpcId message)
  return responseFromMessage answer

/-- `handle_unary`. -/
def handleUnary (request : HttpRequest) (method : String) : CarrierProgram β HttpResponse := do
  if hasJsonContentType request = false then
    return textResponse 415 "content type must be application/json"
  else
    match carrier.readJson request.body with
    | none => return textResponse 400 "body is not JSON"
    | some value =>
        match carrier.readClientRequest value with
        | .error error => refuse (salvagedRpcId value) error
        | .ok clientRequest =>
            if clientRequest.method ≠ method then
              refuse clientRequest.rpcId
                ("method `" ++ clientRequest.method ++ "` does not match path `" ++ method ++ "`")
            else do
              carrier.refresh
              match ← ask (carrier.backend.dispatch clientRequest) with
              | .ok answer => return responseFromMessage (.serverResponse answer)
              | .error error => return textResponse 500 ("gateway handler failure: " ++ error)

/-- `handle_request`. -/
def handleRequest (request : HttpRequest) : CarrierProgram β HttpResponse :=
  let path := withoutQuery request.path
  if request.method = "GET" ∧ path = "/" then .ofExcept (carrier.webAssetResponse "/index.html")
  else if request.method = "GET" ∧ (carrier.embeddedWebAsset path).isSome then
    .ofExcept (carrier.webAssetResponse path)
  else if request.method = "GET" ∧ path = "/plugins/events" then
    return staticPluginEventsResponse
  else if request.method = "GET" ∧ apiPathMatches path eventsMuxMethod then
    carrier.handleEvents .mux
  else if request.method = "GET" ∧ apiPathMatches path eventsHostMethod then
    carrier.handleEvents .host
  else if request.method = "POST" then
    if apiPathMatches path "respond" then carrier.handleResponse request
    else
      match unaryMethod path with
      | some method => carrier.handleUnary request method
      | none => return textResponse 404 "not found"
  else return textResponse 404 "not found"

/-- `handle_bytes`. -/
def handleBytes (bytes : List UInt8) : CarrierProgram β HttpResponse :=
  match parseRequest bytes with
  | .ok request => carrier.handleRequest request
  | .error error => return parseErrorResponse error

end HttpCarrier

end WebGateway
end YunXi
