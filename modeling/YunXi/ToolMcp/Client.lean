import YunXi.Protocol.Transport
import YunXi.ToolMcp.Messages

/-!
# A client of one MCP server

The client numbers its requests and reads the answers from a process or over HTTP.  What a
process sends is queued: a request takes the notifications in front and then one message, so
what comes late is left for the requests after it.
-/

namespace YunXi
namespace ToolMcp

open Protocol

def secretReferencePrefix : String := "secret://"
def cancelGraceTimeoutMillis : Nat := 250
def maxSessionIdBytes : Nat := 256

/-- What a wait for the reader of a process ends with. -/
inductive Received
  | frame (bytes : List UInt8)
  | readError (message : String)
  | eof
  | timedOut
  | disconnected
  deriving DecidableEq, Repr

/-- A process, with what the waits for its output and the writes to its input end with; a
channel without a reader is disconnected, and a write that is not listed succeeds. -/
structure StdioServer where
  received : List Received
  writeErrors : List (Option String)
  written : List Value
  redactions : List String

/-- The answer of an HTTP server: its body ends, or breaks off with an error. -/
structure HttpAnswer where
  status : Nat
  sessionId : Option String
  contentLength : Option Nat
  contentType : String
  body : List UInt8
  bodyError : Option String

/-- What sending a request over HTTP ends with. -/
inductive HttpExchange
  | timedOut
  | failed (message : String)
  | answered (answer : HttpAnswer)

/-- A request that was sent over HTTP. -/
structure SentRequest where
  endpoint : String
  headers : List (String × String)
  payload : Value

/-- `HttpTransport`, with what its next exchanges end with and what was sent so far. -/
structure HttpTransport where
  endpoint : String
  headers : List (String × String)
  secretValues : List (String × String)
  networkGrant : NetworkGrant
  secretGrant : SecretGrant
  sessionId : Option String
  exchanges : List HttpExchange
  sent : List SentRequest

inductive McpBackend
  | stdio (server : StdioServer)
  | http (transport : HttpTransport)

structure McpClient where
  backend : McpBackend
  nextRequestId : Nat
  serverName : String
  tools : List McpToolDescriptor

/-- The secrets that are hidden in what a server sends. -/
def McpBackend.redactions : McpBackend → List String
  | stdio server => server.redactions
  | http transport => transport.secretValues.map Prod.snd

/-- What the libraries of the client decide: JSON, and the texts that are names and values of
HTTP headers. -/
structure Libraries where
  json : JsonLibrary
  isHeaderName : String → Bool
  isHeaderValue : String → Bool

namespace StdioServer

/-- `write_message`. -/
def writeMessage (server : StdioServer) (message : Value) :
    Except McpClientError Unit × StdioServer :=
  if message.encodedSize + 1 > maxMcpFrameBytes then
    (.error (.frameTooLarge (message.encodedSize + 1) maxMcpFrameBytes), server)
  else
    match server.writeErrors with
    | some error :: later => (.error (.io error), { server with writeErrors := later })
    | none :: later =>
        (.ok (), { server with writeErrors := later, written := server.written ++ [message] })
    | [] => (.ok (), { server with written := server.written ++ [message] })

/-- A message that is not for any request. -/
def isNotification (members : List (String × Value)) : Bool :=
  (members.lookup "method").isSome && (members.lookup "id").isNone

/-- The loop of `receive_response`, with what is left of what is received. -/
def receiveLoop (library : JsonLibrary) (redactions : List String) (expectedId : Nat)
    (method : String) (timeoutMillis : Nat) :
    List Received → Except McpClientError Value × List Received
  | [] => (.error .childStopped, [])
  | .timedOut :: later => (.error (.timeout method timeoutMillis), later)
  | .disconnected :: later => (.error .childStopped, later)
  | .readError message :: later => (.error (.read message), later)
  | .eof :: later => (.error .childStopped, later)
  | .frame bytes :: later =>
      match library.fromSlice bytes with
      | .error message => (.error (.malformedJson message), later)
      | .ok value =>
          match value.asObject with
          | none => (.error (.malformedJson "JSON-RPC message must be an object"), later)
          | some members =>
              if isNotification members then
                receiveLoop library redactions expectedId method timeoutMillis later
              else (validateResponse library redactions value expectedId method, later)

/-- `receive_response`. -/
def receiveResponse (server : StdioServer) (library : JsonLibrary) (expectedId : Nat)
    (method : String) (timeoutMillis : Nat) : Except McpClientError Value × StdioServer :=
  let (result, received) :=
    receiveLoop library server.redactions expectedId method timeoutMillis server.received
  (result, { server with received })

end StdioServer

/-- A stretch of a stream up to its next line feed, and what is behind it. -/
def eventLines : List UInt8 → List (List UInt8)
  | [] => [[]]
  | byte :: bytes =>
      if byte = lineFeed then [] :: eventLines bytes
      else
        match eventLines bytes with
        | [] => [[byte]]
        | line :: lines => (byte :: line) :: lines

/-- `"data:"` -/
def dataField : List UInt8 := [100, 97, 116, 97, 58]

/-- `"[DONE]"` -/
def doneMark : List UInt8 := [91, 68, 79, 78, 69, 93]

/-- What a line of a stream says, unless it says nothing. -/
def eventData (line : List UInt8) : Option (List UInt8) :=
  match dataField.isPrefixOf? (popLast carriageReturn line) with
  | none => none
  | some data =>
      let data := (([32] : List UInt8).isPrefixOf? data).getD data
      if data = doneMark ∨ data = [] then none else some data

/-- The loop of `parse_sse`. -/
def parseEvents (library : JsonLibrary) (method : String) :
    List (List UInt8) → Except McpClientError Value
  | [] => .error (.invalidResponse method "MCP SSE response contained no JSON-RPC event")
  | line :: lines =>
      match eventData line with
      | none => parseEvents library method lines
      | some data =>
          match library.fromSlice data with
          | .error message =>
              .error (.malformedJson
                ("MCP SSE event for `" ++ method ++ "` is invalid: " ++ message))
          | .ok value =>
              if value.isObject then .ok value else parseEvents library method lines

/-- `parse_sse`. -/
def parseSse (library : JsonLibrary) (body : List UInt8) (method : String) :
    Except McpClientError Value :=
  parseEvents library method (eventLines body)

namespace HttpAnswer

/-- `read_bounded`. -/
def readBounded (answer : HttpAnswer) : Except McpClientError (List UInt8) :=
  if answer.contentLength.any (· > maxMcpResultBytes) then
    .error (.httpResponseTooLarge maxMcpResultBytes)
  else if answer.body.length > maxMcpResultBytes then
    .error (.httpResponseTooLarge maxMcpResultBytes)
  else
    match answer.bodyError with
    | some error => .error (.httpBodyRead error)
    | none => .ok answer.body

/-- `parse_response`. -/
def parse (answer : HttpAnswer) (library : JsonLibrary) (method : String) :
    Except McpClientError Value := do
  let body ← answer.readBounded
  if ¬ (200 ≤ answer.status ∧ answer.status < 300) then
    throw (.httpStatus answer.status)
  else if body = [] ∨ answer.status = 202 ∨ answer.status = 204 then
    return .null
  else if Strings.startsWith "text/event-stream" (toAsciiLowercase answer.contentType) then
    parseSse library body method
  else
    (library.fromSlice body).mapError .malformedJson

/-- A session id that a server may choose. -/
def acceptsSessionId (sessionId : String) : Bool :=
  sessionId ≠ "" && sessionId.utf8ByteSize ≤ maxSessionIdBytes &&
    ! sessionId.toList.any isControlCharacter

end HttpAnswer

namespace HttpTransport

variable (transport : HttpTransport)

/-- The value of a header that is sent, if the grant allows what it refers to. -/
def headerValue (secretGrant : SecretGrant) (configured : String) :
    Except McpClientError String :=
  match Strings.stripPrefix secretReferencePrefix configured with
  | none => .ok configured
  | some reference =>
      if ¬ secretGrant.allows reference then .error (.secretDenied reference)
      else
        match transport.secretValues.lookup reference with
        | none =>
            .error (.httpConfiguration "configured secret reference has no local value")
        | some value => .ok value

/-- The loop of `resolve_headers`. -/
def resolveHeaders (transport : HttpTransport) (libraries : Libraries)
    (secretGrant : SecretGrant) :
    List (String × String) → Except McpClientError (List (String × String))
  | [] => .ok []
  | (name, configured) :: headers => do
      let value ← transport.headerValue secretGrant configured
      if ¬ libraries.isHeaderName name then
        throw (.httpConfiguration "configured HTTP header name is invalid")
      else if ¬ libraries.isHeaderValue value then
        throw (.httpConfiguration "configured HTTP header value is invalid")
      else do
        let resolved ← transport.resolveHeaders libraries secretGrant headers
        return (name, value) :: resolved

/-- The headers of a request, the one of its session last. -/
def requestHeaders (libraries : Libraries)
    (secretGrant : SecretGrant) : Except McpClientError (List (String × String)) := do
  let headers ← transport.resolveHeaders libraries secretGrant transport.headers
  match transport.sessionId with
  | none => return headers
  | some sessionId =>
      if libraries.isHeaderValue sessionId then return headers ++ [("mcp-session-id", sessionId)]
      else throw (.httpConfiguration "MCP session id is invalid")

/-- The session a server has chosen, if it may. -/
def keepSession (answer : HttpAnswer) :
    Except McpClientError HttpTransport :=
  match answer.sessionId with
  | none => .ok transport
  | some sessionId =>
      if HttpAnswer.acceptsSessionId sessionId then
        .ok { transport with sessionId := some sessionId }
      else .error (.httpConfiguration "MCP response session id is invalid")

/-- What comes of a request that is sent. -/
def exchange (libraries : Libraries) (sent : SentRequest)
    (method : String) (timeoutMillis : Nat) : Except McpClientError Value × HttpTransport :=
  let transport := { transport with sent := transport.sent ++ [sent] }
  match transport.exchanges with
  | [] => (.error (.timeout method timeoutMillis), transport)
  | .timedOut :: later =>
      (.error (.timeout method timeoutMillis), { transport with exchanges := later })
  | .failed message :: later =>
      (.error (.httpTransport message), { transport with exchanges := later })
  | .answered answer :: later =>
      let transport := { transport with exchanges := later }
      match transport.keepSession answer with
      | .error error => (.error error, transport)
      | .ok transport => (answer.parse libraries.json method, transport)

/-- `HttpTransport::request`. -/
def request (libraries : Libraries) (payload : Value)
    (method : String) (timeoutMillis : Nat) (networkGrant : Option NetworkGrant)
    (secretGrant : Option SecretGrant) : Except McpClientError Value × HttpTransport :=
  if ¬ (networkGrant.getD transport.networkGrant).allowsUrl transport.endpoint then
    (.error (.networkDenied transport.endpoint), transport)
  else
    match transport.requestHeaders libraries (secretGrant.getD transport.secretGrant) with
    | .error error => (.error error, transport)
    | .ok headers =>
        if payload.encodedSize > maxMcpFrameBytes then
          (.error (.frameTooLarge payload.encodedSize maxMcpFrameBytes), transport)
        else
          transport.exchange libraries ⟨transport.endpoint, headers, payload⟩ method
            timeoutMillis

end HttpTransport

namespace McpClient

/-- `checked_add(1).unwrap_or(1)` of 64 bits. -/
def followingId (requestId : Nat) : Nat :=
  if requestId + 1 < 2 ^ 64 then requestId + 1 else 1

variable (client : McpClient)

variable (libraries : Libraries)

/-- The body of `request`, before a timeout is answered. -/
def exchange (requestId : Nat) (method : String)
    (params : Value) (timeoutMillis : Nat) (networkGrant : Option NetworkGrant)
    (secretGrant : Option SecretGrant) : Except McpClientError Value × McpClient :=
  let message : JsonRpcRequest := ⟨requestId, method, params⟩
  match client.backend with
  | .http transport =>
      let (response, transport) :=
        transport.request libraries message.toValue method timeoutMillis networkGrant
          secretGrant
      let client := { client with backend := .http transport }
      (response.bind fun value =>
        validateResponse libraries.json client.backend.redactions value requestId method, client)
  | .stdio server =>
      match server.writeMessage message.toJson with
      | (.error error, server) => (.error error, { client with backend := .stdio server })
      | (.ok (), server) =>
          let (response, server) :=
            server.receiveResponse libraries.json requestId method timeoutMillis
          (response, { client with backend := .stdio server })

/-- `send_notification`. -/
def sendNotification
    (notification : JsonRpcNotification) : Except McpClientError Unit × McpClient :=
  match client.backend with
  | .http transport =>
      let (response, transport) :=
        transport.request libraries notification.toJson notification.method
          cancelGraceTimeoutMillis none none
      (response.map fun _ => (), { client with backend := .http transport })
  | .stdio server =>
      let (response, server) := server.writeMessage notification.toJson
      (response, { client with backend := .stdio server })

/-- What a cancellation says. -/
def cancellation (requestId : Nat) (reason : String) : JsonRpcNotification :=
  ⟨cancelledNotification,
    .object [("reason", .string reason), ("requestId", .ofNat requestId)]⟩

/-- `cancel_request_with_authority`. -/
def cancelRequest (requestId : Nat)
    (reason : String) (networkGrant : Option NetworkGrant) (secretGrant : Option SecretGrant) :
    Except McpClientError Unit × McpClient :=
  if requestId = 0 then
    (.error (.invalidCancellation "request id must be greater than zero"), client)
  else if reason.utf8ByteSize > 1024 ∨ reason.toList.any isControlCharacter then
    (.error (.invalidCancellation "cancellation reason is invalid or too long"), client)
  else
    match client.backend with
    | .http transport =>
        let (response, transport) :=
          transport.request libraries (cancellation requestId reason).toJson
            cancelledNotification cancelGraceTimeoutMillis networkGrant secretGrant
        (response.map fun _ => (), { client with backend := .http transport })
    | .stdio _ => client.sendNotification libraries (cancellation requestId reason)

/-- `request`: a request that timed out is cancelled, whatever comes of the cancellation. -/
def request (client : McpClient) (libraries : Libraries) (method : String) (params : Value)
    (timeoutMillis : Nat) (networkGrant : Option NetworkGrant)
    (secretGrant : Option SecretGrant) : Except McpClientError Value × McpClient :=
  let requestId := client.nextRequestId
  let (result, client) :=
    ({ client with nextRequestId := followingId requestId } : McpClient).exchange libraries
      requestId method params timeoutMillis networkGrant secretGrant
  match result with
  | .error (.timeout timedOut after) =>
      (.error (.timeout timedOut after),
        (client.cancelRequest libraries requestId "request timed out" networkGrant
          secretGrant).2)
  | result => (result, client)

/-- `McpToolDescriptor::deserialize`. -/
def readDescriptor (value : Value) : Option McpToolDescriptor := do
  let field ← Value.fields ⟨["name", "description", "inputSchema"], 3, false⟩ value
  let name ← (field "name").bind Value.asStr
  let description ← (field "description").elim (some "") Value.asStr
  let inputSchema ← field "inputSchema"
  (McpToolDescriptor.new name description inputSchema).toOption

/-- The tools that the result of `tools/list` names. -/
def readTools (library : JsonLibrary) (serverName : String) (value : Value) :
    Except McpClientError McpToolListResult :=
  match value.asObject with
  | none => .error (.invalidResponse toolsListMethod "tools/list result must be an object")
  | some members =>
      match members.lookup "tools" with
      | none => .error (.invalidResponse toolsListMethod "tools/list result has no tools array")
      | some rawTools =>
          match rawTools.asArray.bind fun items => items.mapM readDescriptor with
          | none =>
              .error (.invalidResponse toolsListMethod
                ("invalid tool descriptor: " ++ library.fromValueError rawTools))
          | some tools =>
              (McpToolListResult.new serverName tools
                (present (members.lookup "nextCursor")).isSome).mapError fun error =>
                  .invalidResponse toolsListMethod error.display

/-- `list_tools`. -/
def listTools (timeoutMillis : Nat) :
    Except McpClientError McpToolListResult × McpClient :=
  match client.request libraries toolsListMethod (.object []) timeoutMillis none none with
  | (.error error, client) => (.error error, client)
  | (.ok value, client) =>
      match readTools libraries.json client.serverName value with
      | .error error => (.error error, client)
      | .ok result => (.ok result, { client with tools := result.tools })

/-- `call_tool_with_authority`. -/
def callTool (toolName : String)
    (arguments : Value) (networkGrant : Option NetworkGrant) (secretGrant : Option SecretGrant)
    (timeoutMillis : Nat) : Except McpClientError McpToolCallResult × McpClient :=
  if ¬ client.tools.any (·.name == toolName) then (.error (.unknownTool toolName), client)
  else
    match client.request libraries toolsCallMethod
        (.object [("arguments", arguments), ("name", .string toolName)]) timeoutMillis
        networkGrant secretGrant with
    | (.error error, client) => (.error error, client)
    | (.ok value, client) =>
        let isError := ((value.get "isError").bind Value.asBool).getD false
        ((McpToolCallResult.new client.serverName toolName value isError).mapError fun error =>
          .invalidResponse toolsCallMethod error.display, client)

/-- `validate_initialize_result`. -/
def validateInitializeResult (value : Value) : Except McpClientError Unit :=
  match value.asObject with
  | none => .error (.invalidResponse initializeMethod "initialize result must be an object")
  | some members =>
      match ((members.lookup "protocolVersion").bind Value.asStr).filter (¬ isBlank ·) with
      | none =>
          .error (.invalidResponse initializeMethod "initialize result has no protocolVersion")
      | some protocol =>
          if protocol.utf8ByteSize > 64 then
            .error (.invalidResponse initializeMethod "initialize protocolVersion is too long")
          else .ok ()

/-- What the client tells a server of itself. -/
def initializeParams (version : String) : Value :=
  .object [("capabilities", .object []),
    ("clientInfo", .object [("name", .string "yunxi-next-mcp"), ("version", .string version)]),
    ("protocolVersion", .string mcpProtocolVersion)]

/-- `start_with_authority`, once the backend is there. -/
def start (backend : McpBackend) (serverName version : String) (libraries : Libraries)
    (timeoutMillis : Nat) : Except McpClientError Unit × McpClient :=
  match (⟨backend, 1, serverName, []⟩ : McpClient).request libraries initializeMethod
      (initializeParams version) timeoutMillis none none with
  | (.error error, client) => (.error error, client)
  | (.ok answer, client) =>
      match validateInitializeResult answer with
      | .error error => (.error error, client)
      | .ok () =>
          match client.sendNotification libraries ⟨initializedNotification, .object []⟩ with
          | (.error error, client) => (.error error, client)
          | (.ok (), client) =>
              let (listed, client) := client.listTools libraries timeoutMillis
              (listed.map fun _ => (), client)

end McpClient

/-- `is_sensitive_environment_key`. -/
def isSensitiveEnvironmentKey (key : String) : Bool :=
  ["KEY", "TOKEN", "SECRET", "PASSWORD", "AUTH"].any fun marker =>
    decide (marker.toList <:+: key.toList.map Char.toUpper)

/-- The secrets `spawn_stdio` hides: the values of the sensitive variables of a process. -/
def environmentSecrets (environment : List (String × String)) : List String :=
  (environment.filter fun entry => isSensitiveEnvironmentKey entry.1 && entry.2 ≠ "").map
    Prod.snd

/-- The transport of `HttpTransport::new`, which keeps the secrets that its headers refer to;
building its HTTP client may fail. -/
def newTransport (endpoint : String) (headers secretValues : List (String × String))
    (networkGrant : NetworkGrant) (secretGrant : SecretGrant)
    (built : Except String (List HttpExchange)) : Except McpClientError HttpTransport := do
  if ¬ networkGrant.allowsUrl endpoint then throw (.networkDenied endpoint)
  else do
    let exchanges ← built.mapError .httpTransport
    let references := headers.filterMap fun header =>
      (Strings.stripPrefix secretReferencePrefix header.2).filter (· ≠ "")
    return {
      endpoint, headers, networkGrant, secretGrant, exchanges
      secretValues := secretValues.filter fun secret => references.contains secret.1
      sessionId := none
      sent := [] }

end ToolMcp
end YunXi
