import YunXi.Program.Utf8
import YunXi.ToolMcp.Hiding

/-!
# Operations on a client

The operations that a bridge asks of a started client, and runs of them.  No operation changes
which secrets are hidden, so no run of them discloses one.
-/

namespace YunXi
namespace ToolMcp

open Protocol

/-- What a client is asked for. -/
inductive McpOperation
  | listTools (timeoutMillis : Nat)
  | callTool (toolName : String) (arguments : Value) (networkGrant : Option NetworkGrant)
      (secretGrant : Option SecretGrant) (timeoutMillis : Nat)
  | cancelRequest (requestId : Nat) (reason : String)

inductive McpReply
  | listed (result : Except McpClientError McpToolListResult)
  | called (result : Except McpClientError McpToolCallResult)
  | cancelled (result : Except McpClientError Unit)

/-- Do one operation. -/
def McpOperation.perform (libraries : Libraries) (client : McpClient) :
    McpOperation → McpReply × McpClient
  | listTools timeoutMillis =>
      let (result, client) := client.listTools libraries timeoutMillis
      (.listed result, client)
  | callTool toolName arguments networkGrant secretGrant timeoutMillis =>
      let (result, client) := client.callTool libraries toolName arguments networkGrant
        secretGrant timeoutMillis
      (.called result, client)
  | .cancelRequest requestId reason =>
      let (result, client) := client.cancelRequest libraries requestId reason none none
      (.cancelled result, client)

/-- Do operations one after the other. -/
def performAll (libraries : Libraries) (client : McpClient) :
    List McpOperation → List McpReply × McpClient
  | [] => ([], client)
  | operation :: operations =>
      let (reply, client) := operation.perform libraries client
      let (replies, client) := performAll libraries client operations
      (reply :: replies, client)

section Secrets

variable (libraries : Libraries)

theorem secretValues_exchange (transport : HttpTransport) (sent : SentRequest)
    (method : String) (timeoutMillis : Nat) :
    (transport.exchange libraries sent method timeoutMillis).2.secretValues =
      transport.secretValues := by
  unfold HttpTransport.exchange
  dsimp only
  split
  · rfl
  · rfl
  · rfl
  · split
    · rfl
    · next kept =>
        unfold HttpTransport.keepSession at kept
        split at kept
        · cases kept
          rfl
        · split at kept
          · cases kept
            rfl
          · cases kept

theorem secretValues_request (transport : HttpTransport) (payload : Value) (method : String)
    (timeoutMillis : Nat) (networkGrant : Option NetworkGrant)
    (secretGrant : Option SecretGrant) :
    (transport.request libraries payload method timeoutMillis networkGrant
      secretGrant).2.secretValues = transport.secretValues := by
  unfold HttpTransport.request
  split
  · rfl
  · split
    · rfl
    · split
      · rfl
      · exact secretValues_exchange libraries transport _ method timeoutMillis

theorem redactions_writeMessage (server : StdioServer) (message : Value) :
    (server.writeMessage message).2.redactions = server.redactions := by
  unfold StdioServer.writeMessage
  split
  · rfl
  · split <;> rfl

variable (client : McpClient) (networkGrant : Option NetworkGrant)
  (secretGrant : Option SecretGrant)

theorem redactions_exchange (requestId : Nat) (method : String) (params : Value)
    (timeoutMillis : Nat) :
    (client.exchange libraries requestId method params timeoutMillis networkGrant
      secretGrant).2.backend.redactions = client.backend.redactions := by
  unfold McpClient.exchange
  dsimp only
  split
  · next transport isHttp =>
      rw [isHttp]
      exact congrArg (List.map Prod.snd)
        (secretValues_request libraries transport _ method timeoutMillis networkGrant secretGrant)
  · next server isStdio =>
      rw [isStdio]
      have same := redactions_writeMessage server
        (JsonRpcRequest.toJson ⟨requestId, method, params⟩)
      split
      · next wrote =>
          rw [wrote] at same
          exact same
      · next wrote =>
          rw [wrote] at same
          exact same

theorem redactions_sendNotification (notification : JsonRpcNotification) :
    (client.sendNotification libraries notification).2.backend.redactions =
      client.backend.redactions := by
  unfold McpClient.sendNotification
  split
  · next transport isHttp =>
      rw [isHttp]
      exact congrArg (List.map Prod.snd) (secretValues_request libraries transport _ _ _ _ _)
  · next server isStdio =>
      rw [isStdio]
      exact redactions_writeMessage server notification.toJson

theorem redactions_cancelRequest (requestId : Nat) (reason : String) :
    (client.cancelRequest libraries requestId reason networkGrant
      secretGrant).2.backend.redactions = client.backend.redactions := by
  unfold McpClient.cancelRequest
  split
  · rfl
  · split
    · rfl
    · split
      · next transport isHttp =>
          rw [isHttp]
          exact congrArg (List.map Prod.snd) (secretValues_request libraries transport _ _ _ _ _)
      · exact redactions_sendNotification libraries client _

theorem redactions_request (method : String) (params : Value) (timeoutMillis : Nat) :
    (client.request libraries method params timeoutMillis networkGrant
      secretGrant).2.backend.redactions = client.backend.redactions := by
  have same := redactions_exchange libraries
    { client with nextRequestId := McpClient.followingId client.nextRequestId } networkGrant
    secretGrant client.nextRequestId method params timeoutMillis
  unfold McpClient.request
  dsimp only
  split
  · rw [redactions_cancelRequest]
    exact same
  · exact same

end Secrets

theorem notRemote_writeMessage (server : StdioServer) (message : Value) :
    NotRemote (server.writeMessage message).1 := by
  unfold StdioServer.writeMessage
  split
  · rintro _ _ ⟨⟩
  · split
    · rintro _ _ ⟨⟩
    · exact notRemote_ok _
    · exact notRemote_ok _

section Requests

variable {secret : String} (libraries : Libraries) (client : McpClient)
  (among : secret ∈ client.backend.redactions) (concealable : Concealable secret)
  (networkGrant : Option NetworkGrant) (secretGrant : Option SecretGrant)

include among concealable

theorem conceals_exchange (requestId : Nat) (method : String) (params : Value)
    (timeoutMillis : Nat) :
    Conceals secret (client.exchange libraries requestId method params timeoutMillis
      networkGrant secretGrant).1 := by
  unfold McpClient.exchange
  dsimp only
  split
  · next transport isHttp =>
      have notRemote := notRemote_request transport libraries
        (JsonRpcRequest.toValue ⟨requestId, method, params⟩) method timeoutMillis networkGrant
        secretGrant
      have same := secretValues_request libraries transport
        (JsonRpcRequest.toValue ⟨requestId, method, params⟩) method timeoutMillis networkGrant
        secretGrant
      rw [isHttp] at among
      generalize transport.request libraries _ method timeoutMillis networkGrant secretGrant =
        answer at notRemote same ⊢
      obtain ⟨result, after⟩ := answer
      have hidden : secret ∈ after.secretValues.map Prod.snd := by
        rw [show after.secretValues = _ from same]
        exact among
      cases result with
      | ok value => exact conceals_validateResponse hidden concealable _ value requestId method
      | error error =>
          refine NotRemote.conceals (fun code message refused => ?_) fun value returned => ?_
          · cases refused
            exact notRemote code message rfl
          · cases returned
  · next server isStdio =>
      rw [isStdio] at among
      have same := redactions_writeMessage server
        (JsonRpcRequest.toJson ⟨requestId, method, params⟩)
      split
      · next error after wrote =>
          have notRemote := notRemote_writeMessage server
            (JsonRpcRequest.toJson ⟨requestId, method, params⟩)
          rw [wrote] at notRemote
          refine NotRemote.conceals (fun code message refused => ?_) fun value returned => ?_
          · cases refused
            exact notRemote code message rfl
          · cases returned
      · next after wrote =>
          rw [wrote] at same
          have hidden : secret ∈ after.redactions := by
            rw [show after.redactions = _ from same]
            exact among
          exact conceals_receiveLoop hidden concealable _ requestId method timeoutMillis _

theorem conceals_request (method : String) (params : Value) (timeoutMillis : Nat) :
    Conceals secret (client.request libraries method params timeoutMillis networkGrant
      secretGrant).1 := by
  have answer := conceals_exchange libraries
    { client with nextRequestId := McpClient.followingId client.nextRequestId } among concealable
    networkGrant secretGrant client.nextRequestId method params timeoutMillis
  unfold McpClient.request
  dsimp only
  split
  · trivial
  · exact answer

end Requests

/-- A tool whose strings all hide a secret. -/
structure ToolHides (secret : String) (tool : McpToolDescriptor) : Prop where
  name : Hides secret tool.name
  description : Hides secret tool.description
  inputSchema : ∀ text ∈ strings tool.inputSchema, Hides secret text

variable {value : Value}

theorem mem_of_lookup {members : List (String × Value)} {key : String}
    (found : members.lookup key = some value) : (key, value) ∈ members := by
  obtain ⟨before, after, rfl, -⟩ := List.lookup_eq_some_iff.mp found
  exact List.mem_append_right before List.mem_cons_self

/-- The strings of a field are strings of the value it is read from. -/
theorem strings_of_fields {shape : Value.StructShape} {field : Value}
    {fields : String → Option Value} {name text : String}
    (read : Value.fields shape value = some fields) (found : fields name = some field)
    (isText : text ∈ strings field) : text ∈ strings value := by
  unfold Value.fields at read
  split at read
  · next members =>
      split at read
      · cases read
      · cases read
        have member := mem_of_lookup found
        exact mem_memberStrings.mpr ⟨(name, field), member, isText⟩
  · next items =>
      split at read
      · cases read
        have member := List.of_mem_zip (mem_of_lookup found)
        exact mem_itemStrings.mpr ⟨field, member.2, isText⟩
      · cases read
  · cases read

theorem toolHides_readDescriptor {secret : String} {tool : McpToolDescriptor}
    (hidden : ∀ text ∈ strings value, Hides secret text)
    (read : McpClient.readDescriptor value = some tool) : ToolHides secret tool := by
  unfold McpClient.readDescriptor at read
  simp only [Option.bind_eq_bind, Option.bind_eq_some_iff, Except.toOption_eq_some] at read
  obtain ⟨fields, isFields, name, ⟨nameField, foundName, isName⟩, description, described,
    schema, foundSchema, built⟩ := read
  obtain ⟨passes, rfl⟩ := eq_of_construct built
  refine ⟨?_, ?_, fun text isText => hidden text (strings_of_fields isFields foundSchema isText)⟩
  · cases nameField with
    | string text =>
        cases isName
        exact hidden name (strings_of_fields isFields foundName (List.mem_singleton_self name))
    | _ => cases isName
  · cases foundDescription : fields "description" with
    | none =>
        rw [foundDescription] at described
        cases described
        simp only [validateDescriptor, Except.bind_eq_ok] at passes
        obtain ⟨_, -, _, checked, -⟩ := passes
        simp only [validateMcpText, Except.bind_eq_ok, refuseIf_eq_ok] at checked
        exact absurd rfl checked.choose_spec.1
    | some field =>
        rw [foundDescription] at described
        cases field with
        | string text =>
            cases described
            exact hidden description
              (strings_of_fields isFields foundDescription (List.mem_singleton_self description))
        | _ => cases described

theorem notRemote_readTools (library : JsonLibrary) (serverName : String) (value : Value) :
    NotRemote (McpClient.readTools library serverName value) := by
  unfold McpClient.readTools
  split
  · rintro _ _ ⟨⟩
  · split
    · rintro _ _ ⟨⟩
    · split
      · rintro _ _ ⟨⟩
      · generalize McpToolListResult.new serverName _ _ = listed
        cases listed with
        | ok result => exact notRemote_ok _
        | error error => rintro _ _ ⟨⟩

/-- Every tool that a list names hides what the value it is read from hides. -/
theorem toolHides_readTools {secret serverName : String} {library : JsonLibrary}
    {result : McpToolListResult}
    (hidden : ∀ text ∈ strings value, Hides secret text)
    (read : McpClient.readTools library serverName value = .ok result) :
    ∀ tool ∈ result.tools, ToolHides secret tool := by
  unfold McpClient.readTools at read
  split at read
  · cases read
  · next members isObject =>
      split at read
      · cases read
      · next rawTools found =>
          split at read
          · cases read
          · next tools all =>
              obtain ⟨passes, rfl⟩ := eq_of_construct (Except.mapError_eq_ok.mp read)
              obtain ⟨items, isArray, each⟩ := Option.bind_eq_some_iff.mp all
              intro tool among
              obtain ⟨item, isItem, isTool⟩ := Value.mem_of_mapM_eq_some each among
              refine toolHides_readDescriptor (fun text isText => hidden text ?_) isTool
              cases value with
              | object pairs =>
                  cases isObject
                  cases rawTools with
                  | array elements =>
                      cases isArray
                      exact mem_memberStrings.mpr ⟨("tools", .array items), mem_of_lookup found,
                        mem_itemStrings.mpr ⟨item, isItem, isText⟩⟩
                  | _ => cases isArray
              | _ => cases isObject

/-- A client that hides a secret, in what it receives and in the tools it keeps. -/
structure ClientHides (secret : String) (client : McpClient) : Prop where
  among : secret ∈ client.backend.redactions
  tools : ∀ tool ∈ client.tools, ToolHides secret tool

/-- A reply with no secret in the strings and messages that are redacted. -/
def McpReply.Conceals (secret : String) : McpReply → Prop
  | listed (.ok result) => ∀ tool ∈ result.tools, ToolHides secret tool
  | called (.ok result) => ∀ text ∈ strings result.output, Hides secret text
  | listed (.error (.remote _ message)) | called (.error (.remote _ message))
  | cancelled (.error (.remote _ message)) => Hides secret message
  | listed (.error _) | called (.error _) | cancelled _ => True

section Runs

variable {secret : String} (libraries : Libraries)

theorem tools_exchange (client : McpClient) (requestId : Nat) (method : String)
    (params : Value) (timeoutMillis : Nat) (networkGrant : Option NetworkGrant)
    (secretGrant : Option SecretGrant) :
    (client.exchange libraries requestId method params timeoutMillis networkGrant
      secretGrant).2.tools = client.tools := by
  unfold McpClient.exchange
  dsimp only
  split
  · rfl
  · split <;> rfl

theorem tools_sendNotification (client : McpClient) (notification : JsonRpcNotification) :
    (client.sendNotification libraries notification).2.tools = client.tools := by
  unfold McpClient.sendNotification
  split <;> rfl

theorem tools_cancelRequest (client : McpClient) (requestId : Nat) (reason : String)
    (networkGrant : Option NetworkGrant) (secretGrant : Option SecretGrant) :
    (client.cancelRequest libraries requestId reason networkGrant secretGrant).2.tools =
      client.tools := by
  unfold McpClient.cancelRequest
  split
  · rfl
  · split
    · rfl
    · split
      · rfl
      · exact tools_sendNotification libraries client _

theorem tools_request (client : McpClient) (method : String) (params : Value)
    (timeoutMillis : Nat) (networkGrant : Option NetworkGrant)
    (secretGrant : Option SecretGrant) :
    (client.request libraries method params timeoutMillis networkGrant secretGrant).2.tools =
      client.tools := by
  have same := tools_exchange libraries
    { client with nextRequestId := McpClient.followingId client.nextRequestId }
    client.nextRequestId method params timeoutMillis networkGrant secretGrant
  unfold McpClient.request
  dsimp only
  split
  · rw [tools_cancelRequest]
    exact same
  · exact same

variable {client : McpClient}

/-- A request leaves a client that hides a secret as it was in this. -/
theorem ClientHides.request (hides : ClientHides secret client)
    (method : String) (params : Value) (timeoutMillis : Nat)
    (networkGrant : Option NetworkGrant) (secretGrant : Option SecretGrant) :
    ClientHides secret (client.request libraries method params timeoutMillis networkGrant
      secretGrant).2 where
  among := by
    rw [redactions_request]
    exact hides.among
  tools := by
    rw [tools_request]
    exact hides.tools

theorem ClientHides.listTools (hides : ClientHides secret client)
    (concealable : Concealable secret) (timeoutMillis : Nat) :
    (McpReply.listed (client.listTools libraries timeoutMillis).1).Conceals secret ∧
      ClientHides secret (client.listTools libraries timeoutMillis).2 := by
  have answer := conceals_request libraries client hides.among concealable none none
    toolsListMethod (.object []) timeoutMillis
  have after := hides.request libraries toolsListMethod (.object []) timeoutMillis none none
  unfold McpClient.listTools
  generalize client.request libraries toolsListMethod (.object []) timeoutMillis none none =
    outcome at answer after ⊢
  obtain ⟨result, later⟩ := outcome
  cases result with
  | error error =>
      refine ⟨?_, after⟩
      cases error with
      | remote code message => exact answer
      | _ => trivial
  | ok value =>
      dsimp only
      cases read : McpClient.readTools libraries.json later.serverName value with
      | error error =>
          refine ⟨?_, after⟩
          have notRemote := notRemote_readTools libraries.json later.serverName value
          rw [read] at notRemote
          cases error with
          | remote code message => exact absurd rfl (notRemote code message)
          | _ => trivial
      | ok result =>
          have named := toolHides_readTools answer read
          exact ⟨named, after.among, named⟩

theorem ClientHides.callTool (hides : ClientHides secret client)
    (concealable : Concealable secret) (toolName : String) (arguments : Value)
    (networkGrant : Option NetworkGrant) (secretGrant : Option SecretGrant)
    (timeoutMillis : Nat) :
    (McpReply.called (client.callTool libraries toolName arguments networkGrant secretGrant
        timeoutMillis).1).Conceals secret ∧
      ClientHides secret (client.callTool libraries toolName arguments networkGrant secretGrant
        timeoutMillis).2 := by
  unfold McpClient.callTool
  split
  · exact ⟨trivial, hides⟩
  · have answer := conceals_request libraries client hides.among concealable networkGrant
      secretGrant toolsCallMethod
      (.object [("arguments", arguments), ("name", .string toolName)]) timeoutMillis
    have after := hides.request libraries toolsCallMethod
      (.object [("arguments", arguments), ("name", .string toolName)]) timeoutMillis
      networkGrant secretGrant
    generalize client.request libraries toolsCallMethod _ timeoutMillis networkGrant
      secretGrant = outcome at answer after ⊢
    obtain ⟨result, later⟩ := outcome
    cases result with
    | error error =>
        refine ⟨?_, after⟩
        cases error with
        | remote code message => exact answer
        | _ => trivial
    | ok value =>
        refine ⟨?_, after⟩
        dsimp only
        generalize built : McpToolCallResult.new later.serverName toolName value _ = result
        cases result with
        | error refused => trivial
        | ok result =>
            obtain ⟨passes, rfl⟩ := eq_of_construct built
            exact answer

theorem ClientHides.cancelRequest (hides : ClientHides secret client)
    (requestId : Nat) (reason : String) :
    ClientHides secret (client.cancelRequest libraries requestId reason none none).2 where
  among := by
    rw [redactions_cancelRequest]
    exact hides.among
  tools := by
    rw [tools_cancelRequest]
    exact hides.tools

theorem notRemote_map {α β : Type} {result : Except McpClientError α} (change : α → β)
    (notRemote : NotRemote result) : NotRemote (result.map change) := by
  cases result with
  | ok value => exact notRemote_ok _
  | error error =>
      intro code message same
      cases same
      exact notRemote code message rfl

theorem notRemote_sendNotification (client : McpClient) (notification : JsonRpcNotification) :
    NotRemote (client.sendNotification libraries notification).1 := by
  unfold McpClient.sendNotification
  split
  · next transport _ =>
      exact notRemote_map _
        (notRemote_request transport libraries notification.toJson notification.method
          cancelGraceTimeoutMillis none none)
  · next server _ =>
      have wrote := notRemote_writeMessage server notification.toJson
      generalize server.writeMessage notification.toJson = outcome at wrote ⊢
      exact wrote

/-- What comes of a cancellation is no message of a server. -/
theorem notRemote_cancelRequest (client : McpClient) (requestId : Nat) (reason : String)
    (networkGrant : Option NetworkGrant) (secretGrant : Option SecretGrant) :
    NotRemote (client.cancelRequest libraries requestId reason networkGrant secretGrant).1 := by
  unfold McpClient.cancelRequest
  split
  · rintro _ _ ⟨⟩
  · split
    · rintro _ _ ⟨⟩
    · split
      · exact notRemote_map _ (notRemote_request _ _ _ _ _ _ _)
      · exact notRemote_sendNotification libraries client _

/-- One operation discloses no secret, and the client goes on hiding it. -/
theorem ClientHides.perform (hides : ClientHides secret client)
    (concealable : Concealable secret) (operation : McpOperation) :
    (operation.perform libraries client).1.Conceals secret ∧
      ClientHides secret (operation.perform libraries client).2 := by
  cases operation with
  | listTools timeoutMillis => exact hides.listTools libraries concealable timeoutMillis
  | callTool toolName arguments networkGrant secretGrant timeoutMillis =>
      exact hides.callTool libraries concealable toolName arguments networkGrant secretGrant
        timeoutMillis
  | cancelRequest requestId reason =>
      refine ⟨?_, hides.cancelRequest libraries requestId reason⟩
      have notRemote := notRemote_cancelRequest libraries client requestId reason none none
      unfold McpOperation.perform
      dsimp only
      cases result : (client.cancelRequest libraries requestId reason none none).1 with
      | ok => trivial
      | error error =>
          rw [result] at notRemote
          cases error with
          | remote code message => exact absurd rfl (notRemote code message)
          | _ => trivial

theorem ClientHides.performAll (hides : ClientHides secret client)
    (concealable : Concealable secret) (operations : List McpOperation) :
    (∀ reply ∈ (ToolMcp.performAll libraries client operations).1, reply.Conceals secret) ∧
      ClientHides secret (ToolMcp.performAll libraries client operations).2 := by
  induction operations generalizing client with
  | nil => exact ⟨fun _ member => absurd member List.not_mem_nil, hides⟩
  | cons operation operations ih =>
      have one := hides.perform libraries concealable operation
      have rest := ih one.2
      exact ⟨List.forall_mem_cons.mpr ⟨one.1, rest.1⟩, rest.2⟩

/-- A client starts hiding the secrets of its backend. -/
theorem clientHides_start {backend : McpBackend} (among : secret ∈ backend.redactions)
    (concealable : Concealable secret) (serverName version : String) (timeoutMillis : Nat) :
    ClientHides secret
      (McpClient.start backend serverName version libraries timeoutMillis).2 := by
  have fresh : ClientHides secret ⟨backend, 1, serverName, []⟩ :=
    ⟨among, fun _ member => absurd member List.not_mem_nil⟩
  have first := fresh.request libraries initializeMethod (McpClient.initializeParams version)
    timeoutMillis none none
  unfold McpClient.start
  generalize McpClient.request _ libraries initializeMethod _ timeoutMillis none none = outcome
    at first ⊢
  obtain ⟨result, asked⟩ := outcome
  cases result with
  | error error => exact first
  | ok answer =>
      dsimp only
      split
      · exact first
      · have redactions := redactions_sendNotification libraries asked
          ⟨initializedNotification, .object []⟩
        have tools := tools_sendNotification libraries asked
          ⟨initializedNotification, .object []⟩
        generalize asked.sendNotification libraries _ = outcome at redactions tools ⊢
        obtain ⟨sent, told⟩ := outcome
        have ready : ClientHides secret told :=
          ⟨by rw [show told.backend.redactions = _ from redactions]; exact first.among,
            by rw [show told.tools = _ from tools]; exact first.tools⟩
        cases sent with
        | error error => exact ready
        | ok => exact (ready.listTools libraries concealable timeoutMillis).2

end Runs

/-- Over either transport, and whatever the server sends, no run of operations on a client that
was started returns or keeps a string, or returns a refusal, with a secret of its server that
can be concealed. -/
theorem secrets_stay_hidden (libraries : Libraries) (backend : McpBackend)
    (serverName version : String) (timeoutMillis : Nat) (operations : List McpOperation) :
    ∀ client,
      McpClient.start backend serverName version libraries timeoutMillis = (.ok (), client) →
      ∀ secret ∈ backend.redactions, Concealable secret →
        (∀ reply ∈ (performAll libraries client operations).1, reply.Conceals secret) ∧
          ∀ tool ∈ (performAll libraries client operations).2.tools, ToolHides secret tool := by
  intro client started secret among concealable
  have hides := clientHides_start libraries among concealable serverName version timeoutMillis
  rw [started] at hides
  have run := hides.performAll libraries concealable operations
  exact ⟨run.1, run.2.tools⟩

/-- The response to a request. -/
def responseMessage (id : Nat) (result : Value) : Value :=
  .object [("jsonrpc", .string "2.0"), ("id", .ofNat id), ("result", result)]

def frameOf (message : Value) : List UInt8 := Utf8.encode message.write

/-- A server with one tool, which answers one call with the token it was started with. -/
def echoMessages : List Value :=
  [responseMessage 1 (.object [("protocolVersion", .string "2024-11-05")]),
    responseMessage 2 (.object [("tools", .array [.object [("name", .string "echo"),
      ("description", .string "Echo"), ("inputSchema", .object [])]])]),
    responseMessage 3 (.object [("content", .string "token=t0k3n")])]

def echoLibraries : Libraries where
  json :=
    { fromSlice := fun bytes =>
        ((echoMessages.find? fun message => frameOf message = bytes).map .ok).getD
          (.error "expected value at line 1 column 1")
      fromValueError := fun _ => "invalid type" }
  isHeaderName := fun _ => true
  isHeaderValue := fun _ => true

def echoBackend : McpBackend :=
  .stdio ⟨echoMessages.map fun message => .frame (frameOf message), [], [],
    environmentSecrets [("API_TOKEN", "t0k3n"), ("PATH", "/bin")]⟩

theorem secrets_stay_hidden_echo : ∃ client,
    McpClient.start echoBackend "echo" "1.0.0" echoLibraries 10000 = (.ok (), client) ∧
      (∀ reply ∈ (performAll echoLibraries client
        [.callTool "echo" (.object []) none none 1000]).1, reply.Conceals "t0k3n") ∧
      ∀ tool ∈ (performAll echoLibraries client
        [.callTool "echo" (.object []) none none 1000]).2.tools, ToolHides "t0k3n" tool := by
  have started : (McpClient.start echoBackend "echo" "1.0.0" echoLibraries 10000).1.isOk =
      true := by decide +kernel
  generalize isStart : McpClient.start echoBackend "echo" "1.0.0" echoLibraries 10000 = outcome
    at started
  obtain ⟨result, client⟩ := outcome
  obtain ⟨result, rfl⟩ := Except.exists_of_isOk started
  refine ⟨client, rfl, ?_⟩
  exact secrets_stay_hidden echoLibraries echoBackend "echo" "1.0.0" 10000 _ client isStart
    "t0k3n" (by decide +kernel) (by decide +kernel)

end ToolMcp
end YunXi
