import YunXi.ToolMcp.Bridge

/-!
# The grants behind what a bridge sends

A bridge has no authority of its own.  A client over HTTP is started with the grants of a list
request, and a call is made with the grants of the call, so whatever is sent to the server was
allowed by grants that came with an invocation.
-/

namespace YunXi
namespace ToolMcp

open Protocol
open PluginHost (HostInput InvocationRequest invocationsOf serve_keeps)

/-- What a client has sent over HTTP. -/
def McpBackend.sentRequests : McpBackend → List SentRequest
  | stdio _ => []
  | http transport => transport.sent

variable (setting : BridgeSetting)

/-- The grants that a host hands over with an invocation. -/
def BridgeSetting.grantsOf (request : InvocationRequest) :
    Option (NetworkGrant × SecretGrant) :=
  if request.operation = toolMcpListOperation then
    (setting.decoders.list request.payload).toOption.map fun list =>
      (list.networkGrant.getD .none, list.secretGrant.getD .empty)
  else if request.operation = toolMcpCallOperation then
    (setting.decoders.call request.payload).toOption.map fun call =>
      (call.networkGrant, call.secretGrant)
  else none

/-- The value of a header of a configuration: as it is written there, or a secret that a grant
allows. -/
def ValueAllowed (secretValues : List (String × String)) (secretGrant : SecretGrant)
    (configured value : String) : Prop :=
  value = configured ∨ ∃ reference,
    Strings.stripPrefix secretReferencePrefix configured = some reference ∧
      secretGrant.allows reference = true ∧ (reference, value) ∈ secretValues

variable (config : HttpConfig)

/-- A request to an endpoint that a network grant allows, whose headers are those that are
configured, with the secrets that a secret grant allows. -/
structure Allowed (networkGrant : NetworkGrant) (secretGrant : SecretGrant)
    (request : SentRequest) : Prop where
  endpoint : request.endpoint = config.endpoint
  network : networkGrant.allowsUrl config.endpoint = true
  headers : ∀ header ∈ request.headers, header.1 = "mcp-session-id" ∨
    ∃ configured, (header.1, configured) ∈ config.headers ∧
      ValueAllowed config.secretValues secretGrant configured header.2

/-- A request that is allowed by the grants of one of some invocations. -/
def AllowedByOne (seen : List InvocationRequest) (request : SentRequest) : Prop :=
  ∃ invocation ∈ seen, ∃ networkGrant secretGrant,
    setting.grantsOf invocation = some (networkGrant, secretGrant) ∧
      Allowed config networkGrant secretGrant request

/-- A transport of a configuration with the grants of an invocation, which has sent nothing that
no invocation allows. -/
structure Grounded (seen : List InvocationRequest) (transport : HttpTransport) : Prop where
  endpoint : transport.endpoint = config.endpoint
  headers : transport.headers = config.headers
  secretValues : transport.secretValues ⊆ config.secretValues
  granted : ∃ invocation ∈ seen,
    setting.grantsOf invocation = some (transport.networkGrant, transport.secretGrant)
  sent : ∀ request ∈ transport.sent, AllowedByOne setting config seen request

/-- A client over such a transport. -/
def ClientGrounded (seen : List InvocationRequest) (client : McpClient) : Prop :=
  ∃ transport, client.backend = .http transport ∧ Grounded setting config seen transport

section Grounding

variable {setting : BridgeSetting} {config : HttpConfig} {seen : List InvocationRequest}

variable {transport : HttpTransport}

theorem Grounded.mono {more : List InvocationRequest}
    (grounded : Grounded setting config seen transport)
    (among : seen ⊆ more) : Grounded setting config more transport where
  endpoint := grounded.endpoint
  headers := grounded.headers
  secretValues := grounded.secretValues
  granted := grounded.granted.imp fun _ invocation => ⟨among invocation.1, invocation.2⟩
  sent := fun request member =>
    (grounded.sent request member).imp fun _ invocation => ⟨among invocation.1, invocation.2⟩

theorem valueAllowed_of_headerPermitted {secretGrant : SecretGrant}
    {configured value : String} (among : transport.secretValues ⊆ secretValues)
    (permitted : HeaderPermitted transport secretGrant configured value) :
    ValueAllowed secretValues secretGrant configured value := by
  unfold HeaderPermitted at permitted
  split at permitted
  · exact .inl permitted
  · next reference isReference =>
      obtain ⟨before, after, split, -⟩ := List.lookup_eq_some_iff.mp permitted.2
      refine .inr ⟨reference, isReference, permitted.1, among ?_⟩
      rw [split]
      exact List.mem_append_right before List.mem_cons_self

/-- What the grants of an operation permit is allowed by them. -/
theorem Grounded.allowed {networkGrant : Option NetworkGrant}
    {secretGrant : Option SecretGrant} {request : SentRequest}
    (grounded : Grounded setting config seen transport)
    (permitted : Permitted transport networkGrant secretGrant request) :
    Allowed config (networkGrant.getD transport.networkGrant)
      (secretGrant.getD transport.secretGrant) request where
  endpoint := permitted.endpoint.trans grounded.endpoint
  network := by
    rw [← grounded.endpoint, ← permitted.endpoint]
    exact permitted.network
  headers := by
    intro header member
    refine (permitted.headers header member).imp_right ?_
    rintro ⟨configured, isConfigured, allowed⟩
    rw [grounded.headers] at isConfigured
    exact ⟨configured, isConfigured,
      valueAllowed_of_headerPermitted grounded.secretValues allowed⟩

/-- An operation keeps a client grounded if its grants came with an invocation. -/
theorem Grounded.hasSent {client : McpClient}
    {networkGrant : Option NetworkGrant} {secretGrant : Option SecretGrant}
    (grounded : Grounded setting config seen transport)
    (hasSent : HasSent networkGrant secretGrant transport client)
    (carried : ∃ invocation ∈ seen, setting.grantsOf invocation =
      some (networkGrant.getD transport.networkGrant, secretGrant.getD transport.secretGrant)) :
    ClientGrounded setting config seen client := by
  obtain ⟨after, sent, isAfter, sends⟩ := hasSent
  obtain ⟨invocation, member, isGranted⟩ := carried
  refine ⟨after, isAfter, ?_⟩
  constructor
  case endpoint => exact sends.same.endpoint.trans grounded.endpoint
  case headers => exact sends.same.headers.trans grounded.headers
  case secretValues => rw [sends.same.secretValues]; exact grounded.secretValues
  case granted =>
    rw [sends.same.networkGrant, sends.same.secretGrant]
    exact grounded.granted
  case sent =>
    intro request isSent
    rw [sends.log] at isSent
    rcases List.mem_append.mp isSent with early | late
    · exact grounded.sent request early
    · exact ⟨invocation, member, _, _, isGranted,
        grounded.allowed (sends.permitted request late)⟩

/-- What is done with the grants of the transport keeps a client grounded. -/
theorem ClientGrounded.own {client after : McpClient}
    (grounded : ClientGrounded setting config seen client)
    (hasSent : ∀ transport, client.backend = .http transport →
      HasSent none none transport after) :
    ClientGrounded setting config seen after := by
  obtain ⟨transport, isHttp, grounded⟩ := grounded
  exact grounded.hasSent (hasSent transport isHttp) grounded.granted

/-- What an invocation leaves behind, after a client that was there before it. -/
def HandledGrounded (setting : BridgeSetting) (config : HttpConfig)
    (seen : List InvocationRequest) (client : Option McpClient) : Prop :=
  ∀ running, client = some running → ClientGrounded setting config seen running

theorem handledGrounded_some {client : McpClient}
    (grounded : ClientGrounded setting config seen client) :
    HandledGrounded setting config seen (some client) := by
  rintro _ ⟨⟩
  exact grounded

theorem HandledGrounded.mono {client : Option McpClient} {more : List InvocationRequest}
    (grounded : HandledGrounded setting config seen client) (among : seen ⊆ more) :
    HandledGrounded setting config more client := by
  intro running isRunning
  obtain ⟨transport, isHttp, kept⟩ := grounded running isRunning
  exact ⟨transport, isHttp, kept.mono among⟩

section Http

variable {built : Except String (List HttpExchange)}
  (isHttp : setting.transport = .http config built)

include isHttp

/-- The backend of a configuration has the grants it is made with, and the network grant allows
its endpoint. -/
theorem backend_http {networkGrant : NetworkGrant} {secretGrant : SecretGrant}
    {backend : McpBackend} (isBackend : setting.backend networkGrant secretGrant = .ok backend) :
    networkGrant.allowsUrl config.endpoint = true ∧
      ∃ transport, backend = .http transport ∧ transport.endpoint = config.endpoint ∧
        transport.headers = config.headers ∧ transport.secretValues ⊆ config.secretValues ∧
        transport.networkGrant = networkGrant ∧ transport.secretGrant = secretGrant ∧
        transport.sent = [] := by
  unfold BridgeSetting.backend newTransport at isBackend
  rw [isHttp] at isBackend
  dsimp only at isBackend
  split at isBackend
  · cases isBackend
  · next allowed =>
      cases built with
      | error message => cases isBackend
      | ok exchanges =>
          cases isBackend
          exact ⟨not_not.mp allowed, _, rfl, rfl, rfl,
            fun _ member => (List.mem_filter.mp member).1, rfl, rfl, rfl⟩

/-- A client is started with grants that came with an invocation, or not at all. -/
theorem ensureClient_grounded {client : Option McpClient} (networkGrant : Option NetworkGrant)
    (secretGrant : Option SecretGrant) (grounded : HandledGrounded setting config seen client)
    (carried : networkGrant = none ∨ ∃ invocation ∈ seen, setting.grantsOf invocation =
      some (networkGrant.getD .none, secretGrant.getD .empty)) :
    HandledGrounded setting config seen
      (setting.ensureClient client networkGrant secretGrant).2 ∧
    (∀ running, (setting.ensureClient client networkGrant secretGrant).1 = .ok running →
      ClientGrounded setting config seen running) := by
  unfold BridgeSetting.ensureClient
  split
  · next running =>
      refine ⟨?_, ?_⟩
      · rintro _ ⟨⟩
        exact grounded running rfl
      · rintro _ ⟨⟩
        exact grounded running rfl
  · split
    · exact ⟨by rintro _ ⟨⟩, by rintro _ ⟨⟩⟩
    · next backend isBackend =>
        obtain ⟨allowed, transport, rfl, endpoint, headers, secretValues, network, secret,
          nothing⟩ := backend_http isHttp isBackend
        have granted : ∃ invocation ∈ seen, setting.grantsOf invocation =
            some (transport.networkGrant, transport.secretGrant) := by
          rw [network, secret]
          rcases carried with noGrant | carried
          · rw [noGrant] at allowed
            cases allowed
          · exact carried
        have fresh : Grounded setting config seen transport := by
          refine ⟨endpoint, headers, secretValues, granted, fun request member => ?_⟩
          rw [nothing] at member
          cases member
        have started := fresh.hasSent (start_hasSent setting.libraries transport
          setting.serverName setting.version discoveryTimeoutMillis) granted
        split
        · next startedWith =>
            rw [startedWith] at started
            refine ⟨?_, by rintro _ ⟨⟩⟩
            rintro _ ⟨⟩
            exact started
        · next startedWith =>
            rw [startedWith] at started
            refine ⟨?_, ?_⟩
            · rintro _ ⟨⟩
              exact started
            · rintro _ ⟨⟩
              exact started

variable {client : Option McpClient} {request : InvocationRequest}
  (grounded : HandledGrounded setting config seen client) (among : request ∈ seen)

include grounded among

theorem handleList_grounded (isList : request.operation = toolMcpListOperation) :
    HandledGrounded setting config seen
      (setting.handleList client request.requestId request.payload).2 := by
  unfold BridgeSetting.handleList
  split
  · exact grounded
  · next list decoded =>
      split
      · exact grounded
      · have carried : ∃ invocation ∈ seen, setting.grantsOf invocation =
            some (list.networkGrant.getD .none, list.secretGrant.getD .empty) := by
          refine ⟨request, among, ?_⟩
          unfold BridgeSetting.grantsOf
          rw [if_pos isList, decoded]
          rfl
        have ensured := ensureClient_grounded isHttp list.networkGrant list.secretGrant grounded
          (.inr carried)
        split
        · next failed =>
            rw [failed] at ensured
            exact ensured.1
        · next running _ started =>
            rw [started] at ensured
            have ready := ensured.2 running rfl
            have after : ClientGrounded setting config seen
                (if list.refresh then running.listTools setting.libraries discoveryTimeoutMillis
                  else ((McpToolListResult.new running.serverName running.tools false).mapError
                    fun error => .invalidResponse toolsListMethod error.display, running)).2 := by
              split
              · exact ready.own fun _ isRunning =>
                  listTools_hasSent setting.libraries isRunning discoveryTimeoutMillis
              · exact ready
            dsimp only
            split
            · exact handledGrounded_some after
            · exact handledGrounded_some after

theorem handleCall_grounded (isCall : request.operation = toolMcpCallOperation) :
    HandledGrounded setting config seen
      (setting.handleCall client request.requestId request.payload).2 := by
  have ensured := ensureClient_grounded isHttp none none grounded (.inl rfl)
  unfold BridgeSetting.handleCall
  split
  · exact grounded
  · next call decoded =>
      split
      · next failed =>
          rw [failed] at ensured
          exact ensured.1
      · next running _ started =>
          rw [started] at ensured
          have ready := ensured.2 running rfl
          split
          · exact handledGrounded_some ready
          · have isGranted : setting.grantsOf request =
                some (call.networkGrant, call.secretGrant) := by
              unfold BridgeSetting.grantsOf
              rw [if_neg (by rw [isCall]; decide), if_pos isCall, decoded]
              rfl
            obtain ⟨transport, isRunning, sending⟩ := ready
            have after := sending.hasSent
              (callTool_hasSent (some call.networkGrant) (some call.secretGrant)
                setting.libraries isRunning call.toolName call.arguments call.timeoutMillis)
              ⟨request, among, isGranted⟩
            dsimp only
            split
            · exact handledGrounded_some after
            · exact handledGrounded_some after

omit isHttp among in
theorem handleCancel_grounded : HandledGrounded setting config seen
      (setting.handleCancel client request.requestId request.payload).2 := by
  unfold BridgeSetting.handleCancel
  split
  · exact grounded
  · split
    · exact grounded
    · next running =>
        have ready := grounded running rfl
        split
        · exact handledGrounded_some ready
        · exact handledGrounded_some (ready.own fun _ isRunning =>
            cancelRequest_hasSent none none setting.libraries isRunning _ _)

omit among in
theorem handleStatus_grounded : HandledGrounded setting config seen
      (setting.handleStatus client request.requestId request.payload).2 := by
  have ensured := ensureClient_grounded isHttp none none grounded (.inl rfl)
  unfold BridgeSetting.handleStatus
  split
  · exact grounded
  · split
    · next failed =>
        rw [failed] at ensured
        exact ensured.1
    · next running _ started =>
        rw [started] at ensured
        have ready := ensured.2 running rfl
        split
        · exact handledGrounded_some ready
        · exact handledGrounded_some ready

/-- One invocation sends nothing that its own grants or those of the client do not allow. -/
theorem handle_grounded :
    HandledGrounded setting config seen (setting.handle client request).2 := by
  unfold BridgeSetting.handle
  split
  · exact grounded
  · split
    · next isList => exact handleList_grounded isHttp grounded among isList
    · split
      · next isCall => exact handleCall_grounded isHttp grounded among isCall
      · split
        · exact handleCancel_grounded grounded
        · split
          · exact handleStatus_grounded isHttp grounded
          · exact grounded

end Http

theorem run_grounded {built : Except String (List HttpExchange)}
    (isHttp : setting.transport = .http config built)
    (plugin : PluginHost.ServingPlugin (Option McpClient)) (inputs : List HostInput)
    (grounded : HandledGrounded setting config seen plugin.state) :
    HandledGrounded setting config (seen ++ invocationsOf inputs)
      (setting.run plugin inputs).2.state :=
  serve_keeps (HandledGrounded setting config) (fun among kept => kept.mono among)
    (fun _ _ _ among kept => handle_grounded isHttp kept among) plugin grounded inputs

end Grounding

/-- Whatever a bridge sends to a server over HTTP is allowed by the grants of an invocation that
it has received: it goes to the endpoint of the configuration, which the network grant allows,
and carries no secret that the secret grant does not allow. -/
theorem bridge_permitted
    (built : Except String (List HttpExchange)) (isHttp : setting.transport = .http config built)
    (sends : List (Option PluginHost.SessionError)) (inputs : List HostInput) :
    ∀ client, (setting.run ⟨none, sends, []⟩ inputs).2.state = some client →
      ∀ request ∈ client.backend.sentRequests,
        AllowedByOne setting config (invocationsOf inputs) request := by
  intro client isClient
  have nothing : HandledGrounded setting config [] (none : Option McpClient) := by
    rintro _ ⟨⟩
  obtain ⟨transport, isTransport, grounded⟩ :=
    run_grounded isHttp ⟨none, sends, []⟩ inputs nothing client isClient
  rw [isTransport]
  exact grounded.sent

/-- The answer of a server over HTTP. -/
def answerOf (status : Nat) (body : List UInt8) : HttpExchange :=
  .answered ⟨status, some "session-1", none, "application/json", body, none⟩

/-- A server that takes its token in a header. -/
def echoConfig : HttpConfig where
  endpoint := "https://mcp.example.test/rpc"
  headers := [("authorization", "secret://mcp-token")]
  secretValues := [("mcp-token", "Bearer t0k3n")]

/-- The answers to a start of the client. -/
def echoExchanges : List HttpExchange :=
  [answerOf 200 (frameOf (responseMessage 1
      (.object [("protocolVersion", .string "2024-11-05")]))),
    answerOf 202 [],
    answerOf 200 (frameOf (responseMessage 2 (.object [("tools", .array [])])))]

def echoSetting : BridgeSetting where
  serverName := "echo"
  transport := .http echoConfig (.ok echoExchanges)
  version := "1.0.0"
  libraries :=
    { json :=
        { fromSlice := fun bytes =>
            if bytes = frameOf (responseMessage 1
                (.object [("protocolVersion", .string "2024-11-05")])) then
              .ok (responseMessage 1 (.object [("protocolVersion", .string "2024-11-05")]))
            else .ok (responseMessage 2 (.object [("tools", .array [])]))
          fromValueError := fun _ => "invalid type" }
      isHeaderName := fun _ => true
      isHeaderValue := fun _ => true }
  decoders :=
    { list := fun _ => .ok ⟨false, some ⟨[⟨.https, "mcp.example.test", 443⟩], false⟩,
        some ⟨["mcp-token"]⟩⟩
      call := fun _ => .error "missing field `grant`"
      cancel := fun _ => .error "missing field `server_name`"
      status := fun _ => .ok ⟨"echo"⟩
      checkGrants := fun _ => .ok () }
  debugId := fun _ => "None"

def echoInputs : List HostInput :=
  [.message (.invoke ⟨1, ⟨⟨toolMcp, by decide⟩, toolMcpVersion, by decide⟩, toolMcpListOperation,
    .null⟩)]

theorem bridge_permitted_echo : ∃ client request,
    (echoSetting.run ⟨none, [], []⟩ echoInputs).2.state = some client ∧
      request ∈ client.backend.sentRequests ∧
      AllowedByOne echoSetting echoConfig (invocationsOf echoInputs) request := by
  have started : ((echoSetting.run ⟨none, [], []⟩ echoInputs).2.state.any fun client =>
      client.backend.sentRequests.length = 3) = true := by
    decide +kernel
  obtain ⟨client, isClient, three⟩ := (Option.any_eq_true _ _).mp started
  obtain ⟨request, member⟩ := List.exists_mem_of_length_pos
    (show 0 < client.backend.sentRequests.length by
      rw [of_decide_eq_true three]
      decide)
  exact ⟨client, request, isClient, member, bridge_permitted echoSetting echoConfig
    (.ok echoExchanges) rfl [] echoInputs client isClient request member⟩

end ToolMcp
end YunXi
