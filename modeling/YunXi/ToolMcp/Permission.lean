import Mathlib.Data.List.Forall2
import YunXi.ToolMcp.Operations

/-!
# What a client may send over HTTP

Nothing is sent to an endpoint that the network grant of an operation does not allow, and no
header carries a secret that its secret grant does not allow.  A call has grants of its own;
everything else is done with the grants the client was started with.
-/

namespace YunXi
namespace ToolMcp

open Protocol

variable (transport : HttpTransport)

/-- The value of a header: as it is configured, or the secret it refers to if a grant allows
it. -/
def HeaderPermitted (secretGrant : SecretGrant)
    (configured value : String) : Prop :=
  match Strings.stripPrefix secretReferencePrefix configured with
  | none => value = configured
  | some reference =>
      secretGrant.allows reference = true ∧
        transport.secretValues.lookup reference = some value

/-- A request that the grants of an operation permit, or those of the transport where it has
none. -/
structure Permitted (networkGrant : Option NetworkGrant)
    (secretGrant : Option SecretGrant) (request : SentRequest) : Prop where
  endpoint : request.endpoint = transport.endpoint
  network : (networkGrant.getD transport.networkGrant).allowsUrl request.endpoint = true
  headers : ∀ header ∈ request.headers, header.1 = "mcp-session-id" ∨
    ∃ configured, (header.1, configured) ∈ transport.headers ∧
      HeaderPermitted transport (secretGrant.getD transport.secretGrant) configured header.2

/-- Two transports with the same endpoint, headers, secrets and grants. -/
structure SameAuthority (before after : HttpTransport) : Prop where
  endpoint : after.endpoint = before.endpoint
  headers : after.headers = before.headers
  secretValues : after.secretValues = before.secretValues
  networkGrant : after.networkGrant = before.networkGrant
  secretGrant : after.secretGrant = before.secretGrant

theorem SameAuthority.refl : SameAuthority transport transport :=
  ⟨rfl, rfl, rfl, rfl, rfl⟩

theorem SameAuthority.trans {first second third : HttpTransport}
    (before : SameAuthority first second) (after : SameAuthority second third) :
    SameAuthority first third where
  endpoint := after.endpoint.trans before.endpoint
  headers := after.headers.trans before.headers
  secretValues := after.secretValues.trans before.secretValues
  networkGrant := after.networkGrant.trans before.networkGrant
  secretGrant := after.secretGrant.trans before.secretGrant

theorem SameAuthority.permitted {before after : HttpTransport}
    (same : SameAuthority before after) {networkGrant : Option NetworkGrant}
    {secretGrant : Option SecretGrant} {request : SentRequest}
    (permitted : Permitted after networkGrant secretGrant request) :
    Permitted before networkGrant secretGrant request where
  endpoint := permitted.endpoint.trans same.endpoint
  network := by
    rw [← same.networkGrant]
    exact permitted.network
  headers := by
    intro header member
    refine (permitted.headers header member).imp_right ?_
    rintro ⟨configured, isConfigured, allowed⟩
    refine ⟨configured, same.headers ▸ isConfigured, ?_⟩
    unfold HeaderPermitted at allowed ⊢
    rw [← same.secretValues, ← same.secretGrant]
    exact allowed

/-- What is sent between two states of a transport, all of it permitted. -/
structure Sends (networkGrant : Option NetworkGrant) (secretGrant : Option SecretGrant)
    (before after : HttpTransport) (sent : List SentRequest) : Prop where
  same : SameAuthority before after
  log : after.sent = before.sent ++ sent
  permitted : ∀ request ∈ sent, Permitted before networkGrant secretGrant request

section Sending

variable {networkGrant : Option NetworkGrant} {secretGrant : Option SecretGrant}

theorem Sends.nothing : Sends networkGrant secretGrant transport transport [] :=
  ⟨.refl transport, (List.append_nil _).symm, fun _ member => absurd member List.not_mem_nil⟩

theorem Sends.trans {first second third : HttpTransport} {sent more : List SentRequest}
    (before : Sends networkGrant secretGrant first second sent)
    (after : Sends networkGrant secretGrant second third more) :
    Sends networkGrant secretGrant first third (sent ++ more) where
  same := before.same.trans after.same
  log := by rw [after.log, before.log, List.append_assoc]
  permitted := by
    intro request member
    rcases List.mem_append.mp member with early | late
    · exact before.permitted request early
    · exact before.same.permitted (after.permitted request late)

variable (libraries : Libraries)

variable {transport : HttpTransport}

variable {grant : SecretGrant}

theorem headerPermitted_of_headerValue {configured value : String}
    (resolved : transport.headerValue grant configured = .ok value) :
    HeaderPermitted transport grant configured value := by
  unfold HttpTransport.headerValue at resolved
  unfold HeaderPermitted
  cases isReference : Strings.stripPrefix secretReferencePrefix configured with
  | none =>
      rw [isReference] at resolved
      cases resolved
      rfl
  | some reference =>
      rw [isReference] at resolved
      dsimp only at resolved ⊢
      rw [Except.ite_error_eq_ok, not_not] at resolved
      obtain ⟨allowed, resolved⟩ := resolved
      cases found : transport.secretValues.lookup reference with
      | none =>
          rw [found] at resolved
          cases resolved
      | some secret =>
          rw [found] at resolved
          cases resolved
          exact ⟨allowed, rfl⟩

theorem resolveHeaders_permitted {headers resolved : List (String × String)}
    (all : transport.resolveHeaders libraries grant headers = .ok resolved) :
    ∀ header ∈ resolved, ∃ configured, (header.1, configured) ∈ headers ∧
      HeaderPermitted transport grant configured header.2 := by
  induction headers generalizing resolved with
  | nil =>
      cases all
      exact fun _ member => absurd member List.not_mem_nil
  | cons first headers ih =>
      unfold HttpTransport.resolveHeaders at all
      obtain ⟨value, isValue, all⟩ := Except.bind_eq_ok.mp all
      rw [Except.ite_throw_eq_ok, Except.ite_throw_eq_ok] at all
      obtain ⟨rest, isRest, all⟩ := Except.bind_eq_ok.mp all.2.2
      cases all
      rw [List.forall_mem_cons]
      constructor
      · exact ⟨first.2, List.mem_cons_self, headerPermitted_of_headerValue isValue⟩
      · intro header member
        obtain ⟨configured, isConfigured, allowed⟩ := ih isRest header member
        exact ⟨configured, List.mem_cons_of_mem first isConfigured, allowed⟩

theorem requestHeaders_permitted {headers : List (String × String)}
    (all : transport.requestHeaders libraries grant = .ok headers) :
    ∀ header ∈ headers, header.1 = "mcp-session-id" ∨
      ∃ configured, (header.1, configured) ∈ transport.headers ∧
        HeaderPermitted transport grant configured header.2 := by
  unfold HttpTransport.requestHeaders at all
  obtain ⟨resolved, isResolved, all⟩ := Except.bind_eq_ok.mp all
  have permitted := resolveHeaders_permitted libraries isResolved
  split at all
  · cases all
    exact fun header member => .inr (permitted header member)
  · split at all
    · cases all
      intro header member
      rcases List.mem_append.mp member with early | session
      · exact .inr (permitted header early)
      · rw [List.mem_singleton] at session
        exact .inl (congrArg Prod.fst session)
    · cases all

theorem exchange_sends (transport : HttpTransport) (sent : SentRequest) (method : String)
    (timeoutMillis : Nat) :
    SameAuthority transport (transport.exchange libraries sent method timeoutMillis).2 ∧
      (transport.exchange libraries sent method timeoutMillis).2.sent =
        transport.sent ++ [sent] := by
  unfold HttpTransport.exchange
  dsimp only
  split
  · exact ⟨⟨rfl, rfl, rfl, rfl, rfl⟩, rfl⟩
  · exact ⟨⟨rfl, rfl, rfl, rfl, rfl⟩, rfl⟩
  · exact ⟨⟨rfl, rfl, rfl, rfl, rfl⟩, rfl⟩
  · split
    · exact ⟨⟨rfl, rfl, rfl, rfl, rfl⟩, rfl⟩
    · next kept =>
        unfold HttpTransport.keepSession at kept
        split at kept
        · cases kept
          exact ⟨⟨rfl, rfl, rfl, rfl, rfl⟩, rfl⟩
        · split at kept
          · cases kept
            exact ⟨⟨rfl, rfl, rfl, rfl, rfl⟩, rfl⟩
          · cases kept

/-- A request is sent only if its grants permit it. -/
theorem request_sends (networkGrant : Option NetworkGrant) (secretGrant : Option SecretGrant)
    (transport : HttpTransport) (payload : Value) (method : String) (timeoutMillis : Nat) :
    ∃ sent, Sends networkGrant secretGrant transport
      (transport.request libraries payload method timeoutMillis networkGrant secretGrant).2
      sent := by
  unfold HttpTransport.request
  split
  · exact ⟨[], .nothing transport⟩
  · next allowed =>
      split
      · exact ⟨[], .nothing transport⟩
      · next headers isHeaders =>
          split
          · exact ⟨[], .nothing transport⟩
          · have exchanged := exchange_sends libraries transport
              ⟨transport.endpoint, headers, payload⟩ method timeoutMillis
            refine ⟨[⟨transport.endpoint, headers, payload⟩], exchanged.1, exchanged.2, ?_⟩
            rw [List.forall_mem_singleton]
            exact ⟨rfl, not_not.mp allowed, requestHeaders_permitted libraries isHeaders⟩

/-- A client over HTTP after it has sent what the grants permit. -/
def HasSent (networkGrant : Option NetworkGrant) (secretGrant : Option SecretGrant)
    (transport : HttpTransport) (client : McpClient) : Prop :=
  ∃ after sent, client.backend = .http after ∧
    Sends networkGrant secretGrant transport after sent

variable {client : McpClient} {transport : HttpTransport}

theorem HasSent.nothing (isHttp : client.backend = .http transport) :
    HasSent networkGrant secretGrant transport client :=
  ⟨transport, [], isHttp, .nothing transport⟩

theorem HasSent.trans {middle : McpClient}
    (before : HasSent networkGrant secretGrant transport middle)
    (later : ∀ between, middle.backend = .http between →
      HasSent networkGrant secretGrant between client) :
    HasSent networkGrant secretGrant transport client := by
  obtain ⟨between, sent, isBetween, sends⟩ := before
  obtain ⟨after, more, isAfter, sendsMore⟩ := later between isBetween
  exact ⟨after, sent ++ more, isAfter, sends.trans sendsMore⟩

variable (networkGrant secretGrant)

theorem exchange_hasSent (isHttp : client.backend = .http transport) (requestId : Nat)
    (method : String) (params : Value) (timeoutMillis : Nat) :
    HasSent networkGrant secretGrant transport (client.exchange libraries requestId method params
      timeoutMillis networkGrant secretGrant).2 := by
  obtain ⟨sent, sends⟩ := request_sends libraries networkGrant secretGrant transport
    (JsonRpcRequest.toValue ⟨requestId, method, params⟩) method timeoutMillis
  unfold McpClient.exchange
  rw [isHttp]
  exact ⟨_, sent, rfl, sends⟩

theorem sendNotification_hasSent (isHttp : client.backend = .http transport)
    (notification : JsonRpcNotification) :
    HasSent none none transport (client.sendNotification libraries notification).2 := by
  obtain ⟨sent, sends⟩ := request_sends libraries none none transport notification.toJson
    notification.method cancelGraceTimeoutMillis
  unfold McpClient.sendNotification
  rw [isHttp]
  exact ⟨_, sent, rfl, sends⟩

theorem cancelRequest_hasSent (isHttp : client.backend = .http transport) (requestId : Nat)
    (reason : String) :
    HasSent networkGrant secretGrant transport
      (client.cancelRequest libraries requestId reason networkGrant secretGrant).2 := by
  unfold McpClient.cancelRequest
  split
  · exact .nothing isHttp
  · split
    · exact .nothing isHttp
    · rw [isHttp]
      obtain ⟨sent, sends⟩ := request_sends libraries networkGrant secretGrant transport
        (McpClient.cancellation requestId reason).toJson cancelledNotification
        cancelGraceTimeoutMillis
      exact ⟨_, sent, rfl, sends⟩

/-- A request, and its cancellation where it times out, are sent under the same grants. -/
theorem request_hasSent (isHttp : client.backend = .http transport) (method : String)
    (params : Value) (timeoutMillis : Nat) :
    HasSent networkGrant secretGrant transport (client.request libraries method params
      timeoutMillis networkGrant secretGrant).2 := by
  have asked := exchange_hasSent networkGrant secretGrant libraries
    (show ({ client with nextRequestId := McpClient.followingId client.nextRequestId } :
      McpClient).backend = _ from isHttp) client.nextRequestId method params timeoutMillis
  unfold McpClient.request
  dsimp only
  split
  · exact asked.trans fun between isBetween =>
      cancelRequest_hasSent networkGrant secretGrant libraries isBetween client.nextRequestId
        "request timed out"
  · exact asked

theorem listTools_hasSent (isHttp : client.backend = .http transport) (timeoutMillis : Nat) :
    HasSent none none transport (client.listTools libraries timeoutMillis).2 := by
  have asked := request_hasSent none none libraries isHttp toolsListMethod
    (.object []) timeoutMillis
  unfold McpClient.listTools
  generalize client.request libraries toolsListMethod (.object []) timeoutMillis none none =
    outcome at asked ⊢
  obtain ⟨result, later⟩ := outcome
  cases result with
  | error error => exact asked
  | ok value =>
      dsimp only
      cases McpClient.readTools libraries.json later.serverName value with
      | error error => exact asked
      | ok result => exact asked

theorem callTool_hasSent (isHttp : client.backend = .http transport) (toolName : String)
    (arguments : Value) (timeoutMillis : Nat) :
    HasSent networkGrant secretGrant transport (client.callTool libraries toolName arguments
      networkGrant secretGrant timeoutMillis).2 := by
  unfold McpClient.callTool
  split
  · exact .nothing isHttp
  · have asked := request_hasSent networkGrant secretGrant libraries isHttp toolsCallMethod
      (.object [("arguments", arguments), ("name", .string toolName)]) timeoutMillis
    generalize client.request libraries toolsCallMethod _ timeoutMillis networkGrant
      secretGrant = outcome at asked ⊢
    obtain ⟨result, later⟩ := outcome
    cases result with
    | error error => exact asked
    | ok value => exact asked

end Sending

section Runs

variable (libraries : Libraries) {client : McpClient} {transport : HttpTransport}

/-- Starting a client sends what the grants of its transport permit. -/
theorem start_hasSent (transport : HttpTransport) (serverName version : String)
    (timeoutMillis : Nat) :
    HasSent none none transport
      (McpClient.start (.http transport) serverName version libraries timeoutMillis).2 := by
  have first := request_hasSent none none libraries
    (show (⟨.http transport, 1, serverName, []⟩ : McpClient).backend = _ from rfl)
    initializeMethod (McpClient.initializeParams version) timeoutMillis
  unfold McpClient.start
  generalize McpClient.request _ libraries initializeMethod _ timeoutMillis none none = outcome
    at first ⊢
  obtain ⟨result, asked⟩ := outcome
  cases result with
  | error error => exact first
  | ok answer =>
      dsimp only
      split
      · exact first
      · refine first.trans fun between isBetween => ?_
        have second := sendNotification_hasSent libraries isBetween
          ⟨initializedNotification, .object []⟩
        generalize asked.sendNotification libraries _ = outcome at second ⊢
        obtain ⟨sent, told⟩ := outcome
        cases sent with
        | error error => exact second
        | ok => exact second.trans fun ready isReady =>
            listTools_hasSent libraries isReady timeoutMillis

end Runs

end ToolMcp
end YunXi
