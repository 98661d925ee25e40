import YunXi.ToolMcp.Operations

/-!
# Requests and the responses they return

What a process sends is taken in order, each message by one request.  A request returns
nothing but the result of a message with its own id, so a response that comes late, after its
request has timed out, is never returned by another one.
-/

namespace YunXi
namespace ToolMcp

open Protocol

/-- The messages a request takes and the value it returns: notifications, and then the
response with its id. -/
inductive ResultFrom (library : JsonLibrary) (redactions : List String) (requestId : Nat) :
    List Received → Value → Prop
  | response {bytes : List UInt8} {message : Value} {response : JsonRpcResponse} {result : Value}
      (read : library.fromSlice bytes = .ok message)
      (isResponse : JsonRpcResponse.read message = some response)
      (ownId : isId requestId response.id = true)
      (succeeded : response.error = none)
      (returned : response.result = some result) :
      ResultFrom library redactions requestId [.frame bytes] (redactValue redactions result)
  | notification {bytes : List UInt8} {members : List (String × Value)} {taken : List Received}
      {value : Value}
      (read : library.fromSlice bytes = .ok (.object members))
      (noRequest : StdioServer.isNotification members = true)
      (later : ResultFrom library redactions requestId taken value) :
      ResultFrom library redactions requestId (.frame bytes :: taken) value

/-- A checked response is the result of a message with the expected id. -/
theorem validateResponse_eq_ok {library : JsonLibrary} {redactions : List String}
    {message value : Value} {expectedId : Nat} {method : String}
    (checked : validateResponse library redactions message expectedId method = .ok value) :
    ∃ response result, JsonRpcResponse.read message = some response ∧
      isId expectedId response.id = true ∧ response.error = none ∧
      response.result = some result ∧ value = redactValue redactions result := by
  unfold validateResponse at checked
  split at checked
  · cases checked
  · next response isResponse =>
      rw [Except.ite_error_eq_ok] at checked
      obtain ⟨-, checked⟩ := checked
      rw [Except.ite_error_eq_ok, not_not] at checked
      obtain ⟨ownId, checked⟩ := checked
      split at checked
      · cases checked
      · next succeeded =>
          split at checked
          · cases checked
          · next result returned =>
              rw [Except.ite_error_eq_ok] at checked
              cases checked.2
              exact ⟨response, result, isResponse, ownId, succeeded, returned, rfl⟩

/-- A wait takes what is in front of what it leaves, and what it returns answers the request. -/
theorem receiveLoop_takes (library : JsonLibrary) (redactions : List String) (requestId : Nat)
    (method : String) (timeoutMillis : Nat) (received : List Received) :
    ∃ taken, received = taken ++ (StdioServer.receiveLoop library redactions requestId method
        timeoutMillis received).2 ∧
      ∀ value, (StdioServer.receiveLoop library redactions requestId method timeoutMillis
          received).1 = .ok value → ResultFrom library redactions requestId taken value := by
  fun_induction StdioServer.receiveLoop library redactions requestId method timeoutMillis
    received with
  | case1 => exact ⟨[], rfl, by rintro _ ⟨⟩⟩
  | case2 => exact ⟨[_], rfl, by rintro _ ⟨⟩⟩
  | case3 => exact ⟨[_], rfl, by rintro _ ⟨⟩⟩
  | case4 => exact ⟨[_], rfl, by rintro _ ⟨⟩⟩
  | case5 => exact ⟨[_], rfl, by rintro _ ⟨⟩⟩
  | case6 => exact ⟨[_], rfl, by rintro _ ⟨⟩⟩
  | case7 => exact ⟨[_], rfl, by rintro _ ⟨⟩⟩
  | case8 bytes later message read members isObject noRequest ih =>
      obtain ⟨taken, split, answers⟩ := ih
      refine ⟨.frame bytes :: taken, congrArg (List.cons _) split, fun value returned => ?_⟩
      cases message with
      | object pairs =>
          cases isObject
          exact .notification read noRequest (answers value returned)
      | _ => cases isObject
  | case9 bytes later message read members isObject request =>
      refine ⟨[.frame bytes], rfl, fun value returned => ?_⟩
      obtain ⟨response, result, isResponse, ownId, succeeded, isResult, rfl⟩ :=
        validateResponse_eq_ok returned
      exact .response read isResponse ownId succeeded isResult

/-- What a request to a process takes and writes. -/
structure Exchanged (library : JsonLibrary) (requestId : Nat) (method : String) (params : Value)
    (before after : StdioServer) (result : Except McpClientError Value)
    (taken : List Received) : Prop where
  redactions : after.redactions = before.redactions
  received : before.received = taken ++ after.received
  written : before.written <+: after.written
  answered : ∀ value, result = .ok value →
    ResultFrom library before.redactions requestId taken value ∧
      JsonRpcRequest.toJson ⟨requestId, method, params⟩ ∈ after.written

theorem writeMessage_keeps (server : StdioServer) (message : Value) :
    (server.writeMessage message).2.received = server.received ∧
      server.written <+: (server.writeMessage message).2.written ∧
      ((server.writeMessage message).1 = .ok () →
        message ∈ (server.writeMessage message).2.written) := by
  unfold StdioServer.writeMessage
  split
  · exact ⟨rfl, List.prefix_rfl, by rintro ⟨⟩⟩
  · split
    · exact ⟨rfl, List.prefix_rfl, by rintro ⟨⟩⟩
    · exact ⟨rfl, List.prefix_append _ _, fun _ => List.mem_append_right _ (List.mem_singleton_self _)⟩
    · exact ⟨rfl, List.prefix_append _ _, fun _ => List.mem_append_right _ (List.mem_singleton_self _)⟩

section Requests

variable (libraries : Libraries) {client : McpClient} {server : StdioServer}
  (networkGrant : Option NetworkGrant) (secretGrant : Option SecretGrant)

theorem exchange_stdio (isStdio : client.backend = .stdio server) (requestId : Nat)
    (method : String) (params : Value) (timeoutMillis : Nat) :
    ∃ after taken, (client.exchange libraries requestId method params timeoutMillis networkGrant
        secretGrant).2 = { client with backend := .stdio after } ∧
      Exchanged libraries.json requestId method params server after
        (client.exchange libraries requestId method params timeoutMillis networkGrant
          secretGrant).1 taken := by
  have keeps := writeMessage_keeps server (JsonRpcRequest.toJson ⟨requestId, method, params⟩)
  have secrets := redactions_writeMessage server
    (JsonRpcRequest.toJson ⟨requestId, method, params⟩)
  unfold McpClient.exchange
  rw [isStdio]
  dsimp only
  generalize server.writeMessage (JsonRpcRequest.toJson ⟨requestId, method, params⟩) = outcome
    at keeps secrets ⊢
  obtain ⟨wrote, written⟩ := outcome
  obtain ⟨received, kept, among⟩ := keeps
  cases wrote with
  | error error =>
      exact ⟨written, [], rfl, secrets, received.symm, kept, by rintro _ ⟨⟩⟩
  | ok =>
      obtain ⟨taken, split, answers⟩ := receiveLoop_takes libraries.json written.redactions
        requestId method timeoutMillis written.received
      refine ⟨_, taken, rfl, secrets, received.symm.trans split, kept, fun value returned => ?_⟩
      rw [← show written.redactions = _ from secrets]
      exact ⟨answers value returned, among rfl⟩

/-- A notification is written behind everything else, and nothing is received for it. -/
theorem sendNotification_stdio (isStdio : client.backend = .stdio server)
    (notification : JsonRpcNotification) :
    ∃ after, (client.sendNotification libraries notification).2 =
        { client with backend := .stdio after } ∧
      after.redactions = server.redactions ∧ after.received = server.received ∧
        server.written <+: after.written := by
  have keeps := writeMessage_keeps server notification.toJson
  have secrets := redactions_writeMessage server notification.toJson
  unfold McpClient.sendNotification
  rw [isStdio]
  exact ⟨_, rfl, secrets, keeps.1, keeps.2.1⟩

theorem cancelRequest_stdio (isStdio : client.backend = .stdio server) (requestId : Nat)
    (reason : String) :
    ∃ after, (client.cancelRequest libraries requestId reason networkGrant secretGrant).2 =
        { client with backend := .stdio after } ∧
      after.redactions = server.redactions ∧ after.received = server.received ∧
        server.written <+: after.written := by
  have unchanged : ∃ after, client = { client with backend := .stdio after } ∧
      after.redactions = server.redactions ∧ after.received = server.received ∧
        server.written <+: after.written :=
    ⟨server, by rw [← isStdio], rfl, rfl, List.prefix_rfl⟩
  unfold McpClient.cancelRequest
  split
  · exact unchanged
  · split
    · exact unchanged
    · split
      · next isHttp =>
          rw [isStdio] at isHttp
          cases isHttp
      · exact sendNotification_stdio libraries isStdio _

/-- One request takes its own part of what is received, under the next id. -/
theorem request_stdio (isStdio : client.backend = .stdio server) (method : String)
    (params : Value) (timeoutMillis : Nat) :
    ∃ after taken, (client.request libraries method params timeoutMillis networkGrant
        secretGrant).2 = { client with
          backend := .stdio after
          nextRequestId := McpClient.followingId client.nextRequestId } ∧
      Exchanged libraries.json client.nextRequestId method params server after
        (client.request libraries method params timeoutMillis networkGrant secretGrant).1
        taken := by
  have numbered : ({ client with
      nextRequestId := McpClient.followingId client.nextRequestId } : McpClient).backend =
      .stdio server := isStdio
  obtain ⟨after, taken, client', exchanged⟩ := exchange_stdio libraries networkGrant secretGrant
    numbered client.nextRequestId method params timeoutMillis
  unfold McpClient.request
  dsimp only
  generalize McpClient.exchange _ libraries client.nextRequestId method params timeoutMillis
    networkGrant secretGrant = outcome at client' exchanged ⊢
  obtain ⟨result, asked⟩ := outcome
  cases client'
  split
  · next timedOut millis isTimeout =>
      cases isTimeout
      have waited : ({ client with
          backend := .stdio after
          nextRequestId := McpClient.followingId client.nextRequestId } : McpClient).backend =
          .stdio after := rfl
      obtain ⟨last, client', secrets, received, kept⟩ := cancelRequest_stdio libraries
        networkGrant secretGrant waited client.nextRequestId "request timed out"
      refine ⟨last, taken, client', ?_, ?_, ?_, by rintro _ ⟨⟩⟩
      · rw [secrets, exchanged.redactions]
      · rw [received]
        exact exchanged.received
      · exact exchanged.written.trans kept
  · exact ⟨after, taken, rfl, exchanged⟩

end Requests

structure RequestCall where
  method : String
  params : Value
  timeoutMillis : Nat

/-- Send requests one after the other. -/
def requestAll (libraries : Libraries) (client : McpClient) :
    List RequestCall → List (Except McpClientError Value) × McpClient
  | [] => ([], client)
  | call :: calls =>
      let (result, client) :=
        client.request libraries call.method call.params call.timeoutMillis none none
      let (results, client) := requestAll libraries client calls
      (result :: results, client)

/-- The parts of what is received that the requests of a run take, and what they return. -/
structure Matched (libraries : Libraries) (client : McpClient) (calls : List RequestCall)
    (before after : StdioServer) (parts : List (List Received)) : Prop where
  count : parts.length = calls.length
  received : before.received = parts.flatten ++ after.received
  written : before.written <+: after.written
  answered : ∀ index call value, calls[index]? = some call →
    (requestAll libraries client calls).1[index]? = some (.ok value) →
      ∃ taken, parts[index]? = some taken ∧
        ResultFrom libraries.json before.redactions (client.nextRequestId + index) taken value ∧
        JsonRpcRequest.toJson ⟨client.nextRequestId + index, call.method, call.params⟩ ∈
          after.written

theorem exists_matched (libraries : Libraries) {client : McpClient} {server : StdioServer}
    (isStdio : client.backend = .stdio server) {calls : List RequestCall}
    (fits : client.nextRequestId + calls.length < 2 ^ 64) :
    ∃ after parts, (requestAll libraries client calls).2.backend = .stdio after ∧
      Matched libraries client calls server after parts := by
  induction calls generalizing client server with
  | nil =>
      exact ⟨server, [], isStdio, rfl, rfl, List.prefix_rfl, by rintro _ _ _ ⟨⟩⟩
  | cons call calls ih =>
      rw [List.length_cons] at fits
      obtain ⟨middle, taken, client', exchanged⟩ := request_stdio libraries none none isStdio
        call.method call.params call.timeoutMillis
      have following : McpClient.followingId client.nextRequestId = client.nextRequestId + 1 :=
        if_pos (by omega)
      rw [following] at client'
      have shift (index : Nat) :
          client.nextRequestId + 1 + index = client.nextRequestId + (index + 1) := by omega
      have isMiddle : ({ client with
          backend := .stdio middle
          nextRequestId := client.nextRequestId + 1 } : McpClient).backend = .stdio middle := rfl
      obtain ⟨after, parts, isAfter, rest⟩ := ih isMiddle (by dsimp only; omega)
      have results : requestAll libraries client (call :: calls) =
          ((client.request libraries call.method call.params call.timeoutMillis none none).1 ::
            (requestAll libraries { client with
              backend := .stdio middle
              nextRequestId := client.nextRequestId + 1 } calls).1,
            (requestAll libraries { client with
              backend := .stdio middle
              nextRequestId := client.nextRequestId + 1 } calls).2) := by
        rw [← client']
        rfl
      refine ⟨after, taken :: parts, by rw [results]; exact isAfter, ?_⟩
      constructor
      case count => exact congrArg (· + 1) rest.count
      case received =>
        rw [List.flatten_cons, List.append_assoc, ← rest.received]
        exact exchanged.received
      case written => exact exchanged.written.trans rest.written
      case answered =>
        intro index called value isCall returned
        rw [results] at returned
        cases index with
        | zero =>
            cases isCall
            obtain ⟨answers, written⟩ := exchanged.answered value (Option.some.inj returned)
            exact ⟨taken, rfl, answers, rest.written.subset written⟩
        | succ index =>
            obtain ⟨part, isPart, answers, written⟩ :=
              rest.answered index called value isCall returned
            rw [exchanged.redactions] at answers
            dsimp only at answers written
            rw [shift] at answers written
            exact ⟨part, isPart, answers, written⟩

/-- Every request of a run takes a part of its own of what the process sends, in the order of
the requests.  What it returns is the result of a message in this part that carries its id,
which no other request has, and the request had been written. -/
theorem responses_matched (libraries : Libraries) (client : McpClient) (server : StdioServer)
    (isStdio : client.backend = .stdio server) (calls : List RequestCall)
    (fits : client.nextRequestId + calls.length < 2 ^ 64) :
    ∃ (after : StdioServer) (parts : List (List Received)),
      (requestAll libraries client calls).2.backend = .stdio after ∧
      parts.length = calls.length ∧ server.received = parts.flatten ++ after.received ∧
      ∀ index call value, calls[index]? = some call →
        (requestAll libraries client calls).1[index]? = some (.ok value) →
          ∃ taken, parts[index]? = some taken ∧
            ResultFrom libraries.json server.redactions (client.nextRequestId + index) taken value ∧
            JsonRpcRequest.toJson ⟨client.nextRequestId + index, call.method, call.params⟩ ∈
              after.written := by
  obtain ⟨after, parts, isAfter, matched⟩ := exists_matched libraries isStdio fits
  exact ⟨after, parts, isAfter, matched.count, matched.received, matched.answered⟩

/-- The first request is answered.  The second one times out, and its response comes while the
third one waits. -/
def lateServer : StdioServer :=
  ⟨(echoMessages.map fun message => .frame (frameOf message)).insertIdx 1 .timedOut, [], [], []⟩

def lateCalls : List RequestCall := List.replicate 3 ⟨toolsListMethod, .object [], 1000⟩

theorem responses_matched_late :
    (requestAll echoLibraries ⟨.stdio lateServer, 1, "echo", []⟩ lateCalls).1.map Except.isOk =
      [true, false, false] ∧
    ∃ (after : StdioServer) (parts : List (List Received)),
      (requestAll echoLibraries ⟨.stdio lateServer, 1, "echo", []⟩ lateCalls).2.backend =
        .stdio after ∧
      parts.length = 3 ∧ lateServer.received = parts.flatten ++ after.received ∧
      ∀ index call value, lateCalls[index]? = some call →
        (requestAll echoLibraries ⟨.stdio lateServer, 1, "echo", []⟩ lateCalls).1[index]? =
            some (.ok value) →
          ∃ taken, parts[index]? = some taken ∧
            ResultFrom echoLibraries.json [] (1 + index) taken value ∧
            JsonRpcRequest.toJson ⟨1 + index, call.method, call.params⟩ ∈ after.written :=
  ⟨by decide +kernel, responses_matched echoLibraries ⟨.stdio lateServer, 1, "echo", []⟩
    lateServer rfl lateCalls (by decide)⟩

end ToolMcp
end YunXi
