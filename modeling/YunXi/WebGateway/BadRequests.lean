import YunXi.WebGateway.Carrier

/-!
# When the carrier returns

The answer to a bad request tells why the JSON library refused it.  The text of that can be
longer than the details of an error may be, and then the carrier panics; nothing else makes it.
-/

namespace YunXi
namespace WebGateway

open Fallible
open Protocol (Value isBlank)
open WebContract

variable {β : Type}

/-- A handler returns a value, in a state. -/
def Returns {α : Type} (program : CarrierProgram β α) (state : β) : Prop :=
  ∃ value, (program.exec state).1 = .ok value

theorem returns_pure {α : Type} (value : α) (state : β) :
    Returns (pure value : CarrierProgram β α) state :=
  ⟨value, rfl⟩

theorem returns_ask {α δ : Type} (question : β → Except String α × β)
    {next : Except String α → CarrierProgram β δ} {state : β}
    (returns : ∀ result state, Returns (next result) state) :
    Returns (HttpCarrier.ask question >>= next) state := by
  unfold Returns
  rw [exec_bind]
  exact returns _ _

theorem returns_refresh {α : Type} (carrier : HttpCarrier β) {next : Unit → CarrierProgram β α}
    {state : β} (returns : ∀ state, Returns (next ()) state) :
    Returns (carrier.refresh >>= next) state := by
  unfold Returns
  rw [exec_bind]
  exact returns _

variable {request : HttpRequest}

namespace HttpCarrier

variable (carrier : HttpCarrier β)

theorem badRequestResponse_eq_ok (rpcId : RpcId) (message : String) :
    (∃ answer, badRequestResponse rpcId message = .ok answer) ↔
      (badRequestDetails message).encodedSize ≤ maxDetailsBytes := by
  have checks : validateError "bad-request" "invalid client-request message"
      (badRequestDetails message) = .ok () ↔
        (badRequestDetails message).encodedSize ≤ maxDetailsBytes := by
    rw [validateError_eq_ok]
    exact ⟨fun passes => passes.2.2.2.1,
      fun fits => ⟨by decide, by decide, by decide, fits, rfl⟩⟩
  rw [← checks]
  unfold badRequestResponse expect
  constructor
  · rintro ⟨answer, built⟩
    obtain ⟨error, made, -⟩ := Except.bind_eq_ok.mp built
    exact construct_eq_ok.mp ⟨error, Except.mapError_eq_ok.mp made⟩
  · intro passes
    refine ⟨.serverResponse ⟨rpcId, .failure ⟨_, _, _, passes⟩,
      RpcResult.validate_failure _⟩, Except.bind_eq_ok.mpr ⟨⟨_, _, _, passes⟩, ?_, ?_⟩⟩
    · exact Except.mapError_eq_ok.mpr (construct_of_ok passes _)
    · refine Except.bind_eq_ok.mpr ⟨_, ?_, rfl⟩
      exact Except.mapError_eq_ok.mpr (construct_of_ok (RpcResult.validate_failure _) _)

theorem returns_refuse_iff (rpcId : RpcId) (message : String) (state : β) :
    Returns (refuse rpcId message : CarrierProgram β HttpResponse) state ↔
      (badRequestDetails message).encodedSize ≤ maxDetailsBytes := by
  rw [← badRequestResponse_eq_ok rpcId]
  unfold Returns refuse
  rw [exec_bind, exec_ofExcept]
  cases badRequestResponse rpcId message with
  | ok answer => exact ⟨fun _ => ⟨answer, rfl⟩, fun _ => ⟨_, rfl⟩⟩
  | error panic =>
      exact ⟨fun ⟨_, failed⟩ => (nomatch failed), fun ⟨_, failed⟩ => (nomatch failed)⟩

variable {path : String}

/-- The methods of paths are short. -/
theorem utf8ByteSize_of_unaryMethod {method : String}
    (found : unaryMethod path = some method) : method.utf8ByteSize ≤ 64 := by
  have known : method ∈ unaryMethods := by
    unfold unaryMethod at found
    obtain ⟨-, contained⟩ := Option.filter_eq_some_iff.mp found
    exact List.contains_iff_mem.mp contained
  have short : ∀ method ∈ unaryMethods, method.utf8ByteSize ≤ 64 := by decide
  exact short method known

/-- A request for another method than its path can be answered. -/
theorem mismatch_fits (clientRequest : ClientRequest) {method : String}
    (found : unaryMethod path = some method) :
    (badRequestDetails ("method `" ++ clientRequest.method ++ "` does not match path `" ++
      method ++ "`")).encodedSize ≤ maxDetailsBytes := by
  have methodSize := (validateToken_eq_ok.mp clientRequest.validMethod).2.1
  have pathSize := utf8ByteSize_of_unaryMethod found
  refine (Value.encodedSize_object_le _).trans ?_
  simp only [List.map_cons, List.map_nil, List.sum_cons, List.sum_nil, Value.memberBound]
  have textBound := Value.encodedSize_string_le
    ("method `" ++ clientRequest.method ++ "` does not match path `" ++ method ++ "`")
  simp only [String.utf8ByteSize_append] at textBound
  have literals : ("method `" : String).utf8ByteSize = 8 ∧
      ("` does not match path `" : String).utf8ByteSize = 23 ∧
      ("`" : String).utf8ByteSize = 1 ∧ ("message" : String).utf8ByteSize = 7 := by decide
  obtain ⟨first, second, third, key⟩ := literals
  rw [first, second, third] at textBound
  rw [key]
  unfold maxMethodBytes at methodSize
  unfold maxDetailsBytes
  omega

theorem returns_handleEvents (channel : EventChannel) (state : β) :
    Returns (carrier.handleEvents channel) state := by
  refine returns_refresh carrier fun state => returns_ask _ fun taken state => ?_
  simp only
  split <;> exact returns_pure _ _

theorem returns_handleResponse (request : HttpRequest) (state : β) :
    Returns (carrier.handleResponse request) state := by
  unfold handleResponse
  split
  · exact returns_pure _ _
  · split
    · exact returns_pure _ _
    · split
      · exact returns_pure _ _
      · refine returns_refresh carrier fun state => returns_ask _ fun receipt state => ?_
        split <;> exact returns_pure _ _

/-- The text with which the JSON library refuses a posted message does not fit the details
of an error. -/
def RefusedAtLength (request : HttpRequest) : Prop :=
  request.method = "POST" ∧ (unaryMethod (withoutQuery request.path)).isSome = true ∧
    hasJsonContentType request = true ∧
    ∃ value error, carrier.readJson request.body = some value ∧
      carrier.readClientRequest value = .error error ∧
      maxDetailsBytes < (badRequestDetails error).encodedSize

theorem returns_handleUnary_iff {method : String}
    (isPost : request.method = "POST")
    (found : unaryMethod (withoutQuery request.path) = some method) (state : β) :
    Returns (carrier.handleUnary request method) state ↔ ¬ carrier.RefusedAtLength request := by
  have known : (unaryMethod (withoutQuery request.path)).isSome = true := by rw [found]; rfl
  unfold handleUnary
  by_cases other : hasJsonContentType request = false
  · rw [if_pos other]
    refine iff_of_true (returns_pure _ _) ?_
    rintro ⟨-, -, json, -⟩
    rw [other] at json
    cases json
  · rw [if_neg other]
    cases read : carrier.readJson request.body with
    | none =>
        refine iff_of_true (returns_pure _ _) ?_
        rintro ⟨-, -, -, value, error, given, -⟩
        rw [read] at given
        cases given
    | some value =>
        simp only
        cases decoded : carrier.readClientRequest value with
        | error error =>
            simp only
            rw [returns_refuse_iff]
            constructor
            · rintro fits ⟨-, -, -, given, text, same, refused, long⟩
              rw [read] at same
              cases same
              rw [decoded] at refused
              cases refused
              exact absurd fits (not_le.mpr long)
            · intro told
              by_contra long
              exact told ⟨isPost, known, (Bool.not_eq_false _).mp other, value, error, read,
                decoded, not_le.mp long⟩
        | ok clientRequest =>
            refine iff_of_true ?_ ?_
            · simp only
              split
              · exact (returns_refuse_iff _ _ _).mpr (mismatch_fits clientRequest found)
              · refine returns_refresh carrier fun state => returns_ask _ fun answer state => ?_
                split <;> exact returns_pure _ _
            · rintro ⟨-, -, -, given, text, same, refused, -⟩
              rw [read] at same
              cases same
              rw [decoded] at refused
              cases refused

theorem returns_webAssetResponse
    (embedded : (carrier.embeddedWebAsset path).isSome = true) (state : β) :
    Returns (.ofExcept (carrier.webAssetResponse path) : CarrierProgram β HttpResponse) state := by
  obtain ⟨asset, found⟩ := Option.isSome_iff_exists.mp embedded
  unfold Returns webAssetResponse
  rw [found]
  exact ⟨_, rfl⟩

theorem respond_not_unary (matches_ : apiPathMatches path "respond" = true) :
    unaryMethod path = none := by
  unfold apiPathMatches at matches_
  unfold unaryMethod
  rw [of_decide_eq_true matches_]
  decide

theorem returns_handleRequest_iff
    (indexed : (carrier.embeddedWebAsset "/index.html").isSome = true) (request : HttpRequest)
    (state : β) :
    Returns (carrier.handleRequest request) state ↔ ¬ carrier.RefusedAtLength request := by
  by_cases isPost : request.method = "POST"
  · have notGet : ∀ condition : Prop, ¬ (request.method = "GET" ∧ condition) := by
      rintro condition ⟨isGet, -⟩
      rw [isPost] at isGet
      exact absurd isGet (by decide)
    unfold handleRequest
    simp only [if_neg (notGet _), if_pos isPost]
    by_cases responds : apiPathMatches (withoutQuery request.path) "respond" = true
    · rw [if_pos responds]
      refine iff_of_true (carrier.returns_handleResponse request state) ?_
      rintro ⟨-, known, -⟩
      rw [respond_not_unary responds] at known
      cases known
    · rw [if_neg responds]
      cases found : unaryMethod (withoutQuery request.path) with
      | some method => exact carrier.returns_handleUnary_iff isPost found state
      | none =>
          refine iff_of_true (returns_pure _ _) ?_
          rintro ⟨-, known, -⟩
          rw [found] at known
          cases known
  · refine iff_of_true ?_ fun refused => isPost refused.1
    unfold handleRequest
    simp only
    split
    · exact carrier.returns_webAssetResponse indexed state
    split
    next embedded => exact carrier.returns_webAssetResponse embedded.2 state
    split
    · exact returns_pure _ _
    split
    · exact carrier.returns_handleEvents .mux state
    split
    · exact carrier.returns_handleEvents .host state
    · exact returns_pure _ _

theorem handleBytes_eq_handleRequest {bytes : List UInt8}
    (parsed : parseRequest bytes = .ok request) :
    carrier.handleBytes bytes = carrier.handleRequest request := by
  unfold handleBytes
  rw [parsed]

/-- The carrier returns a response to every byte string, whatever the backend does, except
where the JSON library refuses a posted message at such a length that its text does not fit
the details of an error. -/
theorem handleBytes_returns_iff
    (indexed : (carrier.embeddedWebAsset "/index.html").isSome = true) (bytes : List UInt8)
    (state : β) :
    Returns (carrier.handleBytes bytes) state ↔
      ∀ request, parseRequest bytes = .ok request → ¬ carrier.RefusedAtLength request := by
  unfold handleBytes
  cases parsed : parseRequest bytes with
  | ok request =>
      simp only [Except.ok.injEq, forall_eq']
      exact carrier.returns_handleRequest_iff indexed request state
  | error error => exact iff_of_true (returns_pure _ _) fun _ impossible => nomatch impossible

end HttpCarrier

/-- The kinds a message can name. -/
def messageKinds : List String :=
  ["client-request", "server-response", "server-request", "client-response"]

/-- The JSON library quotes a kind of message that it does not know. -/
def QuotesKind (carrier : HttpCarrier β) : Prop :=
  ∀ members kind, members.lookup "type" = some (.string kind) → kind ∉ messageKinds →
    ∃ before after,
      carrier.readMessage (.object members) = .error (before ++ kind ++ after)

/-- A text is no longer than a message with it in its details. -/
theorem le_encodedSize_badRequestDetails (message : String) :
    message.utf8ByteSize ≤ (badRequestDetails message).encodedSize := by
  have written := Value.le_textSize_writeString message
  unfold badRequestDetails
  simp only [Value.encodedSize_eq, Value.write, Value.writeMembers, Value.textSize_append,
    Value.textSize_cons]
  omega

/-- Every posted message of an unknown kind that is long enough is refused at length. -/
theorem HttpCarrier.refusedAtLength_of_kind {carrier : HttpCarrier β} (quotes : QuotesKind carrier)
    (isPost : request.method = "POST")
    (known : (unaryMethod (withoutQuery request.path)).isSome = true)
    (json : hasJsonContentType request = true) {members : List (String × Value)} {kind : String}
    (read : carrier.readJson request.body = some (.object members))
    (given : members.lookup "type" = some (.string kind)) (unknown : kind ∉ messageKinds)
    (long : maxDetailsBytes < kind.utf8ByteSize) : carrier.RefusedAtLength request := by
  obtain ⟨before, after, refused⟩ := quotes members kind given unknown
  refine ⟨isPost, known, json, .object members, before ++ kind ++ after, read, ?_, ?_⟩
  · unfold readClientRequest
    rw [refused]
    rfl
  · have size := le_encodedSize_badRequestDetails (before ++ kind ++ after)
    rw [String.utf8ByteSize_append, String.utf8ByteSize_append] at size
    omega

/-- How the JSON library goes on after it has quoted an unknown kind. -/
def expectedKinds : String :=
  "`, expected one of `client-request`, `server-response`, `server-request`, `client-response`"

/-- A carrier whose JSON library reads one message and quotes kinds. -/
def quotingCarrier (message : Value) : HttpCarrier Unit where
  backend :=
    { refresh := id
      dispatch := fun _ state => (.error "not reached", state)
      respond := fun _ state => (.error "not reached", state)
      takeEvents := fun _ _ _ state => (.ok [], state) }
  embeddedWebAsset path :=
    if path = "/index.html" then some ⟨"text/html; charset=utf-8", "no-cache", []⟩ else none
  readJson _ := some message
  readMessage value :=
    match (value.get "type").bind Value.asStr with
    | some kind => .error ("unknown variant `" ++ kind ++ expectedKinds)
    | none => .error "missing field `type`"

theorem quotingCarrier_quotes (message : Value) : QuotesKind (quotingCarrier message) := by
  intro members kind given unknown
  refine ⟨"unknown variant `", expectedKinds, ?_⟩
  change (match (members.lookup "type").bind Value.asStr with
    | some kind => _
    | none => _) = _
  rw [given]
  rfl

/-- The head of a post with as many bytes as a long message has. -/
def longHead : String :=
  "POST /api/session.list HTTP/1.1\r\nContent-Type: application/json\r\nContent-Length: 33011"

def longHeaders : SortedMap String String :=
  .ofList [("content-length", "33011"), ("content-type", "application/json")]

theorem parseRequest_longHead {body : List UInt8} (length : body.length = 33011) :
    ∃ request, parseRequest (utf8Bytes longHead ++ 13 :: 10 :: 13 :: 10 :: body) = .ok request ∧
      request.method = "POST" ∧ request.path = "/api/session.list" ∧
      request.headers = longHeaders := by
  have read : parseHead longHead = .ok ⟨"POST", "/api/session.list",
      [("Content-Type", "application/json"), ("Content-Length", "33011")], some 33011⟩ := by
    decide
  have normalized : HttpRequest.normalizeHeaders .empty
      [("Content-Type", "application/json"), ("Content-Length", "33011")] = .ok longHeaders := by
    decide
  have fits : body.length ≤ maxHttpBodyBytes := by
    rw [length]
    decide
  have unfinished : splitHead (utf8Bytes longHead ++ [13, 10, 13]) = none := by decide
  refine ⟨_, (parseRequest_append unfinished (by decide) read length.symm).trans
    (HttpRequest.new_eq_ok (by decide) (by decide) fits normalized), rfl, ?_, rfl⟩
  exact show withoutQuery "/api/session.list" = "/api/session.list" by decide

/-- The carrier panics over a message whose kind is long. -/
theorem not_returns_of_long_kind {kind : String} {body : List UInt8}
    (long : maxDetailsBytes < kind.utf8ByteSize) (length : body.length = 33011) :
    ¬ Returns ((quotingCarrier (.object [("type", .string kind)])).handleBytes
      (utf8Bytes longHead ++ 13 :: 10 :: 13 :: 10 :: body)) () := by
  obtain ⟨request, parsed, isPost, path, headers⟩ := parseRequest_longHead length
  intro returns
  rw [HttpCarrier.handleBytes_eq_handleRequest _ parsed] at returns
  refine (HttpCarrier.returns_handleRequest_iff _ (by rfl) _ _).mp returns ?_
  refine HttpCarrier.refusedAtLength_of_kind (quotingCarrier_quotes _) isPost ?_ ?_ rfl rfl ?_
    long
  · rw [path]
    decide
  · unfold hasJsonContentType HttpRequest.header
    rw [headers]
    decide
  · intro known
    have short : ∀ kind ∈ messageKinds, kind.utf8ByteSize ≤ 64 := by decide
    have size := short kind known
    unfold maxDetailsBytes at long
    omega

/-- A kind of message that is longer than the details of an error. -/
def longKind : String := String.ofList (List.replicate 33000 'x')

def longMessage : Value := .object [("type", .string longKind)]

def longPost : List UInt8 :=
  utf8Bytes longHead ++ 13 :: 10 :: 13 :: 10 :: utf8Bytes longMessage.toText

theorem textSize_replicate (count : Nat) : Value.textSize (List.replicate count 'x') = count := by
  induction count with
  | zero => rfl
  | succ count ih =>
      rw [List.replicate_succ, Value.textSize_cons, ih, Nat.add_comm]
      rfl

theorem flatMap_escape_replicate (count : Nat) :
    (List.replicate count 'x').flatMap Value.escapeCharacter = List.replicate count 'x' := by
  induction count with
  | zero => rfl
  | succ count ih =>
      rw [List.replicate_succ, List.flatMap_cons, ih]
      rfl

theorem length_message (count : Nat) :
    (utf8Bytes (Value.object [("type",
      .string (String.ofList (List.replicate count 'x')))]).toText).length = count + 11 := by
  rw [length_utf8Bytes, Value.toText, Value.utf8ByteSize_ofList]
  simp only [Value.write, Value.writeMembers, Value.writeString, Value.textSize_append,
    Value.textSize_cons, String.toList_ofList, flatMap_escape_replicate, textSize_replicate]
  have sizes : ('\x7b').utf8Size = 1 ∧ ('\x7d').utf8Size = 1 ∧ ('\"').utf8Size = 1 ∧
      (':').utf8Size = 1 ∧ Value.textSize ("type".toList.flatMap Value.escapeCharacter) = 4 := by
    decide
  simp only [sizes, Value.textSize_nil]
  omega

theorem longPost_panics : ¬ Returns ((quotingCarrier longMessage).handleBytes longPost) () := by
  refine not_returns_of_long_kind ?_ (length_message 33000)
  unfold longKind
  rw [Value.utf8ByteSize_ofList, textSize_replicate]
  decide

/-- A short message of an unknown kind is refused with a response. -/
theorem handleBytes_returns_short :
    Returns ((quotingCarrier (.object [("type", .string "x")])).handleBytes
      (utf8Bytes ("POST /api/session.list HTTP/1.1\r\nContent-Type: application/json\r\n" ++
          "Content-Length: 12\r\n\r\n") ++
        utf8Bytes (Value.object [("type", .string "x")]).toText)) () := by
  refine (HttpCarrier.handleBytes_returns_iff _ (by rfl) _ _).mpr ?_
  intro request parsed refused
  obtain ⟨-, -, -, value, error, read, told, long⟩ := refused
  cases read
  cases told
  exact absurd long (by decide +kernel)

end WebGateway
end YunXi
