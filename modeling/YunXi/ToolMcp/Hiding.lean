import YunXi.ToolMcp.Client

/-!
# What a server's answers disclose

A secret that shares no border with the text it is replaced by occurs in no string of what
the client returns, in the tools it keeps, or in the message of a refusal.  Nothing else is
redacted: numbers, keys of objects, the id of an unexpected response and the reports of the
libraries are passed on as they are.
-/

namespace YunXi
namespace ToolMcp

open Protocol

/-- A text in which a secret does not occur. -/
def Hides (secret text : String) : Prop := ¬ secret.toList <:+: text.toList

/-- A secret that is not empty and cannot overlap the text it is replaced by. -/
def Concealable (secret : String) : Prop :=
  Replacing.Apart secret.toList redactedText.toList

instance (secret : String) : Decidable (Concealable secret) :=
  inferInstanceAs (Decidable (Replacing.Apart _ _))

mutual

/-- The strings of a value, at any depth; the keys of objects are none. -/
def strings : Value → List String
  | .string value => [value]
  | .array items => itemStrings items
  | .object members => memberStrings members
  | .null | .bool _ | .number _ => []

def itemStrings : List Value → List String
  | [] => []
  | item :: items => strings item ++ itemStrings items

def memberStrings : List (String × Value) → List String
  | [] => []
  | (_, value) :: members => strings value ++ memberStrings members

end

/-- What holds of a value if it holds of the values it is made of. -/
@[elab_as_elim]
theorem valueInduction {motive : Value → Prop} (null : motive .null)
    (bool : ∀ value, motive (.bool value)) (number : ∀ text, motive (.number text))
    (string : ∀ value, motive (.string value))
    (array : ∀ items, (∀ item ∈ items, motive item) → motive (.array items))
    (object : ∀ members, (∀ member ∈ members, motive member.2) → motive (.object members))
    (value : Value) : motive value := by
  refine @Value.rec motive (fun items => ∀ item ∈ items, motive item)
    (fun members => ∀ member ∈ members, motive member.2) (fun member => motive member.2)
    null bool number string array object ?_ ?_ ?_ ?_ ?_ value
  · exact fun _ member => absurd member List.not_mem_nil
  · exact fun item items first rest => List.forall_mem_cons.mpr ⟨first, rest⟩
  · exact fun _ member => absurd member List.not_mem_nil
  · exact fun member members first rest => List.forall_mem_cons.mpr ⟨first, rest⟩
  · exact fun key value holds => holds

theorem mem_itemStrings {items : List Value} {text : String} :
    text ∈ itemStrings items ↔ ∃ item ∈ items, text ∈ strings item := by
  induction items with
  | nil => simp [itemStrings]
  | cons item items ih => simp [itemStrings, ih]

theorem mem_memberStrings {members : List (String × Value)} {text : String} :
    text ∈ memberStrings members ↔ ∃ member ∈ members, text ∈ strings member.2 := by
  induction members with
  | nil => simp [memberStrings]
  | cons member members ih => simp [memberStrings, ih]

theorem redactItems_eq (redactions : List String) (items : List Value) :
    redactItems redactions items = items.map (redactValue redactions) := by
  induction items with
  | nil => rfl
  | cons item items ih => rw [redactItems, ih, List.map_cons]

theorem redactMembers_eq (redactions : List String) (members : List (String × Value)) :
    redactMembers redactions members =
      members.map fun member => (member.1, redactValue redactions member.2) := by
  induction members with
  | nil => rfl
  | cons member members ih =>
      rw [redactMembers, ih, List.map_cons]

/-- A redacted value has the strings it had, each of them redacted. -/
theorem strings_redactValue (redactions : List String) (value : Value) :
    strings (redactValue redactions value) = (strings value).map (redactText redactions) := by
  induction value using valueInduction with
  | null | bool value | number text | string value => simp [redactValue, strings]
  | array items all =>
      simp only [redactValue, strings, redactItems_eq]
      induction items with
      | nil => rfl
      | cons item items ih =>
          rw [List.forall_mem_cons] at all
          rw [List.map_cons, itemStrings, itemStrings, all.1, ih all.2,
            List.map_append]
  | object members all =>
      simp only [redactValue, strings, redactMembers_eq]
      induction members with
      | nil => rfl
      | cons member members ih =>
          rw [List.forall_mem_cons] at all
          rw [List.map_cons, memberStrings, memberStrings, all.1, ih all.2,
            List.map_append]

section Secrets

variable {secret : String} {redactions : List String}

/-- A redacted text hides every secret that can be concealed. -/
theorem hides_redactText (among : secret ∈ redactions) (concealable : Concealable secret)
    (text : String) : Hides secret (redactText redactions text) := by
  have filled : secret ≠ "" := by
    rintro rfl
    exact concealable.ne_nil rfl
  have replaced : secret ∈ redactions.filter (· ≠ "") :=
    List.mem_filter.mpr ⟨among, by simpa using filled⟩
  obtain ⟨before, after, split⟩ := List.append_of_mem (List.mem_map_of_mem (f := String.toList) replaced)
  unfold Hides redactText
  rw [String.toList_ofList, split, Replacing.replaceAll, List.foldl_append, List.foldl_cons]
  exact concealable.not_infix_replaceAll after concealable.not_infix_replace_self

/-- A secret that has a border with the replacement can come about again. -/
example : ">x".toList <:+: (redactText [">x"] ">xx").toList := by decide

theorem hides_of_mem_redactValue (among : secret ∈ redactions)
    (concealable : Concealable secret) {value : Value} {text : String}
    (isText : text ∈ strings (redactValue redactions value)) : Hides secret text := by
  rw [strings_redactValue] at isText
  obtain ⟨original, -, rfl⟩ := List.mem_map.mp isText
  exact hides_redactText among concealable original

end Secrets

/-- An answer with no secret in what is redacted: the strings of a value, or the message of a
refusal.  No other error is redacted, not even one with the id of an unexpected response. -/
def Conceals (secret : String) : Except McpClientError Value → Prop
  | .ok value => ∀ text ∈ strings value, Hides secret text
  | .error (.remote _ message) => Hides secret message
  | .error _ => True

/-- An error that is not the message of a server. -/
def NotRemote {α : Type} (result : Except McpClientError α) : Prop :=
  ∀ code message, result ≠ .error (.remote code message)

theorem notRemote_ok {α : Type} (value : α) : NotRemote (.ok value) := by
  rintro _ _ ⟨⟩

theorem NotRemote.bind {α β : Type} {result : Except McpClientError α}
    {next : α → Except McpClientError β} (first : NotRemote result)
    (later : ∀ value, NotRemote (next value)) : NotRemote (result >>= next) := by
  cases result with
  | ok value => exact later value
  | error error =>
      intro code message same
      cases same
      exact first code message rfl

theorem NotRemote.conceals {secret : String} {result : Except McpClientError Value}
    (notRemote : NotRemote result)
    (returned : ∀ value, result = .ok value → ∀ text ∈ strings value, Hides secret text) :
    Conceals secret result := by
  cases result with
  | ok value => exact returned value rfl
  | error error =>
      cases error with
      | remote code message => exact absurd rfl (notRemote code message)
      | _ => trivial

section Answers

variable {secret : String} {redactions : List String}

theorem conceals_validateResponse (among : secret ∈ redactions)
    (concealable : Concealable secret) (library : JsonLibrary) (value : Value)
    (expectedId : Nat) (method : String) :
    Conceals secret (validateResponse library redactions value expectedId method) := by
  unfold validateResponse
  split
  · trivial
  · split
    · trivial
    · split
      · trivial
      · split
        · exact hides_redactText among concealable _
        · split
          · trivial
          · split
            · trivial
            · exact fun text isText => hides_of_mem_redactValue among concealable isText

/-- Whatever is skipped, the answer of a wait is a checked response or an error of the client. -/
theorem conceals_receiveLoop (among : secret ∈ redactions) (concealable : Concealable secret)
    (library : JsonLibrary) (expectedId : Nat) (method : String) (timeoutMillis : Nat)
    (received : List Received) :
    Conceals secret
      (StdioServer.receiveLoop library redactions expectedId method timeoutMillis received).1 := by
  fun_induction StdioServer.receiveLoop library redactions expectedId method timeoutMillis
    received with
  | case8 _ _ _ _ _ _ _ ih =>
      exact ih
  | case9 => exact conceals_validateResponse among concealable library _ expectedId method
  | _ => trivial

end Answers

section Http

variable (transport : HttpTransport) (libraries : Libraries)

theorem notRemote_headerValue (secretGrant : SecretGrant) (configured : String) :
    NotRemote (transport.headerValue secretGrant configured) := by
  unfold HttpTransport.headerValue
  split
  · exact notRemote_ok _
  · split
    · rintro _ _ ⟨⟩
    · split
      · rintro _ _ ⟨⟩
      · exact notRemote_ok _

theorem notRemote_resolveHeaders (secretGrant : SecretGrant)
    (headers : List (String × String)) :
    NotRemote (transport.resolveHeaders libraries secretGrant headers) := by
  induction headers with
  | nil => exact notRemote_ok _
  | cons header headers ih =>
      unfold HttpTransport.resolveHeaders
      refine (notRemote_headerValue transport secretGrant header.2).bind fun value => ?_
      split
      · rintro _ _ ⟨⟩
      · split
        · rintro _ _ ⟨⟩
        · exact ih.bind fun resolved => notRemote_ok _

theorem notRemote_requestHeaders (secretGrant : SecretGrant) :
    NotRemote (transport.requestHeaders libraries secretGrant) := by
  unfold HttpTransport.requestHeaders
  refine (notRemote_resolveHeaders transport libraries secretGrant _).bind fun headers => ?_
  split
  · exact notRemote_ok _
  · split
    · exact notRemote_ok _
    · rintro _ _ ⟨⟩

theorem notRemote_parseEvents (library : JsonLibrary) (method : String)
    (lines : List (List UInt8)) : NotRemote (parseEvents library method lines) := by
  fun_induction parseEvents library method lines with
  | case1 | case3 => rintro _ _ ⟨⟩
  | case2 _ _ _ ih | case5 _ _ _ _ _ _ _ ih =>
      exact ih
  | case4 => exact notRemote_ok _

theorem notRemote_parse (answer : HttpAnswer) (library : JsonLibrary) (method : String) :
    NotRemote (answer.parse library method) := by
  unfold HttpAnswer.parse
  refine NotRemote.bind ?_ fun body => ?_
  · unfold HttpAnswer.readBounded
    split
    · rintro _ _ ⟨⟩
    · split
      · rintro _ _ ⟨⟩
      · split
        · rintro _ _ ⟨⟩
        · exact notRemote_ok _
  · split
    · rintro _ _ ⟨⟩
    · split
      · exact notRemote_ok _
      · split
        · exact notRemote_parseEvents library method _
        · cases library.fromSlice body with
          | ok value => exact notRemote_ok _
          | error message => rintro _ _ ⟨⟩

theorem notRemote_exchange (sent : SentRequest) (method : String) (timeoutMillis : Nat) :
    NotRemote (transport.exchange libraries sent method timeoutMillis).1 := by
  unfold HttpTransport.exchange
  dsimp only
  split
  · rintro _ _ ⟨⟩
  · rintro _ _ ⟨⟩
  · rintro _ _ ⟨⟩
  · split
    · next refused =>
        unfold HttpTransport.keepSession at refused
        split at refused
        · cases refused
        · split at refused
          · cases refused
          · cases refused
            rintro _ _ ⟨⟩
    · exact notRemote_parse _ _ _

theorem notRemote_request (payload : Value) (method : String) (timeoutMillis : Nat)
    (networkGrant : Option NetworkGrant) (secretGrant : Option SecretGrant) :
    NotRemote (transport.request libraries payload method timeoutMillis networkGrant
      secretGrant).1 := by
  have headers := notRemote_requestHeaders transport libraries
    (secretGrant.getD transport.secretGrant)
  unfold HttpTransport.request
  split
  · rintro _ _ ⟨⟩
  · split
    · next error refused =>
        rw [refused] at headers
        intro code message same
        cases same
        exact headers code message rfl
    · split
      · rintro _ _ ⟨⟩
      · exact notRemote_exchange _ _ _ _ _

end Http

end ToolMcp
end YunXi
