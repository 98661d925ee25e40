import YunXi.Protocol.Authority
import YunXi.Protocol.Serde
import YunXi.Program.Utf8
import Mathlib.Data.Set.Defs

/-!
# The scope of a network grant

A grant for an endpoint allows the endpoints with its scheme, host and port.  The parts of an
endpoint are those of RFC 3986: the authority ends at the first slash, question mark or number
sign, a host in brackets ends at the closing one and any other at its first colon, and a port is
made of digits.
-/

namespace YunXi
namespace Protocol

open Value (StructShape)
open Strings (trimEndMatches)

def maxNetworkScopes : Nat := 32

def NetworkScheme.asStr : NetworkScheme → String
  | http => "http"
  | https => "https"

namespace NetworkScope

/-- `NetworkScope::new`; a host that is refused gives nothing. -/
def new (scheme : NetworkScheme) (host : String) (port : Option Nat) : Option NetworkScope :=
  (normalizeHost host).map fun host => ⟨scheme, host, port.getD scheme.defaultPort⟩

/-- `NetworkScope::from_url`. -/
def fromUrl (url : String) : Option NetworkScope := do
  let (scheme, host, port) ← parseEndpoint url
  NetworkScope.new scheme host (some port)

def validate (scope : NetworkScope) : Bool :=
  decide (scope.port ≠ 0) && (normalizeHost scope.host).isSome

/-- `WireScope`. -/
def shape : StructShape := ⟨["scheme", "host", "port"], 3, false⟩

def toJson (scope : NetworkScope) : Value :=
  .object [("scheme", .string scope.scheme.asStr), ("host", .string scope.host),
    ("port", .ofNat scope.port)]

/-- A scope that is read is built anew. -/
def fromJson (value : Value) : Option NetworkScope := do
  let field ← value.fields shape
  let scheme ← (field "scheme").bind (Value.variant [.http, .https] NetworkScheme.asStr)
  let host ← (field "host").bind Value.asStr
  let port ← (field "port").bind (·.asBounded (2 ^ 16))
  NetworkScope.new scheme host (some port)

end NetworkScope

namespace NetworkGrant

/-- Scopes that a grant may have: not too many, each one valid and none twice. -/
def validate (grant : NetworkGrant) : Bool :=
  decide (grant.scopes.length ≤ maxNetworkScopes) && grant.scopes.all NetworkScope.validate &&
    decide grant.scopes.Nodup

/-- `NetworkGrant::new`. -/
def new (scopes : List NetworkScope) : Option NetworkGrant :=
  if validate ⟨scopes, false⟩ then some ⟨scopes, false⟩ else Option.none

/-- `NetworkGrant::for_url`. -/
def forUrl (url : String) : Option NetworkGrant := do
  NetworkGrant.new [← NetworkScope.fromUrl url]

/-- `WireGrant`. -/
def shape : StructShape := ⟨["scopes", "allow_any"], 0, false⟩

/-- `allow_any` is only written if it is set. -/
def toJson (grant : NetworkGrant) : Value :=
  .object (("scopes", .array (grant.scopes.map NetworkScope.toJson)) ::
    if grant.allowAny then [("allow_any", .bool true)] else [])

/-- A grant that is read also passes its check. -/
def fromJson (value : Value) : Option NetworkGrant := do
  let field ← value.fields shape
  let scopes ← (field "scopes").elim (some []) fun scopes =>
    scopes.asArray.bind (List.mapM NetworkScope.fromJson)
  let allowAny ← (field "allow_any").elim (some false) Value.asBool
  if validate ⟨scopes, allowAny⟩ then some ⟨scopes, allowAny⟩ else Option.none

end NetworkGrant

def authorityEnd (character : Char) : Bool :=
  character == '/' || character == '?' || character == '#'

/-- What stands before the first `://`, and the authority behind it. -/
def schemeAndAuthority (text : String) : Option (List Char × List Char) :=
  (splitOnce "://".toList text.toList).map fun (scheme, remainder) =>
    (scheme, remainder.takeWhile (!authorityEnd ·))

/-- The scheme of a name, whatever the case of its letters. -/
def schemeOf (name : List Char) : Option NetworkScheme :=
  match toAsciiLowercase (String.ofList name) with
  | "http" => some .http
  | "https" => some .https
  | _ => none

/-- The host of an authority, whether it stands in brackets, and what stands behind the colon
after it. -/
def hostParts : List Char → Option (Bool × List Char × List Char)
  | '[' :: bracketed =>
      match splitOnce [']'] bracketed with
      | some (host, []) => some (true, host, [])
      | some (host, ':' :: port) => some (true, host, port)
      | _ => none
  | authority =>
      match splitOnce [':'] authority with
      | none => some (false, authority, [])
      | some (host, port) => some (false, host, port)

/-- The port that a scheme and the text of a port name. -/
def effectivePort (scheme : NetworkScheme) (port : List Char) : Option Nat :=
  if port = [] then some scheme.defaultPort
  else if port.all isAsciiDigit then some (Value.digitsValue port) else none

/-- An endpoint, its host without the case of letters and the dots at its end. -/
structure Endpoint where
  scheme : NetworkScheme
  bracketed : Bool
  host : String
  port : Nat
  deriving DecidableEq, Repr

def endpointOf (text : String) : Option Endpoint := do
  let (scheme, authority) ← schemeAndAuthority text
  let scheme ← schemeOf scheme
  let (bracketed, host, port) ← hostParts authority
  let port ← effectivePort scheme port
  return ⟨scheme, bracketed,
    toAsciiLowercase (trimEndMatches (· == '.') (String.ofList host)), port⟩

/-- Two texts have the same scheme, host and port. -/
def SameEndpoint (first second : String) : Prop :=
  ∃ endpoint, endpointOf first = some endpoint ∧ endpointOf second = some endpoint

/-- Texts that no endpoint may be. -/
inductive Malformed (text : String) : Prop
  | character {character : Char} (among : character ∈ text.toList)
      (refused : isControlCharacter character = true ∨ isWhiteSpace character = true)
  | authority {scheme authority : List Char} {character : Char}
      (parts : schemeAndAuthority text = some (scheme, authority)) (among : character ∈ authority)
      (refused : character = '@' ∨ character = '\\')
  | host {scheme host port : List Char}
      (parts : schemeAndAuthority text = some (scheme, host ++ ':' :: port))
      (unbracketed : host.head? ≠ some '[') (colon : ':' ∈ host)

theorem toAsciiLowercase_toAsciiLowercase (text : String) :
    toAsciiLowercase (toAsciiLowercase text) = toAsciiLowercase text := by
  unfold toAsciiLowercase
  rw [String.toList_ofList, List.map_map,
    show Char.toLower ∘ Char.toLower = Char.toLower from funext Strings.toLower_toLower]

theorem utf8Size_toLower (character : Char) : character.toLower.utf8Size = character.utf8Size := by
  have code := Strings.toNat_toLower character
  split at code
  · rw [Utf8.utf8Size_of_toNat_lt (by omega), Utf8.utf8Size_of_toNat_lt (by omega)]
  · rw [Char.toNat_inj.mp code]

theorem utf8ByteSize_toAsciiLowercase (text : String) :
    (toAsciiLowercase text).utf8ByteSize = text.utf8ByteSize := by
  rw [toAsciiLowercase, Value.utf8ByteSize_ofList, ← Value.textSize_toList, Value.textSize,
    Value.textSize, List.map_map, show Char.utf8Size ∘ Char.toLower = Char.utf8Size from
      funext utf8Size_toLower]

theorem utf8ByteSize_trimEndMatches_le (test : Char → Bool) (text : String) :
    (trimEndMatches test text).utf8ByteSize ≤ text.utf8ByteSize := by
  obtain ⟨rest, parts⟩ := List.rdropWhile_prefix test text.toList
  have sizes := congrArg Value.textSize parts
  rw [Value.textSize_append, Value.textSize_toList] at sizes
  rw [trimEndMatches, Value.utf8ByteSize_ofList]
  omega

variable {character : Char}

theorem toLower_eq_dot : (character.toLower == '.') = (character == '.') := by
  rw [Bool.eq_iff_iff, beq_iff_eq, beq_iff_eq, ← Char.toNat_inj, ← Char.toNat_inj,
    Strings.toNat_toLower, show ('.').toNat = 46 from rfl]
  split <;> omega

theorem trimEndMatches_toAsciiLowercase (text : String) :
    trimEndMatches (· == '.') (toAsciiLowercase text) =
      toAsciiLowercase (trimEndMatches (· == '.') text) := by
  unfold trimEndMatches toAsciiLowercase List.rdropWhile
  rw [String.toList_ofList, String.toList_ofList, ← List.map_reverse, List.dropWhile_map,
    List.map_reverse, show (fun character : Char => character == '.') ∘ Char.toLower =
      fun character => character == '.' from funext fun _ => toLower_eq_dot]

theorem trimEndMatches_trimEndMatches (test : Char → Bool) (text : String) :
    trimEndMatches test (trimEndMatches test text) = trimEndMatches test text := by
  unfold trimEndMatches
  rw [String.toList_ofList, List.rdropWhile_idempotent]

theorem toNat_of_hostCharacter (isHost : hostCharacter character = true) :
    33 ≤ character.toNat ∧ character.toNat < 127 := by
  simp only [hostCharacter, isAsciiAlphanumeric, isAsciiLowercase, isAsciiUppercase, isAsciiDigit,
    Bool.or_eq_true, Bool.and_eq_true, decide_eq_true_eq, beq_iff_eq] at isHost
  rcases isHost with ((((letter | letter) | letter) | rfl) | rfl) | rfl
  · omega
  · omega
  · omega
  all_goals decide

theorem plain_of_toNat (low : 33 ≤ character.toNat)
    (high : character.toNat < 127) :
    isControlCharacter character = false ∧ isWhiteSpace character = false := by
  unfold isControlCharacter isWhiteSpace
  simp only [Bool.or_eq_false_iff, Bool.and_eq_false_iff, decide_eq_false_iff_not,
    beq_eq_false_iff_ne]
  omega

/-- A normal form of a host has only characters of hosts, and no dot at its end. -/
structure IsNormalHost (host : String) : Prop where
  filled : host ≠ ""
  short : host.utf8ByteSize ≤ maxNetworkHostBytes
  characters : host.toList.all hostCharacter = true
  trimmed : trimEndMatches (· == '.') host = host
  lower : toAsciiLowercase host = host

variable {host : String}

theorem normalizeHost_eq_some {value : String} :
    normalizeHost value = some host ↔ (isBlank value = false ∧
      value.utf8ByteSize ≤ maxNetworkHostBytes) ∧
      (∀ character ∈ value.toList, isControlCharacter character = false ∧
        isWhiteSpace character = false) ∧
      (host ≠ "" ∧ host.toList.all hostCharacter = true) ∧
      host = toAsciiLowercase (trimEndMatches (· == '.') value) := by
  unfold normalizeHost
  rw [Option.ite_none_left_eq_some, Option.ite_none_left_eq_some, Option.ite_none_right_eq_some,
    not_or, Bool.not_eq_true, not_lt, Option.some_inj]
  refine and_congr_right fun _ => and_congr (by simp) ?_
  constructor
  · rintro ⟨isHost, rfl⟩
    exact ⟨isHost, rfl⟩
  · rintro ⟨isHost, rfl⟩
    exact ⟨isHost, rfl⟩

theorem isNormalHost_of_normalizeHost {value : String}
    (normal : normalizeHost value = some host) : IsNormalHost host := by
  obtain ⟨⟨-, short⟩, -, ⟨filled, characters⟩, rfl⟩ := normalizeHost_eq_some.mp normal
  refine ⟨filled, ?_, characters, ?_, toAsciiLowercase_toAsciiLowercase _⟩
  · rw [utf8ByteSize_toAsciiLowercase]
    exact (utf8ByteSize_trimEndMatches_le _ _).trans short
  · rw [trimEndMatches_toAsciiLowercase, trimEndMatches_trimEndMatches]

/-- A normal host is its own normal form. -/
theorem normalizeHost_of_isNormalHost (normal : IsNormalHost host) :
    normalizeHost host = some host := by
  have plain : ∀ character ∈ host.toList, isControlCharacter character = false ∧
      isWhiteSpace character = false := by
    intro character among
    have code := toNat_of_hostCharacter (List.all_eq_true.mp normal.characters character among)
    exact plain_of_toNat code.1 code.2
  refine normalizeHost_eq_some.mpr ⟨⟨?_, normal.short⟩, plain,
    ⟨normal.filled, normal.characters⟩, by rw [normal.trimmed, normal.lower]⟩
  obtain ⟨character, among⟩ := List.exists_mem_of_ne_nil _
    (mt String.toList_eq_nil_iff.mp normal.filled)
  rw [isBlank, List.all_eq_false]
  exact ⟨character, among, Bool.eq_false_iff.mp (plain character among).2⟩

/-- The digits of a port, behind the plus sign that a port may have. -/
def portDigits : List Char → List Char
  | '+' :: rest => rest
  | characters => characters

variable {text : List Char}

theorem portDigits_of_digits (digits : text.all isAsciiDigit = true) :
    portDigits text = text := by
  unfold portDigits
  split
  · cases digits
  · rfl

variable {port : Nat}

theorem parsePort_eq_some : parsePort text = some port ↔ (portDigits text ≠ [] ∧
      (portDigits text).all isAsciiDigit = true ∧ 0 < port ∧ port < 2 ^ 16) ∧
      port = Value.digitsValue (portDigits text) := by
  change (if portDigits text ≠ [] ∧ (portDigits text).all isAsciiDigit = true ∧
    0 < Value.digitsValue (portDigits text) ∧ Value.digitsValue (portDigits text) < 2 ^ 16 then
      some (Value.digitsValue (portDigits text)) else none) = some port ↔ _
  rw [Option.ite_none_right_eq_some, Option.some_inj]
  constructor
  · rintro ⟨accepted, rfl⟩
    exact ⟨accepted, rfl⟩
  · rintro ⟨accepted, rfl⟩
    exact ⟨accepted, rfl⟩

variable {scheme : NetworkScheme}

/-- A port of digits is the effective one. -/
theorem effectivePort_of_parsePort
    (parsed : parsePort text = some port) (digits : text.all isAsciiDigit = true) :
    effectivePort scheme text = some port := by
  obtain ⟨⟨filled, _⟩, same⟩ := parsePort_eq_some.mp parsed
  rw [portDigits_of_digits digits] at filled same
  rw [effectivePort, if_neg filled, if_pos digits, same]

theorem effectivePort_of_signed (filled : text ≠ []) (signed : ¬ text.all isAsciiDigit = true) :
    effectivePort scheme text = none := by
  rw [effectivePort, if_neg filled, if_neg signed]

/-- The parts of an authority that is accepted: a host in brackets, or the text before the last
colon. -/
inductive Splits (scheme : NetworkScheme) : List Char → List Char → Nat → Prop
  | literal {host : List Char} (closed : ']' ∉ host) :
      Splits scheme ('[' :: host ++ [']']) host scheme.defaultPort
  | literalPort {host text : List Char} {port : Nat} (closed : ']' ∉ host)
      (parsed : parsePort text = some port) :
      Splits scheme ('[' :: host ++ ']' :: ':' :: text) host port
  | name {host : List Char} (unbracketed : host.head? ≠ some '[') (whole : ':' ∉ host) :
      Splits scheme host host scheme.defaultPort
  | namePort {host text : List Char} {port : Nat}
      (unbracketed : (host ++ ':' :: text).head? ≠ some '[')
      (digits : text.all isAsciiDigit = true) (parsed : parsePort text = some port) :
      Splits scheme (host ++ ':' :: text) host port

variable {separator : Char}

theorem splitOnce_eq_some {before after : List Char} :
    splitOnce [separator] text = some (before, after) ↔
      separator ∉ before ∧ text = before ++ separator :: after := by
  constructor
  · intro split
    induction text generalizing before with
    | nil => cases split
    | cons character text ih =>
        rw [splitOnce] at split
        by_cases isSeparator : character = separator
        · subst isSeparator
          rw [if_pos (by simp)] at split
          cases split
          exact ⟨List.not_mem_nil, rfl⟩
        · rw [if_neg (by simpa using Ne.symm isSeparator), Option.map_eq_some_iff] at split
          obtain ⟨⟨_, _⟩, later, same⟩ := split
          cases same
          obtain ⟨absent, rfl⟩ := ih later
          refine ⟨fun among => ?_, rfl⟩
          rcases List.mem_cons.mp among with rfl | among
          · exact isSeparator rfl
          · exact absent among
  · rintro ⟨absent, rfl⟩
    exact splitOnce_append absent after

theorem splitOnce_eq_none : splitOnce [separator] text = none ↔ separator ∉ text := by
  constructor
  · intro split among
    obtain ⟨before, after, rfl, absent⟩ := List.eq_append_cons_of_mem among
    rw [splitOnce_append absent] at split
    cases split
  · intro absent
    rw [Option.eq_none_iff_forall_ne_some]
    rintro ⟨before, after⟩ split
    obtain ⟨-, rfl⟩ := splitOnce_eq_some.mp split
    exact absent (List.mem_append_right _ List.mem_cons_self)

theorem rsplitOnce_eq_some {before after : List Char} :
    rsplitOnce separator text = some (before, after) ↔
      separator ∉ after ∧ text = before ++ separator :: after := by
  constructor
  · intro split
    obtain ⟨⟨first, second⟩, reversed, same⟩ := Option.map_eq_some_iff.mp split
    cases same
    obtain ⟨absent, parts⟩ := splitOnce_eq_some.mp reversed
    refine ⟨by rwa [List.mem_reverse], ?_⟩
    rw [← List.reverse_reverse text, parts]
    simp
  · rintro ⟨absent, rfl⟩
    exact rsplitOnce_append absent before

theorem rsplitOnce_eq_none : rsplitOnce separator text = none ↔ separator ∉ text := by
  rw [rsplitOnce, Option.map_eq_none_iff, splitOnce_eq_none, List.mem_reverse]

variable {authority : List Char}

theorem splits_of_hostAndPort {host : List Char}
    (split : hostAndPort scheme authority = some (host, port)) :
    Splits scheme authority host port := by
  unfold hostAndPort at split
  split at split
  · next bracketed =>
    split at split
    · cases split
    · next closes =>
      obtain ⟨absent, rfl⟩ := splitOnce_eq_some.mp closes
      cases split
      exact .literal absent
    · next closes =>
      obtain ⟨absent, rfl⟩ := splitOnce_eq_some.mp closes
      obtain ⟨_, parsed, same⟩ := Option.map_eq_some_iff.mp split
      cases same
      exact .literalPort absent parsed
    · cases split
  · next unbracketed =>
    have notBracket : authority.head? ≠ some '[' := by
      cases authority with
      | nil =>
          intro same
          cases same
      | cons first rest =>
          intro same
          exact unbracketed rest (by rw [Option.some_inj.mp same])
    split at split
    · next whole =>
      cases split
      exact .name notBracket (rsplitOnce_eq_none.mp whole)
    · next colon =>
      obtain ⟨-, rfl⟩ := rsplitOnce_eq_some.mp colon
      obtain ⟨⟨_, digits⟩, named⟩ := Option.ite_none_right_eq_some.mp split
      obtain ⟨_, parsed, same⟩ := Option.map_eq_some_iff.mp named
      cases same
      exact .namePort notBracket digits parsed

theorem schemeOf_eq_none {name : List Char}
    (notHttp : toAsciiLowercase (String.ofList name) ≠ "http")
    (notHttps : toAsciiLowercase (String.ofList name) ≠ "https") : schemeOf name = none := by
  unfold schemeOf
  split
  · next isHttp => exact absurd isHttp notHttp
  · next isHttps => exact absurd isHttps notHttps
  · rfl

/-- Reading an endpoint, one part after the other. -/
theorem parseEndpoint_eq (url : String) : parseEndpoint url =
    if url.toList.any fun character => isControlCharacter character || isWhiteSpace character then
      none
    else (schemeAndAuthority url).bind fun parts => (schemeOf parts.1).bind fun scheme =>
      if parts.2.isEmpty ∨ '@' ∈ parts.2 then none
      else (hostAndPort scheme parts.2).bind fun named =>
        (normalizeHost (String.ofList named.1)).bind fun host =>
          some (scheme, host, named.2) := by
  have ends : (fun character : Char => character ≠ '/' && character ≠ '?' && character ≠ '#') =
      (!authorityEnd ·) := by
    funext character
    rw [authorityEnd, Bool.not_or, Bool.not_or]
    simp only [ne_eq, decide_not, beq_eq_decide]
  unfold parseEndpoint schemeAndAuthority
  rw [ends]
  refine ite_congr rfl (fun _ => rfl) fun _ => ?_
  cases splitOnce "://".toList url.toList with
  | none => rfl
  | some parts =>
      obtain ⟨name, remainder⟩ := parts
      dsimp only [Option.map_some, Option.bind_some, Option.bind_eq_bind]
      split
      · next isHttp =>
        rw [show schemeOf name = some .http by rw [schemeOf, isHttp]; rfl]
        rfl
      · next isHttps =>
        rw [show schemeOf name = some .https by rw [schemeOf, isHttps]; rfl]
        rfl
      · next notHttp notHttps =>
        rw [schemeOf_eq_none notHttp notHttps]
        rfl

/-- What is read of an endpoint that is accepted. -/
structure Accepted (url : String) (name authority named : List Char) (scheme : NetworkScheme)
    (host : String) (port : Nat) : Prop where
  plain : ∀ character ∈ url.toList, isControlCharacter character = false ∧
    isWhiteSpace character = false
  parts : schemeAndAuthority url = some (name, authority)
  isScheme : schemeOf name = some scheme
  filled : authority ≠ []
  anonymous : '@' ∉ authority
  splits : hostAndPort scheme authority = some (named, port)
  normal : normalizeHost (String.ofList named) = some host

variable {url : String}

theorem parseEndpoint_eq_some : parseEndpoint url = some (scheme, host, port) ↔
      ∃ name authority named, Accepted url name authority named scheme host port := by
  rw [parseEndpoint_eq, Option.ite_none_left_eq_some, Bool.not_eq_true, List.any_eq_false]
  constructor
  · rintro ⟨plain, parsed⟩
    obtain ⟨⟨name, authority⟩, parts, parsed⟩ := Option.bind_eq_some_iff.mp parsed
    obtain ⟨found, isScheme, parsed⟩ := Option.bind_eq_some_iff.mp parsed
    obtain ⟨usable, parsed⟩ := Option.ite_none_left_eq_some.mp parsed
    obtain ⟨⟨named, number⟩, splits, parsed⟩ := Option.bind_eq_some_iff.mp parsed
    obtain ⟨normal, isNormal, same⟩ := Option.bind_eq_some_iff.mp parsed
    cases same
    rw [not_or, List.isEmpty_iff] at usable
    refine ⟨name, authority, named, ⟨fun character among => ?_, parts, isScheme, usable.1,
      usable.2, splits, isNormal⟩⟩
    exact Bool.or_eq_false_iff.mp (Bool.eq_false_iff.mpr (plain character among))
  · rintro ⟨name, authority, named, accepted⟩
    refine ⟨fun character among => ?_, ?_⟩
    · exact Bool.eq_false_iff.mp (Bool.or_eq_false_iff.mpr (accepted.plain character among))
    · refine Option.bind_eq_some_iff.mpr ⟨_, accepted.parts, ?_⟩
      refine Option.bind_eq_some_iff.mpr ⟨_, accepted.isScheme, ?_⟩
      refine Option.ite_none_left_eq_some.mpr ⟨?_, ?_⟩
      · rw [List.isEmpty_iff]
        exact not_or.mpr ⟨accepted.filled, accepted.anonymous⟩
      · refine Option.bind_eq_some_iff.mpr ⟨_, accepted.splits, ?_⟩
        exact Option.bind_eq_some_iff.mpr ⟨_, accepted.normal, rfl⟩

theorem hostParts_name (unbracketed : authority.head? ≠ some '[')
    (whole : ':' ∉ authority) : hostParts authority = some (false, authority, []) := by
  unfold hostParts
  split
  · exact absurd rfl unbracketed
  · rw [splitOnce_eq_none.mpr whole]

theorem hostParts_colon {host port : List Char}
    (unbracketed : (host ++ ':' :: port).head? ≠ some '[') (whole : ':' ∉ host) :
    hostParts (host ++ ':' :: port) = some (false, host, port) := by
  unfold hostParts
  split
  · next same =>
    rw [same] at unbracketed
    exact absurd rfl unbracketed
  · rw [splitOnce_append whole]

theorem hostParts_literal {host after : List Char} (closed : ']' ∉ host) (port : List Char)
    (ends : after = [] ∧ port = [] ∨ after = ':' :: port) :
    hostParts ('[' :: host ++ ']' :: after) = some (true, host, port) := by
  rw [List.cons_append, hostParts, splitOnce_append closed]
  rcases ends with ⟨rfl, rfl⟩ | rfl <;> rfl

/-- Without brackets a port begins at the first colon, so a second one is no digit of it. -/
theorem hostParts_of_two_colons (scheme : NetworkScheme) {host port : List Char}
    (unbracketed : (host ++ ':' :: port).head? ≠ some '[') (colon : ':' ∈ host) :
    ∃ first rest, hostParts (host ++ ':' :: port) = some (false, first, rest) ∧
      effectivePort scheme rest = none := by
  obtain ⟨first, rest, rfl, absent⟩ := List.eq_append_cons_of_mem colon
  rw [List.append_assoc, List.cons_append] at unbracketed ⊢
  refine ⟨first, _, hostParts_colon unbracketed absent, effectivePort_of_signed (by simp) ?_⟩
  rw [List.all_append, List.all_cons, show isAsciiDigit ':' = false from rfl, Bool.false_and,
    Bool.and_false]
  exact Bool.false_ne_true

/-- An authority that is accepted has the host and port that were read, or its port has other
characters than digits. -/
theorem hostParts_of_splits {host : List Char}
    (splits : Splits scheme authority host port) :
    ∃ bracketed named text, hostParts authority = some (bracketed, named, text) ∧
      (effectivePort scheme text = none ∨ named = host ∧ effectivePort scheme text = some port) := by
  cases splits with
  | literal closed =>
      exact ⟨true, host, [], hostParts_literal closed [] (.inl ⟨rfl, rfl⟩), .inr ⟨rfl, rfl⟩⟩
  | @literalPort _ text _ closed parsed =>
      refine ⟨true, host, text, hostParts_literal closed text (.inr rfl), ?_⟩
      by_cases digits : text.all isAsciiDigit = true
      · exact .inr ⟨rfl, effectivePort_of_parsePort parsed digits⟩
      · refine .inl (effectivePort_of_signed ?_ digits)
        rintro rfl
        exact digits rfl
  | name unbracketed whole => exact ⟨false, authority, [], hostParts_name unbracketed whole, .inr ⟨rfl, rfl⟩⟩
  | @namePort _ text _ unbracketed digits parsed =>
      by_cases whole : ':' ∈ host
      · obtain ⟨first, rest, parts, noPort⟩ := hostParts_of_two_colons scheme unbracketed whole
        exact ⟨false, first, rest, parts, .inl noPort⟩
      · exact ⟨false, host, text, hostParts_colon unbracketed whole,
          .inr ⟨rfl, effectivePort_of_parsePort parsed digits⟩⟩

/-- An endpoint that is accepted is read as it is, or it is none. -/
theorem endpointOf_of_accepted (accepted : parseEndpoint url = some (scheme, host, port)) :
    endpointOf url = none ∨ ∃ bracketed, endpointOf url = some ⟨scheme, bracketed, host, port⟩ := by
  obtain ⟨name, authority, named, accepted⟩ := parseEndpoint_eq_some.mp accepted
  obtain ⟨bracketed, text, number, parts, ports⟩ :=
    hostParts_of_splits (splits_of_hostAndPort accepted.splits)
  obtain ⟨-, -, -, normal⟩ := normalizeHost_eq_some.mp accepted.normal
  have read : endpointOf url = (effectivePort scheme number).map fun port =>
      ⟨scheme, bracketed, toAsciiLowercase (trimEndMatches (· == '.') (String.ofList text)),
        port⟩ := by
    unfold endpointOf
    rw [accepted.parts]
    simp only [Option.bind_eq_bind, Option.bind_some, accepted.isScheme, parts]
    cases effectivePort scheme number <;> rfl
  rcases ports with noPort | ⟨rfl, isPort⟩
  · exact .inl (by rw [read, noPort]; rfl)
  · exact .inr ⟨bracketed, by rw [read, isPort, normal]; rfl⟩

theorem Splits.port_bounds {host : List Char}
    (splits : Splits scheme authority host port) : 0 < port ∧ port < 2 ^ 16 := by
  cases splits with
  | literal => cases scheme <;> decide
  | literalPort _ parsed => exact (parsePort_eq_some.mp parsed).1.2.2
  | name => cases scheme <;> decide
  | namePort _ _ parsed => exact (parsePort_eq_some.mp parsed).1.2.2

/-- A grant for an endpoint has its scheme, host and port as the only scope. -/
theorem NetworkGrant.forUrl_eq_some {grant : NetworkGrant} :
    forUrl url = some grant ↔ ∃ scheme host port, parseEndpoint url = some (scheme, host, port) ∧
      grant = ⟨[⟨scheme, host, port⟩], false⟩ := by
  have built : ∀ {scheme host port}, parseEndpoint url = some (scheme, host, port) →
      forUrl url = some ⟨[⟨scheme, host, port⟩], false⟩ := by
    intro scheme host port parsed
    obtain ⟨_, _, _, accepted⟩ := parseEndpoint_eq_some.mp parsed
    have normal := normalizeHost_of_isNormalHost (isNormalHost_of_normalizeHost accepted.normal)
    have positive := (splits_of_hostAndPort accepted.splits).port_bounds.1
    have scope : NetworkScope.fromUrl url = some ⟨scheme, host, port⟩ := by
      rw [NetworkScope.fromUrl, parsed]
      simp [NetworkScope.new, normal]
    rw [forUrl, scope]
    refine if_pos ?_
    simp [NetworkGrant.validate, NetworkScope.validate, normal, positive.ne', maxNetworkScopes]
  constructor
  · intro isGrant
    cases parsed : parseEndpoint url with
    | none =>
        rw [forUrl, NetworkScope.fromUrl, parsed] at isGrant
        cases isGrant
    | some parts =>
        obtain ⟨scheme, host, port⟩ := parts
        rw [built parsed] at isGrant
        exact ⟨scheme, host, port, rfl, (Option.some_inj.mp isGrant).symm⟩
  · rintro ⟨scheme, host, port, parsed, rfl⟩
    exact built parsed

theorem NetworkGrant.allowsUrl_of_forUrl {other : String} {grant : NetworkGrant}
    (isGrant : forUrl url = some grant) :
    grant.allowsUrl other = true ↔ parseEndpoint other = parseEndpoint url := by
  obtain ⟨scheme, host, port, parsed, rfl⟩ := forUrl_eq_some.mp isGrant
  rw [parsed]
  simp [NetworkGrant.allowsUrl, NetworkScope.matchesUrl]

/-- A normal scope is read back as it was written. -/
theorem NetworkScope.fromJson_toJson {scope : NetworkScope}
    (normal : normalizeHost scope.host = some scope.host) (small : scope.port < 2 ^ 16) :
    fromJson scope.toJson = some scope := by
  have fields : scope.toJson.fields shape = some fun name =>
      [("scheme", .string scope.scheme.asStr), ("host", .string scope.host),
        ("port", .ofNat scope.port)].lookup name := rfl
  have scheme : (Value.string scope.scheme.asStr).variant [.http, .https] NetworkScheme.asStr =
      some scope.scheme := by
    cases scope.scheme <;> rfl
  have port := Value.asBounded_ofNat small (show 2 ^ 16 ≤ 2 ^ 64 by decide)
  unfold fromJson
  rw [fields]
  change (Value.variant _ _ (Value.string scope.scheme.asStr)).bind _ = _
  rw [scheme]
  change ((Value.ofNat scope.port).asBounded (2 ^ 16)).bind _ = _
  rw [port]
  change NetworkScope.new scope.scheme scope.host (some scope.port) = _
  rw [NetworkScope.new, normal]
  rfl

/-- A grant for an endpoint is read back as it was written. -/
theorem NetworkGrant.fromJson_toJson {grant : NetworkGrant}
    (isGrant : forUrl url = some grant) : fromJson grant.toJson = some grant := by
  obtain ⟨scheme, host, port, parsed, same⟩ := forUrl_eq_some.mp isGrant
  obtain ⟨_, _, _, accepted⟩ := parseEndpoint_eq_some.mp parsed
  have normal := normalizeHost_of_isNormalHost (isNormalHost_of_normalizeHost accepted.normal)
  have bounds := (splits_of_hostAndPort accepted.splits).port_bounds
  have scope := @NetworkScope.fromJson_toJson ⟨scheme, host, port⟩ normal bounds.2
  have valid : NetworkGrant.validate ⟨[⟨scheme, host, port⟩], false⟩ = true := by
    simp [NetworkGrant.validate, NetworkScope.validate, normal, bounds.1.ne', maxNetworkScopes]
  subst same
  change (List.mapM NetworkScope.fromJson [NetworkScope.toJson ⟨scheme, host, port⟩]).bind _ = _
  rw [List.mapM_cons, List.mapM_nil, scope]
  exact if_pos valid

theorem hostCharacter_of_normalizeHost {named : List Char}
    (normal : normalizeHost (String.ofList named) = some host)
    (among : character ∈ named) : hostCharacter character.toLower = true := by
  obtain ⟨-, -, ⟨-, characters⟩, same⟩ := normalizeHost_eq_some.mp normal
  rw [same, toAsciiLowercase, trimEndMatches, String.toList_ofList, String.toList_ofList,
    String.toList_ofList, List.all_map] at characters
  have parts : named.rdropWhile (· == '.') ++ named.rtakeWhile (· == '.') = named :=
    List.rdropWhile_append_rtakeWhile
  rw [← parts] at among
  rcases List.mem_append.mp among with kept | dropped
  · exact List.all_eq_true.mp characters character kept
  · have isDot := @List.mem_rtakeWhile_imp _ (· == '.') named _ dropped
    rw [eq_of_beq isDot]
    decide

/-- The characters of an authority that is accepted. -/
theorem Splits.not_mem_backslash {named : List Char}
    (splits : Splits scheme authority named port)
    (normal : normalizeHost (String.ofList named) = some host) : '\\' ∉ authority := by
  have inHost : '\\' ∉ named := fun among =>
    absurd (hostCharacter_of_normalizeHost normal among) (by decide)
  have inPort : ∀ {text number}, parsePort text = some number → '\\' ∉ text := by
    intro text number parsed among
    have digits := (parsePort_eq_some.mp parsed).1.2.1
    unfold portDigits at digits
    split at digits
    · rcases List.mem_cons.mp among with same | among
      · exact absurd same (by decide)
      · exact absurd (List.all_eq_true.mp digits _ among) (by decide)
    · exact absurd (List.all_eq_true.mp digits _ among) (by decide)
  cases splits with
  | literal => simp [inHost]
  | literalPort _ parsed => simp [inHost, inPort parsed]
  | name => exact inHost
  | namePort _ _ parsed => simp [inHost, inPort parsed]

/-- A text that no endpoint may be is refused, or its port has other characters than digits. -/
theorem endpointOf_of_malformed (parsed : parseEndpoint url = some (scheme, host, port))
    (malformed : Malformed url) : endpointOf url = none := by
  obtain ⟨name, authority, named, accepted⟩ := parseEndpoint_eq_some.mp parsed
  cases malformed with
  | character among refused =>
      have plain := accepted.plain _ among
      rcases refused with control | white
      · exact absurd control (Bool.eq_false_iff.mp plain.1)
      · exact absurd white (Bool.eq_false_iff.mp plain.2)
  | authority parts among refused =>
      rw [accepted.parts] at parts
      cases parts
      rcases refused with rfl | rfl
      · exact absurd among accepted.anonymous
      · exact absurd among
          ((splits_of_hostAndPort accepted.splits).not_mem_backslash accepted.normal)
  | @host _ first second parts unbracketed colon =>
      rw [accepted.parts] at parts
      cases parts
      have notBracket : (first ++ ':' :: second).head? ≠ some '[' := by
        cases first with
        | nil => cases colon
        | cons => exact unbracketed
      obtain ⟨before, rest, parts, noPort⟩ := hostParts_of_two_colons scheme notBracket colon
      unfold endpointOf
      rw [accepted.parts]
      simp only [Option.bind_eq_bind, Option.bind_some, accepted.isScheme, parts, noPort,
        Option.bind_none]

open NetworkGrant (forUrl)

/-- On a set of texts the grants for endpoints allow the same endpoints only, texts that no
endpoint may be are refused, and grants survive being written and read. -/
structure ScopesExactly (texts : Set String) : Prop where
  agrees : ∀ url ∈ texts, ∀ other ∈ texts, ∀ grant, forUrl url = some grant →
    (forUrl other).isSome → (grant.allowsUrl other = true ↔ SameEndpoint url other)
  refuses : ∀ text ∈ texts, Malformed text → forUrl text = none ∧
    ∀ url grant, forUrl url = some grant → grant.allowsUrl text = false
  survives : ∀ text ∈ texts, ∀ grant, forUrl text = some grant →
    NetworkGrant.fromJson grant.toJson = some grant

/-- Texts that pass the checks on their characters, scheme, host and port. -/
def Acceptable (url : String) : Prop :=
  ∃ name authority named scheme host port, Accepted url name authority named scheme host port

/-- Texts that pass the checks are endpoints, and none of two has the host in brackets that the
other has without. -/
structure PlainlyWritten (texts : Set String) : Prop where
  endpoints : ∀ text ∈ texts, Acceptable text → (endpointOf text).isSome
  brackets : ∀ first ∈ texts, ∀ second ∈ texts, Acceptable first → Acceptable second →
    ∀ endpoint : Endpoint, endpointOf first = some { endpoint with bracketed := true } →
      endpointOf second ≠ some { endpoint with bracketed := false }

theorem acceptable_iff : Acceptable url ↔ ∃ parts, parseEndpoint url = some parts := by
  constructor
  · rintro ⟨name, authority, named, scheme, host, port, accepted⟩
    exact ⟨_, parseEndpoint_eq_some.mpr ⟨name, authority, named, accepted⟩⟩
  · rintro ⟨⟨scheme, host, port⟩, parsed⟩
    obtain ⟨name, authority, named, accepted⟩ := parseEndpoint_eq_some.mp parsed
    exact ⟨name, authority, named, scheme, host, port, accepted⟩

theorem isSome_forUrl : (forUrl url).isSome ↔ Acceptable url := by
  rw [acceptable_iff, Option.isSome_iff_exists]
  constructor
  · rintro ⟨grant, isGrant⟩
    obtain ⟨scheme, host, port, parsed, -⟩ := NetworkGrant.forUrl_eq_some.mp isGrant
    exact ⟨_, parsed⟩
  · rintro ⟨⟨scheme, host, port⟩, parsed⟩
    exact ⟨_, NetworkGrant.forUrl_eq_some.mpr ⟨scheme, host, port, parsed, rfl⟩⟩

/-- Grants for the texts of a set are what they should be exactly if the texts are plainly
written. -/
theorem scopesExactly_iff (texts : Set String) : ScopesExactly texts ↔ PlainlyWritten texts := by
  constructor
  · intro exactly
    have reflexive : ∀ text ∈ texts, Acceptable text → (endpointOf text).isSome := by
      intro text among acceptable
      obtain ⟨grant, isGrant⟩ := Option.isSome_iff_exists.mp (isSome_forUrl.mpr acceptable)
      have allows := (NetworkGrant.allowsUrl_of_forUrl isGrant).mpr rfl
      have isSome := isSome_forUrl.mpr acceptable
      obtain ⟨endpoint, isEndpoint, -⟩ :=
        (exactly.agrees text among text among grant isGrant isSome).mp allows
      rw [isEndpoint]
      rfl
    refine ⟨reflexive, fun first among second others acceptable alsoAcceptable endpoint isFirst
      isSecond => ?_⟩
    obtain ⟨⟨scheme, host, port⟩, parsed⟩ := acceptable_iff.mp acceptable
    obtain ⟨⟨scheme', host', port'⟩, parsed'⟩ := acceptable_iff.mp alsoAcceptable
    obtain ⟨grant, isGrant⟩ := Option.isSome_iff_exists.mp (isSome_forUrl.mpr acceptable)
    have same : parseEndpoint second = parseEndpoint first := by
      have ends := (endpointOf_of_accepted parsed).resolve_left (by rw [isFirst]; exact Option.some_ne_none _)
      have ends' := (endpointOf_of_accepted parsed').resolve_left (by rw [isSecond]; exact Option.some_ne_none _)
      rw [isFirst] at ends
      rw [isSecond] at ends'
      obtain ⟨_, ends⟩ := ends
      obtain ⟨_, ends'⟩ := ends'
      cases ends
      cases ends'
      rw [parsed, parsed']
    obtain ⟨both, isBoth, alsoBoth⟩ := (exactly.agrees first among second others grant isGrant
      (isSome_forUrl.mpr alsoAcceptable)).mp ((NetworkGrant.allowsUrl_of_forUrl isGrant).mpr same)
    rw [isFirst] at isBoth
    rw [isSecond] at alsoBoth
    cases isBoth
    cases alsoBoth
  · intro plainly
    have read : ∀ text ∈ texts, ∀ scheme host port, parseEndpoint text = some (scheme, host, port) →
        ∃ bracketed, endpointOf text = some ⟨scheme, bracketed, host, port⟩ := by
      intro text among scheme host port parsed
      rcases endpointOf_of_accepted parsed with isNone | isSome
      · have isSome := plainly.endpoints text among (acceptable_iff.mpr ⟨_, parsed⟩)
        rw [isNone] at isSome
        cases isSome
      · exact isSome
    refine ⟨?_, ?_, fun _ _ _ => NetworkGrant.fromJson_toJson⟩
    · intro url among other otherAmong grant isGrant isSome
      rw [NetworkGrant.allowsUrl_of_forUrl isGrant]
      obtain ⟨scheme, host, port, parsed, -⟩ := NetworkGrant.forUrl_eq_some.mp isGrant
      obtain ⟨⟨scheme', host', port'⟩, parsed'⟩ := acceptable_iff.mp (isSome_forUrl.mp isSome)
      obtain ⟨bracketed, isEndpoint⟩ := read url among scheme host port parsed
      obtain ⟨bracketed', isEndpoint'⟩ := read other otherAmong scheme' host' port' parsed'
      have differ := plainly.brackets url among other otherAmong
        (acceptable_iff.mpr ⟨_, parsed⟩) (isSome_forUrl.mp isSome)
      have differ' := plainly.brackets other otherAmong url among
        (isSome_forUrl.mp isSome) (acceptable_iff.mpr ⟨_, parsed⟩)
      constructor
      · intro same
        rw [parsed, parsed'] at same
        cases same
        refine ⟨_, isEndpoint, ?_⟩
        cases bracketed with
        | true =>
            cases bracketed' with
            | true => exact isEndpoint'
            | false => exact absurd isEndpoint' (differ ⟨scheme, true, host, port⟩ isEndpoint)
        | false =>
            cases bracketed' with
            | true => exact absurd isEndpoint (differ' ⟨scheme, true, host, port⟩ isEndpoint')
            | false => exact isEndpoint'
      · rintro ⟨endpoint, isFirst, isSecond⟩
        rw [isEndpoint] at isFirst
        rw [isEndpoint'] at isSecond
        cases isFirst
        cases isSecond
        rw [parsed, parsed']
    · intro text among malformed
      have refused : parseEndpoint text = none := by
        rw [Option.eq_none_iff_forall_ne_some]
        rintro ⟨scheme, host, port⟩ parsed
        obtain ⟨_, isSome⟩ := read text among scheme host port parsed
        rw [endpointOf_of_malformed parsed malformed] at isSome
        cases isSome
      constructor
      · rw [← Option.not_isSome_iff_eq_none, isSome_forUrl, acceptable_iff, refused]
        rintro ⟨_, parsed⟩
        cases parsed
      · intro url grant isGrant
        obtain ⟨_, _, _, parsed, -⟩ := NetworkGrant.forUrl_eq_some.mp isGrant
        rw [← Bool.not_eq_true, NetworkGrant.allowsUrl_of_forUrl isGrant, refused, parsed]
        intro same
        cases same

/-- A host with a colon is accepted without brackets. -/
theorem not_scopesExactly_colon : ¬ ScopesExactly Set.univ := by
  intro exactly
  have malformed : Malformed "http://a:b:80" :=
    @Malformed.host _ "http".toList "a:b".toList "80".toList (by decide) (by decide) (by decide)
  have refused := (exactly.refuses _ (Set.mem_univ _) malformed).1
  have accepted : (forUrl "http://a:b:80").isSome = true := by decide
  rw [refused] at accepted
  cases accepted

end Protocol
end YunXi
