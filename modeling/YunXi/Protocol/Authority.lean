import YunXi.Protocol.JsonAccess
import YunXi.Program.Strings

/-!
# Network scopes and secret references

A network grant names exact schemes, hosts and ports; a secret grant names references.  Both
only describe what is allowed: secret values stay with the process that owns them.
-/

namespace YunXi
namespace Protocol

open Strings (trimEndMatches stripPrefix)

/-- `char::is_control`. -/
def isControlCharacter (character : Char) : Bool :=
  character.toNat < 32 || (127 ≤ character.toNat && character.toNat < 160)

/-- `to_ascii_lowercase`. -/
def toAsciiLowercase (text : String) : String :=
  String.ofList (text.toList.map Char.toLower)

/-- `text.split_once(separator)`, at the first occurrence of a text. -/
def splitOnce (separator : List Char) : List Char → Option (List Char × List Char)
  | [] => none
  | character :: rest =>
      if separator.isPrefixOf (character :: rest) then
        some ([], (character :: rest).drop separator.length)
      else (splitOnce separator rest).map fun (before, after) => (character :: before, after)

/-- `text.rsplit_once(separator)`, at the last occurrence of a character. -/
def rsplitOnce (separator : Char) (text : List Char) : Option (List Char × List Char) :=
  (splitOnce [separator] text.reverse).map fun (after, before) =>
    (before.reverse, after.reverse)

theorem splitOnce_append {separator : Char} {before : List Char} (absent : separator ∉ before)
    (after : List Char) :
    splitOnce [separator] (before ++ separator :: after) = some (before, after) := by
  induction before with
  | nil => simp [splitOnce]
  | cons character before ih =>
      have differ := List.ne_of_not_mem_cons absent
      have later := List.not_mem_of_not_mem_cons absent
      rw [List.cons_append, splitOnce, if_neg (by simp [differ]), ih later]
      rfl

theorem rsplitOnce_append {separator : Char} {after : List Char} (absent : separator ∉ after)
    (before : List Char) :
    rsplitOnce separator (before ++ separator :: after) = some (before, after) := by
  have reversed : (before ++ separator :: after).reverse =
      after.reverse ++ separator :: before.reverse := by simp
  rw [rsplitOnce, reversed, splitOnce_append (by rwa [List.mem_reverse])]
  simp

inductive NetworkScheme
  | http
  | https
  deriving DecidableEq, Repr

def NetworkScheme.defaultPort : NetworkScheme → Nat
  | http => 80
  | https => 443

def maxNetworkHostBytes : Nat := 253

/-- Characters of a host. -/
def hostCharacter (character : Char) : Bool :=
  isAsciiAlphanumeric character || character == '.' || character == '-' || character == ':'

/-- `normalize_host`; a host that is refused gives nothing. -/
def normalizeHost (value : String) : Option String :=
  if isBlank value ∨ value.utf8ByteSize > maxNetworkHostBytes then none
  else if value.toList.any fun character =>
      isControlCharacter character || isWhiteSpace character then none
  else
    let value := toAsciiLowercase (trimEndMatches (· == '.') value)
    if value ≠ "" ∧ value.toList.all hostCharacter then some value else none

/-- `parse_port`, of digits after an optional plus sign. -/
def parsePort (text : List Char) : Option Nat :=
  let digits := match text with
    | '+' :: rest => rest
    | characters => characters
  if digits ≠ [] ∧ digits.all isAsciiDigit ∧ 0 < Value.digitsValue digits ∧
      Value.digitsValue digits < 2 ^ 16 then
    some (Value.digitsValue digits)
  else none

/-- The host and the port that the authority of an endpoint names. -/
def hostAndPort (scheme : NetworkScheme) (authority : List Char) :
    Option (List Char × Nat) :=
  match authority with
  | '[' :: bracketed =>
      match splitOnce [']'] bracketed with
      | none => none
      | some (host, []) => some (host, scheme.defaultPort)
      | some (host, ':' :: port) => (parsePort port).map fun port => (host, port)
      | some _ => none
  | _ =>
      match rsplitOnce ':' authority with
      | none => some (authority, scheme.defaultPort)
      | some (host, port) =>
          if port ≠ [] ∧ port.all isAsciiDigit then
            (parsePort port).map fun port => (host, port)
          else none

/-- `parse_endpoint`; an endpoint that is refused gives nothing. -/
def parseEndpoint (url : String) : Option (NetworkScheme × String × Nat) :=
  if url.toList.any fun character =>
      isControlCharacter character || isWhiteSpace character then none
  else do
    let (scheme, remainder) ← splitOnce "://".toList url.toList
    let scheme ← match toAsciiLowercase (String.ofList scheme) with
      | "http" => some NetworkScheme.http
      | "https" => some NetworkScheme.https
      | _ => none
    let authority := remainder.takeWhile fun character =>
      character ≠ '/' && character ≠ '?' && character ≠ '#'
    if authority.isEmpty ∨ '@' ∈ authority then none
    else do
      let (host, port) ← hostAndPort scheme authority
      let host ← normalizeHost (String.ofList host)
      return (scheme, host, port)

/-- One exact scheme, host and port. -/
structure NetworkScope where
  scheme : NetworkScheme
  host : String
  port : Nat
  deriving DecidableEq, Repr

def NetworkScope.matchesUrl (scope : NetworkScope) (url : String) : Bool :=
  parseEndpoint url == some (scope.scheme, scope.host, scope.port)

/-- A set of network scopes, or any network at all. -/
structure NetworkGrant where
  scopes : List NetworkScope
  allowAny : Bool
  deriving DecidableEq, Repr

namespace NetworkGrant

def none : NetworkGrant := ⟨[], false⟩

def allowsUrl (grant : NetworkGrant) (url : String) : Bool :=
  grant.allowAny || grant.scopes.any (·.matchesUrl url)

end NetworkGrant

/-- References to secrets that a host makes available. -/
structure SecretGrant where
  references : List String
  deriving DecidableEq, Repr

namespace SecretGrant

def empty : SecretGrant := ⟨[]⟩

def allows (grant : SecretGrant) (reference : String) : Bool :=
  grant.references.contains reference

end SecretGrant

example : (NetworkGrant.mk [⟨.https, "api.example.test", 443⟩] false).allowsUrl
    "https://API.example.test./other" = true := by decide

example : (NetworkGrant.mk [⟨.https, "api.example.test", 443⟩] false).allowsUrl
    "https://api.example.test:8443/v1" = false := by decide

end Protocol
end YunXi
