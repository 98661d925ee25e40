import YunXi.Protocol.Authority
import Mathlib.Data.List.Infix

/-!
# Memory records

The records of the memory process: what they say, how sure and how important they are, when they
hold, and the key under which two records say the same.  Times are milliseconds, and confidence
and importance are single precision numbers.
-/

namespace YunXi
namespace Memory

open Protocol Strings

def currentSchemaVersion : Nat := 3
def maxMemoryIdChars : Nat := 256
def maxMemoryContentChars : Nat := 64 * 1024

/-- `value.find(marker)`, counted in characters. -/
def findText (marker : List Char) : List Char → Option Nat
  | [] => if marker = [] then some 0 else none
  | character :: rest =>
      if marker.isPrefixOf (character :: rest) then some 0
      else (findText marker rest).map (· + 1)

/-- `value.contains(needle)`. -/
def containsText (value needle : String) : Bool :=
  (findText needle.toList value.toList).isSome

def containsAny (value : String) (needles : List String) : Bool :=
  needles.any fun needle =>
    containsText value needle || containsText (toAsciiLowercase value) (toAsciiLowercase needle)

/-- `value.trim()`. -/
def trimText (value : String) : String := trimMatches isWhiteSpace value

def isCjk (character : Char) : Bool :=
  let code := character.toNat
  (0x4E00 ≤ code && code ≤ 0x9FFF) || (0x3400 ≤ code && code ≤ 0x4DBF) ||
    (0xF900 ≤ code && code ≤ 0xFAFF)

inductive MemoryScope
  | globalUser
  | workspace (rootFingerprint : String)
  | agentIdentity
  | relationship
  deriving DecidableEq

namespace MemoryScope

def label : MemoryScope → String
  | globalUser => "global_user"
  | workspace rootFingerprint => "workspace:" ++ rootFingerprint
  | agentIdentity => "agent_identity"
  | relationship => "relationship"

def matchesWorkspace (fingerprint : String) : MemoryScope → Bool
  | workspace rootFingerprint => rootFingerprint == fingerprint
  | globalUser | agentIdentity | relationship => true

end MemoryScope

/-- The kinds of a record, in the order of the source. -/
inductive MemoryKind
  | preference
  | personalFact
  | relationshipNote
  | emotionalState
  | goal
  | projectContext
  | correction
  | event
  | toolTraceSummary
  deriving DecidableEq

namespace MemoryKind

def storageKey : MemoryKind → String
  | preference => "preference"
  | personalFact => "personal_fact"
  | relationshipNote => "relationship_note"
  | emotionalState => "emotional_state"
  | goal => "goal"
  | projectContext => "project_context"
  | correction => "correction"
  | event => "event"
  | toolTraceSummary => "tool_trace_summary"

/-- The place of a kind in the derived order. -/
def rank : MemoryKind → Nat
  | preference => 0
  | personalFact => 1
  | relationshipNote => 2
  | emotionalState => 3
  | goal => 4
  | projectContext => 5
  | correction => 6
  | event => 7
  | toolTraceSummary => 8

end MemoryKind

inductive MemorySensitivity
  | low
  | medium
  | high
  deriving DecidableEq

inductive MemoryStatus
  | active
  | pending
  | rejected
  | archived
  deriving DecidableEq

def MemoryStatus.storageGroup : MemoryStatus → String
  | active => "active"
  | pending => "pending"
  | rejected => "rejected"
  | archived => "archived"

inductive MemoryLayer
  | profile
  | preference
  | relationship
  | workspace
  | episode
  | toolTrace
  | unknown
  deriving DecidableEq

def layerForKind : MemoryKind → MemoryLayer
  | .preference => .preference
  | .personalFact => .profile
  | .relationshipNote | .emotionalState => .relationship
  | .projectContext | .correction => .workspace
  | .goal | .event => .episode
  | .toolTraceSummary => .toolTrace

structure MemoryTemporal where
  observedAtMillis : Nat := 0
  eventAtMillis : Option Nat := none
  validFromMillis : Option Nat := none
  expiresAtMillis : Option Nat := none

structure MemoryInvalidation where
  supersedes : List String := []
  supersededBy : Option String := none
  conflictsWith : List String := []
  expiresReason : Option String := none
  invalidatedAtMillis : Option Nat := none

/-- The loop of `normalized_content` over the output so far. -/
def normalizeCharacters (output : List Char) (lastSpace : Bool) : List Char → List Char
  | [] => output
  | character :: rest =>
      if isAsciiAlphanumeric character then
        normalizeCharacters (output ++ (toAsciiLowercase (String.ofList [character])).toList)
          false rest
      else if isWhiteSpace character then
        if !lastSpace && !output.isEmpty then
          normalizeCharacters (output ++ [' ']) true rest
        else normalizeCharacters output lastSpace rest
      else if isCjk character then normalizeCharacters (output ++ [character]) false rest
      else normalizeCharacters output lastSpace rest

def normalizedContent (kind : MemoryKind) (content : String) : String :=
  if kind = .preference ∧ containsAny content ["中文", "汉语", "Chinese", "Mandarin"] then
    "language:zh"
  else if kind = .preference ∧ containsAny content ["英文", "英语", "English"] then
    "language:en"
  else trimText (String.ofList (normalizeCharacters [] false content.toList))

structure StoredMemoryRecord where
  id : String
  schemaVersion : Nat
  scope : MemoryScope
  kind : MemoryKind
  content : String
  sourceSessionId : Option String
  confidence : Float32
  importance : Float32
  sensitivity : MemorySensitivity
  status : MemoryStatus
  createdAtMillis : Nat
  updatedAtMillis : Nat
  /-- The field `dedup_key`; the method of that name is `dedupKey`. -/
  storedKey : String
  revision : Nat
  mergedCount : Nat
  layer : MemoryLayer
  temporal : MemoryTemporal
  invalidation : MemoryInvalidation

/-- What is handed to the context of a model. -/
structure MemoryContextRecord where
  id : String
  scope : String
  kind : MemoryKind
  content : String
  deriving DecidableEq

namespace StoredMemoryRecord

/-- The key that is made from what a record says. -/
def contentKey (scope : MemoryScope) (kind : MemoryKind) (content : String) : String :=
  scope.label ++ "|" ++ kind.storageKey ++ "|" ++ normalizedContent kind content

variable (record : StoredMemoryRecord)

def dedupKey : String :=
  if isBlank record.storedKey then contentKey record.scope record.kind record.content
  else record.storedKey

def new (id : String) (scope : MemoryScope) (kind : MemoryKind) (content : String)
    (now : Nat) : StoredMemoryRecord where
  id := id
  schemaVersion := currentSchemaVersion
  scope := scope
  kind := kind
  content := content
  sourceSessionId := none
  confidence := 0.82
  importance := 0.65
  sensitivity := .low
  status := .pending
  createdAtMillis := now
  updatedAtMillis := now
  storedKey := contentKey scope kind content
  revision := 1
  mergedCount := 1
  layer := layerForKind kind
  temporal := { observedAtMillis := now, validFromMillis := some now }
  invalidation := {}

/-- `f32::clamp(0.0, 1.0)` of a finite number. -/
def clampUnit (value : Float32) : Float32 :=
  if value < 0 then 0 else if value > 1 then 1 else value

def validate : Except String StoredMemoryRecord :=
  if record.schemaVersion > currentSchemaVersion then
    .error ("unsupported future memory schema_version=" ++ toString record.schemaVersion ++
      "; current=" ++ toString currentSchemaVersion)
  else if isBlank record.id ∨ record.id.length > maxMemoryIdChars then
    .error ("memory id must contain 1 to " ++ toString maxMemoryIdChars ++ " characters")
  else if isBlank record.content ∨ record.content.length > maxMemoryContentChars then
    .error ("memory content must contain 1 to " ++ toString maxMemoryContentChars ++
      " characters")
  else if !record.confidence.isFinite ∨ !record.importance.isFinite then
    .error "memory confidence and importance must be finite"
  else
    .ok { record with
      confidence := clampUnit record.confidence
      importance := clampUnit record.importance
      updatedAtMillis :=
        if record.updatedAtMillis = 0 then record.createdAtMillis else record.updatedAtMillis
      temporal := { record.temporal with
        observedAtMillis :=
          if record.temporal.observedAtMillis = 0 then record.createdAtMillis
          else record.temporal.observedAtMillis
        validFromMillis :=
          if record.temporal.validFromMillis = none ∧ record.createdAtMillis ≠ 0 then
            some record.createdAtMillis
          else record.temporal.validFromMillis }
      revision := if record.revision = 0 then 1 else record.revision
      mergedCount := if record.mergedCount = 0 then 1 else record.mergedCount
      layer := if record.layer = .unknown then layerForKind record.kind else record.layer }

def isRecallable (now : Nat) : Bool :=
  record.status = .active &&
    record.temporal.validFromMillis.all (· ≤ now) &&
    record.temporal.expiresAtMillis.all (· > now) &&
    record.invalidation.invalidatedAtMillis.isNone &&
    record.invalidation.supersededBy.isNone

def orderingTime : Nat :=
  max (max (record.temporal.eventAtMillis.getD record.temporal.observedAtMillis)
    record.updatedAtMillis) record.createdAtMillis

def toContextRecord : MemoryContextRecord where
  id := record.id
  scope := record.scope.label
  kind := record.kind
  content := record.content

/-- `content.chars().count()`. -/
def chars : Nat := record.content.length

end StoredMemoryRecord

end Memory
end YunXi
