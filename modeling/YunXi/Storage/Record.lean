import YunXi.Program.Checked
import YunXi.Program.Strings
import YunXi.Protocol.Chat
import YunXi.Protocol.JsonAccess
import Mathlib.Data.List.Infix

/-!
# Session records

A record is a conversation with its title and its marks.  Legacy records are projected onto
the same shape when they are read.
-/

namespace YunXi
namespace Storage

open Protocol (ChatMessage Value isAsciiAlphanumeric isWhiteSpace)

def sessionSchemaVersion : Nat := 1
def maxSessionIdChars : Nat := 128
def maxMessageChars : Nat := 256 * 1024
def maxMessages : Nat := 512

structure StoredSession where
  schemaVersion : Nat
  id : String
  cwd : String
  messages : List ChatMessage
  provider : Option String
  model : Option String
  parentId : Option String
  title : String
  archived : Bool
  pinned : Bool
  createdAtMillis : Nat
  updatedAtMillis : Nat

/-- Characters of a session id. -/
def sessionIdCharacter (character : Char) : Bool :=
  isAsciiAlphanumeric character || character == '-' || character == '_'

/-- `validate_session_id`. -/
def validateSessionId (id : String) : Except String Unit := do
  refuseIf (id = "" ∨ id.length > maxSessionIdChars)
    "session id must contain 1 to 128 characters"
  refuseIf (['.', '.'] <:+: id.toList ∨ ¬ id.toList.all sessionIdCharacter)
    "session id contains unsupported characters"

/-- `preview_title`. -/
def previewTitle (value : String) : String :=
  let trimmed := Strings.trimMatches isWhiteSpace value
  if trimmed = "" then "untitled session"
  else if trimmed.length ≤ 48 then trimmed
  else String.ofList (trimmed.toList.take 45) ++ "..."

namespace StoredSession

def validate (session : StoredSession) : Except String Unit := do
  refuseIf (session.schemaVersion ≠ sessionSchemaVersion)
    ("unsupported session schema_version=" ++ toString session.schemaVersion ++
      "; expected " ++ toString sessionSchemaVersion)
  validateSessionId session.id
  refuseIf (session.messages.length > maxMessages)
    ("session has more than " ++ toString maxMessages ++ " messages")
  refuseIf (session.messages.any fun message => message.content.length > maxMessageChars)
    ("session message exceeds " ++ toString maxMessageChars ++ " characters")

/-- A text field of a legacy record. -/
def stringField (object : Value) (name : String) : Except String String :=
  match (object.get name).bind Value.asStr with
  | some text => .ok text
  | none => .error ("legacy session field `" ++ name ++ "` must be a string")

def optionalStringField (object : Value) (name : String) : Option String :=
  (object.get name).bind Value.asStr

def integerField (object : Value) (name : String) : Option Nat :=
  (object.get name).bind Value.asU64

def boolField (object : Value) (name : String) : Option Bool :=
  (object.get name).bind Value.asBool

/-- `from_legacy`. -/
def fromLegacy (value : Value) : Except String StoredSession := do
  match value with
  | .object _ => do
      let id ← stringField value "id"
      let cwd ← stringField value "cwd"
      let prompt ← stringField value "prompt"
      let createdAtMillis := (integerField value "created_at_millis").getD 0
      let session : StoredSession :=
        { schemaVersion := sessionSchemaVersion
          id
          cwd
          messages := ChatMessage.user prompt ::
            ((optionalStringField value "final_response").map ChatMessage.assistant).toList
          provider := optionalStringField value "provider"
          model := optionalStringField value "model"
          parentId := optionalStringField value "parent_id"
          title := (optionalStringField value "title").getD (previewTitle prompt)
          archived := (boolField value "archived").getD false
          pinned := (boolField value "pinned").getD false
          createdAtMillis
          updatedAtMillis := (integerField value "updated_at_millis").getD createdAtMillis }
      session.validate
      return session
  | _ => .error "legacy session root must be an object"

end StoredSession

/-- A record as it leaves the store. -/
structure SessionSnapshot where
  id : String
  cwd : String
  messages : List ChatMessage
  provider : Option String
  model : Option String
  parentId : Option String
  title : String
  archived : Bool
  pinned : Bool
  legacy : Bool
  createdAtMillis : Nat
  updatedAtMillis : Nat

def StoredSession.snapshot (session : StoredSession) (legacy : Bool) : SessionSnapshot where
  id := session.id
  cwd := session.cwd
  messages := session.messages
  provider := session.provider
  model := session.model
  parentId := session.parentId
  title := session.title
  archived := session.archived
  pinned := session.pinned
  legacy
  createdAtMillis := session.createdAtMillis
  updatedAtMillis := session.updatedAtMillis

structure SessionSummary where
  id : String
  title : String
  messageCount : Nat
  archived : Bool
  pinned : Bool
  legacy : Bool
  updatedAtMillis : Nat
  deriving DecidableEq

/-- `From<&SessionSnapshot> for SessionSummary`. -/
def SessionSnapshot.summary (session : SessionSnapshot) : SessionSummary where
  id := session.id
  title := session.title
  messageCount := session.messages.length
  archived := session.archived
  pinned := session.pinned
  legacy := session.legacy
  updatedAtMillis := session.updatedAtMillis

end Storage
end YunXi
