import YunXi.Program.SortedMap
import YunXi.Storage.FileNames
import YunXi.Storage.Record
import Mathlib.Data.List.Sort

/-!
# The session store

Sessions live in one file each, under the names of their ids; an older file of a session is
its backup.  Loading derives the file from the id, listing reads every file there is.
-/

namespace YunXi
namespace Storage

open Protocol (Value)

def maxSessionFileBytes : Nat := 8 * 1024 * 1024
def maxScannedFiles : Nat := 2000
def maxListLimit : Nat := 200

/-- The errors of reading among those of `StorageError`. -/
inductive StorageError
  | invalidRecord (message : String)
  | fileTooLarge (path : String) (maximum : Nat)
  | io (path source : String)
  deriving DecidableEq, Repr

/-- `fmt::Display for StorageError`. -/
def StorageError.display : StorageError → String
  | invalidRecord message => message
  | fileTooLarge path maximum =>
      "session file " ++ path ++ " exceeds " ++ toString maximum ++ " bytes"
  | io path source => "session I/O failed at " ++ path ++ ": " ++ source

/-- `session_backup_path`. -/
def sessionBackupPath (name : String) : String := withExtension name "json.bak"

/-- The file of a session. -/
def sessionFile (id : String) : String := id ++ ".json"

/-- What lies under a name. -/
inductive Entry
  | regular (content : ByteArray)
  | irregular
  | unreadable (source : String)

/-- What the JSON library reads. -/
structure SessionReader where
  record : ByteArray → Except String StoredSession
  value : ByteArray → Except String Value

/-- `read_bounded`. -/
def readBounded (path : String) : Option Entry → Except StorageError (Option ByteArray)
  | none | some .irregular => .ok none
  | some (.unreadable source) => .error (.io path source)
  | some (.regular content) => do
      refuseIf (content.size > maxSessionFileBytes) (.fileTooLarge path maxSessionFileBytes)
      return some content

section Reading

variable (reader : SessionReader)

/-- The record in the content of a file. -/
def parseRecord (source : String) (content : ByteArray) : Except StorageError StoredSession := do
  let record ← (reader.record content).mapError fun error =>
    .invalidRecord ("failed to parse session " ++ source ++ ": " ++ error)
  record.validate.mapError fun error =>
    .invalidRecord ("invalid session " ++ source ++ ": " ++ error)
  return record

/-- `read_next_record`, of a file and its backup. -/
def readNextRecord (path backupPath : String) (main backup : Option Entry) :
    Except StorageError (Option StoredSession) := do
  match ← readBounded path main with
  | some content => return some (← parseRecord reader path content)
  | none =>
      match ← readBounded backupPath backup with
      | some content => return some (← parseRecord reader backupPath content)
      | none => return none

/-- `read_legacy_record`. -/
def readLegacyRecord (path : String) (file : Option Entry) :
    Except StorageError (Option StoredSession) := do
  match ← readBounded path file with
  | none => return none
  | some content => do
      let value ← (reader.value content).mapError fun error =>
        .invalidRecord ("failed to parse legacy session " ++ path ++ ": " ++ error)
      let record ← (StoredSession.fromLegacy value).mapError fun error =>
        .invalidRecord ("invalid legacy session " ++ path ++ ": " ++ error)
      return some record

end Reading

/-- A directory: its files, and what `read_dir` yields of them, in any order, unless it is
denied.  A directory that is missing is empty. -/
structure Root where
  path : String
  files : SortedMap String Entry
  denied : Option String
  listing : List (Except String String)
  distinct : (listing.filterMap Except.toOption).Nodup
  present : ∀ name, .ok name ∈ listing → name ∈ files.keys
  complete : ∀ name ∈ files.keys, .ok name ∈ listing ∨ ∃ error, .error error ∈ listing

/-- The directories of a workspace; the legacy one is there when it may be read. -/
structure Workspace where
  nextRoot : Root
  legacyRoot : Option Root

namespace Root

/-- `root.join(name)`. -/
def join (root : Root) (name : String) : String := root.path ++ "/" ++ name

/-- The record that a file of the next sessions has, itself or through its backup. -/
def readNext (reader : SessionReader) (root : Root) (name : String) :
    Except StorageError (Option StoredSession) :=
  readNextRecord reader (root.join name) (root.join (sessionBackupPath name))
    (root.files.lookup? name) (root.files.lookup? (sessionBackupPath name))

def readLegacy (reader : SessionReader) (root : Root) (name : String) :
    Except StorageError (Option StoredSession) :=
  readLegacyRecord reader (root.join name) (root.files.lookup? name)

end Root

section Store

variable (reader : SessionReader)

/-- `load_record`. -/
def loadRecord (workspace : Workspace) (id : String) :
    Except StorageError (Option (StoredSession × Bool)) := do
  (validateSessionId id).mapError .invalidRecord
  match ← workspace.nextRoot.readNext reader (sessionFile id) with
  | some record => return some (record, false)
  | none =>
      match workspace.legacyRoot with
      | none => return none
      | some root =>
          match ← root.readLegacy reader (sessionFile id) with
          | some record => return some (record, true)
          | none => return none

structure SessionLoadResult where
  session : Option SessionSnapshot
  warnings : List String

/-- `load`. -/
def load (workspace : Workspace) (id : String) : Except StorageError SessionLoadResult :=
  match loadRecord reader workspace id with
  | .ok (some (session, legacy)) => .ok ⟨some (session.snapshot legacy), []⟩
  | .ok none => .ok ⟨none, []⟩
  | .error (.invalidRecord message) => .ok ⟨none, [message]⟩
  | .error error => .error error

/-- The file that an entry of the next sessions stands for: itself, or for a backup the file
that it would be the backup of, when that is missing. -/
def nextTarget (root : Root) (name : String) : Option String :=
  if extension name = some "json" then some name
  else if ".json.bak".toList <:+ name.toList then
    if withExtension name "" ∈ root.files.keys then none else some (withExtension name "")
  else none

/-- What one entry of a root gives. -/
def scanEntry (root : Root) (legacy : Bool) (name : String) :
    Except StorageError (Option StoredSession) :=
  if legacy then
    if extension name = some "json" then root.readLegacy reader name else .ok none
  else
    match nextTarget root name with
    | some target => root.readNext reader target
    | none => .ok none

/-- `scan_root`, after the entries that were seen already. -/
def scanEntries (root : Root) (legacy : Bool) :
    Nat → List (Except String String) → List SessionSnapshot × List String
  | _, [] => ([], [])
  | 0, _ :: _ =>
      ([], ["session scan stopped after " ++ toString maxScannedFiles ++ " files in " ++
        root.path])
  | room + 1, entry :: rest =>
      let (sessions, warnings) := scanEntries root legacy room rest
      match entry with
      | .error error => (sessions, ("failed to read session entry: " ++ error) :: warnings)
      | .ok name =>
          match scanEntry reader root legacy name with
          | .ok (some record) => (record.snapshot legacy :: sessions, warnings)
          | .ok none => (sessions, warnings)
          | .error error => (sessions, error.display :: warnings)

def scanRoot (root : Root) (legacy : Bool) :
    Except StorageError (List SessionSnapshot × List String) :=
  match root.denied with
  | some source => .error (.io root.path source)
  | none => .ok (scanEntries reader root legacy maxScannedFiles root.listing)

structure SessionListRequest where
  includeArchived : Bool
  limit : Nat

structure SessionListResult where
  sessions : List SessionSummary
  warnings : List String
  truncated : Bool

/-- The order of a list: pinned sessions first, then the latest, then by id. -/
def listedBefore (left right : SessionSnapshot) : Bool :=
  if left.pinned ≠ right.pinned then left.pinned
  else if left.updatedAtMillis ≠ right.updatedAtMillis then
    right.updatedAtMillis < left.updatedAtMillis
  else left.id ≤ right.id

/-- The scan of the legacy root, where there is one. -/
def scanLegacy (workspace : Workspace) : Except StorageError (List SessionSnapshot × List String) :=
  match workspace.legacyRoot with
  | some root => scanRoot reader root true
  | none => .ok ([], [])

/-- `list`. -/
def list (workspace : Workspace) (request : SessionListRequest) :
    Except StorageError SessionListResult := do
  let (next, nextWarnings) ← scanRoot reader workspace.nextRoot false
  let (legacy, legacyWarnings) ← scanLegacy reader workspace
  let sessions := ((next ++ legacy).filter fun session =>
    request.includeArchived || !session.archived).mergeSort listedBefore
  let limit := max 1 (min request.limit maxListLimit)
  return {
    sessions := (sessions.take limit).map SessionSnapshot.summary
    warnings := nextWarnings ++ legacyWarnings
    truncated := sessions.length > limit }

end Store

end Storage
end YunXi
