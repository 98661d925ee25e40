import YunXi.Memory.Record
import YunXi.Program.Selection

/-!
# Loading memories

A load reads up to eight files, line by line, and keeps a warning for everything it cannot use.
Of the records with one id the latest is kept, and then of those with one key and status group.
-/

namespace YunXi
namespace Memory

open Protocol Strings Selection

def maxMemoryFileBytes : Nat := 16 * 1024 * 1024
def maxMemoryLineBytes : Nat := 1024 * 1024
def maxLoadedRecords : Nat := 50000

structure MemoryLoad where
  records : List StoredMemoryRecord := []
  warnings : List String := []

def MemoryLoad.warn (load : MemoryLoad) (warning : String) : MemoryLoad :=
  { load with warnings := load.warnings ++ [warning] }

inductive MemoryStoreError
  | workspace (path error : String)
  | notDirectory (path : String)
  | io (path error : String)
  | serialize (error : String)
  | recordTooLarge (maximum : Nat)

/-- The directories of a store and the fingerprint of its workspace. -/
structure MemoryStore where
  legacyGlobalRoot : String
  nextGlobalRoot : String
  legacyWorkspaceRoot : String
  nextWorkspaceRoot : String
  workspaceFingerprint : String

def joinPath (root name : String) : String := root ++ "/" ++ name

/-- The files of a load, in their order. -/
def MemoryStore.paths (store : MemoryStore) : List String :=
  [joinPath store.nextGlobalRoot "global-memory.jsonl",
    joinPath store.nextGlobalRoot "pending.jsonl",
    joinPath store.nextWorkspaceRoot "workspace-memory.jsonl",
    joinPath store.nextWorkspaceRoot "pending.jsonl",
    joinPath store.legacyGlobalRoot "global-memory.jsonl",
    joinPath store.legacyGlobalRoot "pending.jsonl",
    joinPath store.legacyWorkspaceRoot "workspace-memory.jsonl",
    joinPath store.legacyWorkspaceRoot "pending.jsonl"]

/-- What the file system answers about a memory file. -/
inductive FileAnswer
  | notFound
  | inspectFailed (error : String)
  | notFile
  | file (length : Nat) (content : Except String String)

section Reading

-- `serde_json::from_str::<StoredMemoryRecord>`
variable (deserialize : String → Except String StoredMemoryRecord)

/-- One pass of the loop of `read_memory_file`. -/
def readMemoryLine (path : String) (index : Nat) (line : String) (load : MemoryLoad) :
    MemoryLoad :=
  let line := trimText line
  if line.isEmpty then load
  else if line.utf8ByteSize > maxMemoryLineBytes then
    load.warn ("memory line " ++ toString (index + 1) ++ " in " ++ path ++ " exceeds " ++
      toString maxMemoryLineBytes ++ " bytes")
  else
    match deserialize line with
    | .error error =>
        load.warn ("failed to parse memory line " ++ toString (index + 1) ++ " in " ++ path ++
          ": " ++ error)
    | .ok record =>
        match record.validate with
        | .error error =>
            load.warn ("invalid memory line " ++ toString (index + 1) ++ " in " ++ path ++
              ": " ++ error)
        | .ok record => { load with records := load.records ++ [record] }

/-- The loop of `read_memory_file`. -/
def readMemoryLines (path : String) (load : MemoryLoad) : List (String × Nat) → MemoryLoad
  | [] => load
  | (line, index) :: rest =>
      if load.records.length ≥ maxLoadedRecords then load
      else readMemoryLines path (readMemoryLine deserialize path index line load) rest

def readMemoryFile (path : String) (answer : FileAnswer) (load : MemoryLoad) : MemoryLoad :=
  match answer with
  | .notFound => load
  | .inspectFailed error => load.warn ("failed to inspect " ++ path ++ ": " ++ error)
  | .notFile => load.warn ("memory path is not a file: " ++ path)
  | .file length content =>
      if length > maxMemoryFileBytes then
        load.warn ("memory file " ++ path ++ " is " ++ toString length ++
          " bytes; maximum is " ++ toString maxMemoryFileBytes)
      else
        match content with
        | .error error => load.warn ("failed to read " ++ path ++ ": " ++ error)
        | .ok content => readMemoryLines deserialize path load (lines content).zipIdx

/-- The loop of `load` over the paths. -/
def readMemoryFiles (load : MemoryLoad) : List (String × FileAnswer) → MemoryLoad
  | [] => load
  | (path, answer) :: rest =>
      let load := readMemoryFile deserialize path answer load
      if load.records.length ≥ maxLoadedRecords then
        load.warn ("memory record limit reached at " ++ toString maxLoadedRecords ++
          "; remaining files were skipped")
      else readMemoryFiles load rest

end Reading

def shouldReplace (existing candidate : StoredMemoryRecord) : Bool :=
  candidate.updatedAtMillis > existing.updatedAtMillis ||
    (candidate.updatedAtMillis = existing.updatedAtMillis &&
      candidate.revision > existing.revision) ||
    (candidate.updatedAtMillis = existing.updatedAtMillis &&
      candidate.revision = existing.revision &&
      candidate.importance > existing.importance)

/-- The key of the second pass of `collapse_latest`. -/
def groupKey (record : StoredMemoryRecord) : String :=
  record.dedupKey ++ "|" ++ record.status.storageGroup

def collapseLatest (records : List StoredMemoryRecord) : List StoredMemoryRecord :=
  bestOf groupKey shouldReplace (bestOf StoredMemoryRecord.id shouldReplace records)

/-- The order of a load: the latest first, and then by id. -/
def compareLatest (left right : StoredMemoryRecord) : Ordering :=
  (compare right.updatedAtMillis left.updatedAtMillis).then (compare left.id right.id)

/-- Sort by a comparison, keeping the order of what is alike. -/
def sortBy (comparison : StoredMemoryRecord → StoredMemoryRecord → Ordering)
    (records : List StoredMemoryRecord) : List StoredMemoryRecord :=
  records.mergeSort fun left right => (comparison left right).isLE

/-- `MemoryStore::load`, from what the file system answers for a path. -/
def MemoryStore.load (store : MemoryStore)
    (deserialize : String → Except String StoredMemoryRecord) (disk : String → FileAnswer) :
    MemoryLoad :=
  let load := readMemoryFiles deserialize {} (store.paths.map fun path => (path, disk path))
  { load with records := sortBy compareLatest (collapseLatest load.records) }

theorem perm_sortBy (comparison : StoredMemoryRecord → StoredMemoryRecord → Ordering)
    (records : List StoredMemoryRecord) : (sortBy comparison records).Perm records :=
  List.mergeSort_perm records _

theorem nodup_ids_collapseLatest (records : List StoredMemoryRecord) :
    ((collapseLatest records).map StoredMemoryRecord.id).Nodup :=
  nodup_map_bestOf nodup_keys_bestOf

/-- The loaded records have different ids. -/
theorem MemoryStore.nodup_ids_load (store : MemoryStore)
    (deserialize : String → Except String StoredMemoryRecord) (disk : String → FileAnswer) :
    ((store.load deserialize disk).records.map StoredMemoryRecord.id).Nodup :=
  ((perm_sortBy _ _).map _).nodup_iff.mpr (nodup_ids_collapseLatest _)

end Memory
end YunXi
