import YunXi.MultiAgent.Store
import YunXi.Settings.Agreement
import YunXi.Storage.Listing

/-!
# Interrupted saves

Settings, sessions and agent documents are replaced by the same sequence of calls, and each
has a loader of its own.  Every loader reads the file first and then its backup, so it finds
what a reader of the two finds, and interrupted saves never cost it a document.
-/

namespace YunXi
namespace Storage

open ReplaceFile
open Settings (CapabilitySettingsStore ParseDocument maxSettingsFileBytes)
open Settings.CapabilitySettingsStore (StoreSettings readable)

/-- What the JSON library reads and writes for the three stores. -/
structure DocumentLibrary where
  readSettings : ParseDocument
  sessions : SessionReader
  writeSession : StoredSession → ByteArray
  readAgents : ByteArray → Except String MultiAgent.SessionDocument
  writeAgents : MultiAgent.SessionDocument → ByteArray

namespace DocumentLibrary

variable (library : DocumentLibrary)

def writeSettings (store : CapabilitySettingsStore) : ByteArray :=
  store.document.content.toUTF8

/-- A store whose document passes the checks of a write, and is read back. -/
def SettingsSaved (store : CapabilitySettingsStore) : Prop :=
  store.document.content.utf8ByteSize ≤ maxSettingsFileBytes ∧
    library.readSettings (writeSettings store) = .ok store.document

/-- A record that passes the checks of `save`, and is read back. -/
def SessionSaved (record : StoredSession) : Prop :=
  record.validate = .ok () ∧ (library.writeSession record).size ≤ maxSessionFileBytes ∧
    library.sessions.record (library.writeSession record) = .ok record

/-- A document of agents that passes the check of its size, and is read back. -/
def AgentsSaved (document : MultiAgent.SessionDocument) : Prop :=
  (library.writeAgents document).size ≤ MultiAgent.maxDocumentBytes ∧
    library.readAgents (library.writeAgents document) = .ok document

/-- What a settings store holds that is loaded from a file and its backup. -/
def loadSettings (path : String) (file backup : Option ByteArray) : StoreSettings :=
  (CapabilitySettingsStore.load library.readSettings path ⟨file, backup⟩).settings

/-- `read_next_record` of two regular files. -/
def loadSession (path : String) (file backup : Option ByteArray) :
    Except StorageError (Option StoredSession) :=
  readNextRecord library.sessions path (path ++ ".bak") (file.map .regular)
    (backup.map .regular)

/-- What `load_document_at` makes of the content of a file. -/
def storedAgents : Option ByteArray → MultiAgent.Stored
  | none => .absent
  | some content =>
      if content.size > MultiAgent.maxDocumentBytes then .unreadable
      else
        match library.readAgents content with
        | .ok document => .document document
        | .error _ => .unreadable

def loadAgents (file backup : Option ByteArray) :
    MultiAgent.StoreResult (Option MultiAgent.SessionDocument) :=
  MultiAgent.Files.load ⟨library.storedAgents file, library.storedAgents backup⟩

theorem settings_follows (path : String) :
    Follows writeSettings (library.loadSettings path) CapabilitySettingsStore.settings
      library.SettingsSaved := by
  rintro store ⟨fits, reads⟩ slots found
  have shown : ∀ other, readable library.readSettings other (some (writeSettings store)) =
      some store.settings := by
    intro other
    rw [readable, writeSettings, CapabilitySettingsStore.loadUsable_written reads fits]
    rfl
  rw [loadSettings, CapabilitySettingsStore.settings_load]
  rcases Option.or_eq_some_iff.mp found with target | ⟨target, backup⟩
  · dsimp only
    rw [target, shown]
    rfl
  · dsimp only
    rw [target, backup, CapabilitySettingsStore.readable_none, Option.none_or, shown]
    rfl

theorem session_follows (path : String) :
    Follows library.writeSession (library.loadSession path) (fun record => .ok (some record))
      library.SessionSaved := by
  rintro record ⟨valid, fits, reads⟩ slots found
  have bounded : ∀ source, readBounded source (some (.regular (library.writeSession record))) =
      .ok (some (library.writeSession record)) := by
    intro source
    exact Except.check_bind_eq_ok.mpr ⟨refuseIf_eq_ok.mpr (Nat.not_lt.mpr fits), rfl⟩
  have parsed : ∀ source, parseRecord library.sessions source (library.writeSession record) =
      .ok record := by
    intro source
    refine Except.bind_eq_ok.mpr ⟨record, Except.mapError_eq_ok.mpr reads, ?_⟩
    exact Except.check_bind_eq_ok.mpr ⟨Except.mapError_eq_ok.mpr valid, rfl⟩
  unfold loadSession readNextRecord
  rcases Option.or_eq_some_iff.mp found with target | ⟨target, backup⟩
  · rw [target, Option.map_some, bounded]
    exact Except.bind_eq_ok.mpr ⟨_, rfl, Except.bind_eq_ok.mpr ⟨record, parsed _, rfl⟩⟩
  · rw [target, backup, Option.map_none, Option.map_some]
    refine Except.bind_eq_ok.mpr ⟨none, rfl, ?_⟩
    dsimp only
    rw [bounded]
    exact Except.bind_eq_ok.mpr ⟨_, rfl, Except.bind_eq_ok.mpr ⟨record, parsed _, rfl⟩⟩

theorem agents_follows :
    Follows library.writeAgents library.loadAgents (fun document => .ok (some document))
      library.AgentsSaved := by
  rintro document ⟨fits, reads⟩ slots found
  have stored : library.storedAgents (some (library.writeAgents document)) =
      .document document := by
    rw [storedAgents, if_neg (Nat.not_lt.mpr fits), reads]
  unfold loadAgents
  rcases Option.or_eq_some_iff.mp found with target | ⟨target, backup⟩
  · rw [target, stored]
    rfl
  · rw [target, backup, stored]
    rfl

/-- The files before the first save: the old document alone, or nothing. -/
def before {δ : Type} (encode : δ → ByteArray) (old : Option δ) : Slots ByteArray :=
  ⟨old.map encode, none, none⟩

theorem holds_before {δ : Type} {encode : δ → ByteArray} {saved : δ → Prop} {old : Option δ}
    (isSaved : ∀ document ∈ old, saved document) : Holds encode saved (before encode old) :=
  ⟨old, Option.or_none, isSaved⟩

/-- Saves of the three stores, of any documents, each stopped before any of its calls or with
one call that fails, one after the other from an old document or none.  After every save the
loader of the store gives what it gave before, or the whole new document. -/
theorem saves_crash_safe :
    (∀ path (old : Option CapabilitySettingsStore)
        (saves : List (Save CapabilitySettingsStore ByteArray)),
      (∀ store ∈ old, library.SettingsSaved store) →
      (∀ save ∈ saves, library.SettingsSaved save.document ∧ save.faults.Single) →
        (∀ store ∈ old, library.loadSettings path (some (writeSettings store)) none =
            store.settings) ∧
          OldOrNewAlong replaceFileIn writeSettings (library.loadSettings path)
            CapabilitySettingsStore.settings saves (before writeSettings old)) ∧
      (∀ path (old : Option StoredSession) (saves : List (Save StoredSession ByteArray)),
        (∀ record ∈ old, library.SessionSaved record) →
        (∀ save ∈ saves, library.SessionSaved save.document ∧ save.faults.Single) →
          (∀ record ∈ old, library.loadSession path (some (library.writeSession record)) none =
              .ok (some record)) ∧
            OldOrNewAlong replaceFile library.writeSession (library.loadSession path)
              (fun record => .ok (some record)) saves (before library.writeSession old)) ∧
      ∀ (old : Option MultiAgent.SessionDocument)
        (saves : List (Save MultiAgent.SessionDocument ByteArray)),
        (∀ document ∈ old, library.AgentsSaved document) →
        (∀ save ∈ saves, library.AgentsSaved save.document ∧ save.faults.Single) →
          (∀ document ∈ old, library.loadAgents (some (library.writeAgents document)) none =
              .ok (some document)) ∧
            OldOrNewAlong replaceFile library.writeAgents library.loadAgents
              (fun document => .ok (some document)) saves (before library.writeAgents old) := by
  refine ⟨fun path old saves oldSaved savesSaved => ⟨?_, ?_⟩,
    fun path old saves oldSaved savesSaved => ⟨?_, ?_⟩,
    fun old saves oldSaved savesSaved => ⟨?_, ?_⟩⟩
  · exact fun store isOld => library.settings_follows path store (oldSaved store isOld)
      ⟨some (writeSettings store), none, none⟩ rfl
  · exact (library.settings_follows path).oldOrNewAlong
      (fun _ slots content single => wp_replaceFileIn single slots content) saves savesSaved _
      (holds_before oldSaved)
  · exact fun record isOld => library.session_follows path record (oldSaved record isOld)
      ⟨some (library.writeSession record), none, none⟩ rfl
  · exact (library.session_follows path).oldOrNewAlong
      (fun _ slots content single => wp_replaceFile single slots content) saves savesSaved _
      (holds_before oldSaved)
  · exact fun document isOld => library.agents_follows document (oldSaved document isOld)
      ⟨some (library.writeAgents document), none, none⟩ rfl
  · exact library.agents_follows.oldOrNewAlong
      (fun _ slots content single => wp_replaceFile single slots content) saves savesSaved _
      (holds_before oldSaved)

local instance documentDecidableEq : DecidableEq ByteArray := ByteArray.instDecidableEq

/-- The JSON form of a record without messages. -/
def sessionJson (record : StoredSession) : Protocol.Value :=
  .object [("schema_version", .ofNat record.schemaVersion), ("id", .string record.id),
    ("cwd", .string record.cwd), ("messages", .array []), ("provider", .null),
    ("model", .null), ("parent_id", .null), ("title", .string record.title),
    ("archived", .bool record.archived), ("pinned", .bool record.pinned),
    ("created_at_millis", .ofNat record.createdAtMillis),
    ("updated_at_millis", .ofNat record.updatedAtMillis)]

def sessionContent (record : StoredSession) : ByteArray :=
  (String.ofList (sessionJson record).writePretty).toUTF8

/-- The document of agents of a session in which none was spawned yet. -/
def rootDocument : MultiAgent.SessionDocument :=
  ⟨MultiAgent.documentVersion, "notes", "main-1", ⟨4, 2, 8, 16⟩, [], 0, 1, 1, [], []⟩

def agentsContent (document : MultiAgent.SessionDocument) : ByteArray :=
  (String.ofList (Protocol.Value.object [("version", .ofNat document.version),
    ("session_id", .string document.sessionId),
    ("coordinator_instance_id", .string document.coordinatorInstanceId),
    ("budget", .object [("max_agents", .ofNat document.budget.maxAgents),
      ("max_depth", .ofNat document.budget.maxDepth),
      ("max_turns_per_agent", .ofNat document.budget.maxTurnsPerAgent),
      ("max_total_turns", .ofNat document.budget.maxTotalTurns)]),
    ("allowed_child_grants", .array []), ("total_turns", .ofNat document.totalTurns),
    ("next_agent_sequence", .ofNat document.nextAgentSequence),
    ("next_event_sequence", .ofNat document.nextEventSequence), ("agents", .array []),
    ("events", .array [])]).writePretty ++ "\n").toUTF8

/-- A library that reads two settings documents, one record and one document of agents. -/
def smallLibrary : DocumentLibrary where
  readSettings := CapabilitySettingsStore.parseTwo
  sessions :=
    { record := fun content =>
        if content = sessionContent (emptySession "notes" false) then
          .ok (emptySession "notes" false)
        else .error "expected value at line 1 column 1"
      value := fun _ => .error "expected value at line 1 column 1" }
  writeSession := sessionContent
  readAgents := fun content =>
    if content = agentsContent rootDocument then .ok rootDocument
    else .error "expected value at line 1 column 1"
  writeAgents := agentsContent

/-- A process that stops before one call. -/
def stopsAt (call : Call) : Faults ByteArray where
  fate other := if other = call then .stops else .works
  torn := ByteArray.empty

theorem single_stopsAt (call : Call) : (stopsAt call).Single := by
  intro first second fails
  unfold stopsAt at fails
  dsimp only at fails
  split at fails <;> cases fails

def voiceStore : CapabilitySettingsStore :=
  ⟨"/state/settings.json", CapabilitySettingsStore.voiceDocument.capabilities, .empty, 1, []⟩

def memoryStore : CapabilitySettingsStore :=
  ⟨"/state/settings.json", CapabilitySettingsStore.memoryDocument.capabilities, .empty, 2, []⟩

/-- Saves that stop between their two renames, and saves after them that are stopped again. -/
theorem saves_crash_safe_small :
    OldOrNewAlong replaceFileIn writeSettings (smallLibrary.loadSettings "/state/settings.json")
        CapabilitySettingsStore.settings
        [⟨memoryStore, stopsAt .renameIn⟩, ⟨memoryStore, stopsAt .removeLeftover⟩]
        (before writeSettings (some voiceStore)) ∧
      OldOrNewAlong replaceFile smallLibrary.writeSession (smallLibrary.loadSession "notes.json")
        (fun record => .ok (some record))
        [⟨emptySession "notes" false, stopsAt .renameIn⟩,
          ⟨emptySession "notes" false, stopsAt .writeTemporary⟩]
        (before smallLibrary.writeSession none) ∧
      OldOrNewAlong replaceFile smallLibrary.writeAgents smallLibrary.loadAgents
        (fun document => .ok (some document)) [⟨rootDocument, stopsAt .renameIn⟩]
        (before smallLibrary.writeAgents none) := by
  have voice : smallLibrary.SettingsSaved voiceStore := by
    constructor <;> decide
  have memory : smallLibrary.SettingsSaved memoryStore := by
    constructor <;> decide
  have active : smallLibrary.SessionSaved (emptySession "notes" false) := by
    refine ⟨validate_emptySession "notes" false (by decide +kernel), by decide +kernel, ?_⟩
    dsimp only [smallLibrary]
    exact if_pos rfl
  have agents : smallLibrary.AgentsSaved rootDocument := by
    refine ⟨by decide +kernel, ?_⟩
    dsimp only [smallLibrary]
    exact if_pos rfl
  obtain ⟨settings, sessions, documents⟩ := saves_crash_safe smallLibrary
  refine ⟨(settings "/state/settings.json" (some voiceStore) _ ?_ ?_).2,
    (sessions "notes.json" none _ ?_ ?_).2,
    (documents none _ ?_ ?_).2⟩
  · exact fun store isOld => Option.some_inj.mp isOld ▸ voice
  · exact List.forall_mem_cons.mpr ⟨⟨memory, single_stopsAt _⟩,
      List.forall_mem_singleton.mpr ⟨memory, single_stopsAt _⟩⟩
  · exact nofun
  · exact List.forall_mem_cons.mpr ⟨⟨active, single_stopsAt _⟩,
      List.forall_mem_singleton.mpr ⟨active, single_stopsAt _⟩⟩
  · exact nofun
  · exact List.forall_mem_singleton.mpr ⟨agents, single_stopsAt _⟩

end DocumentLibrary

end Storage
end YunXi
