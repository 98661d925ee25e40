import YunXi.Settings.Operations

/-!
# Memory and disk

What a store holds in memory against what loading its file gives, over runs of operations.
-/

namespace YunXi
namespace Settings
namespace CapabilitySettingsStore

open ReplaceFile (Call FailedLeft PlacedOrLeft Slots wp_replaceFileIn_running)

/-- The settings of a store. -/
structure StoreSettings where
  overrides : CapabilityOverrides
  pluginOverrides : PluginOverrides
  revision : UInt64
  deriving DecidableEq

def settings (store : CapabilitySettingsStore) : StoreSettings :=
  ⟨store.overrides, store.pluginOverrides, store.revision⟩

/-- The settings of a store without a document. -/
def StoreSettings.initial : StoreSettings := ⟨.empty, .empty, 0⟩

/-- The settings in a file that can be used. -/
def readable (parse : ParseDocument) (path : String) (file : Option ByteArray) :
    Option StoreSettings :=
  match loadUsable parse path file with
  | .ok (some (document, plugins)) => some ⟨document.capabilities, plugins, document.revision⟩
  | _ => none

section Load

variable {parse : ParseDocument} {path : String} {disk : SettingsDisk}

theorem readable_isSome_iff {file : Option ByteArray} :
    (readable parse path file).isSome ↔ Usable parse path file := by
  unfold readable Usable
  constructor
  · intro found
    split at found
    case h_1 document plugins loads => exact ⟨_, loads⟩
    case h_2 => cases found
  · rintro ⟨⟨document, plugins⟩, loads⟩
    rw [loads]
    rfl

/-- A file is used under one path as it is under another. -/
theorem loadUsable_path {file : Option ByteArray}
    {found : Option (SettingsDocument × PluginOverrides)}
    (loads : loadUsable parse path file = .ok found) (other : String) :
    loadUsable parse other file = .ok found := by
  obtain ⟨loaded, reads, rest⟩ := Except.bind_eq_ok.mp loads
  refine Except.bind_eq_ok.mpr ⟨loaded, ?_, rest⟩
  cases file with
  | none => exact reads
  | some content =>
      obtain ⟨sized, reads⟩ := Except.check_bind_eq_ok.mp reads
      obtain ⟨document, parses, reads⟩ := Except.bind_eq_ok.mp reads
      obtain ⟨valid, reads⟩ := Except.check_bind_eq_ok.mp reads
      obtain ⟨versioned, reads⟩ := Except.check_bind_eq_ok.mp reads
      apply Except.check_bind_eq_ok.mpr
      refine ⟨refuseIf_eq_ok.mpr (refuseIf_eq_ok.mp sized), ?_⟩
      apply Except.bind_eq_ok.mpr
      refine ⟨document, Except.mapError_eq_ok.mpr (Except.mapError_eq_ok.mp parses), ?_⟩
      exact Except.check_bind_eq_ok.mpr ⟨valid, Except.check_bind_eq_ok.mpr
        ⟨refuseIf_eq_ok.mpr (refuseIf_eq_ok.mp versioned), reads⟩⟩

theorem readable_path (file : Option ByteArray) (other : String) :
    readable parse path file = readable parse other file := by
  unfold readable
  cases loads : loadUsable parse path file with
  | ok found => rw [loadUsable_path loads other]
  | error error =>
      cases alike : loadUsable parse other file with
      | ok found => rw [loadUsable_path alike path] at loads; cases loads
      | error _ => rfl

/-- A store holds what the document says, else what the backup says. -/
theorem settings_load :
    (load parse path disk).settings =
      ((readable parse path disk.main).or (readable parse path disk.backup)).getD .initial := by
  have recovers : ∀ warnings : List String,
      (load.loadBackup parse path disk warnings).settings =
        (readable parse path disk.backup).getD .initial := by
    intro warnings
    rw [readable_path disk.backup (backupPath path)]
    unfold load.loadBackup readable
    cases loadUsable parse (backupPath path) disk.backup with
    | ok found => cases found <;> rfl
    | error error => rfl
  cases loads : loadUsable parse path disk.main with
  | ok found =>
      cases found with
      | some document =>
          unfold load readable
          rw [loads]
          rfl
      | none =>
          have missing : readable parse path disk.main = none := by
            rw [readable, loads]
          rw [missing, Option.none_or, ← recovers []]
          unfold load
          rw [loads]
  | error error =>
      have missing : readable parse path disk.main = none := by
        rw [readable, loads]
      rw [missing, Option.none_or, ← recovers [error.display]]
      unfold load
      rw [loads]

theorem load_path : (load parse path disk).path = path := by
  have recovers : ∀ warnings : List String,
      (load.loadBackup parse path disk warnings).path = path := by
    intro warnings
    unfold load.loadBackup
    split <;> rfl
  unfold load
  split
  · rfl
  · exact recovers []
  · exact recovers _

theorem readable_none : readable parse path none = none := rfl

end Load

section Write

variable {parse : ParseDocument} {path : String} {disk : SettingsDisk}

/-- A write in which one call may fail puts the content in place, or leaves what a failure
leaves. -/
theorem writer_left (calls : WriteCalls) (content : ByteArray) (disk : SettingsDisk)
    {result : Except CapabilitySettingsError Unit} {left : SettingsDisk}
    (writes : calls.writer path content disk = (result, left)) :
    (result = .ok () ∧ left.main = some content) ∨
      ∃ error final, result = .error error ∧
        FailedLeft calls.faults ⟨disk.main, disk.backup, none⟩ final ∧
        final.target = left.main ∧ final.backup = left.backup := by
  have ended := wp_replaceFileIn_running calls.single calls.running
    ⟨disk.main, disk.backup, none⟩ content
  unfold WriteCalls.writer at writes
  split at writes
  case h_1 final ran =>
    cases writes
    exact .inl ⟨rfl, Fallible.of_wp ended ran⟩
  case h_2 halt final ran =>
    cases writes
    exact .inr ⟨_, final, rfl, Fallible.of_wp ended ran, rfl, rfl⟩

/-- The write does not lose a backup that is needed: no rename fails while the document is
there and cannot be used and the backup can. -/
def WriteCalls.Keeps (parse : ParseDocument) (path : String) (disk : SettingsDisk)
    (calls : WriteCalls) : Prop :=
  disk.main = none ∨ Usable parse path disk.main ∨ ¬ Usable parse path disk.backup ∨
    (calls.failing ≠ some .renameAway ∧ calls.failing ≠ some .renameIn)

theorem fails_iff {calls : WriteCalls} {call : Call} :
    calls.faults.fate call = .fails ↔ calls.failing = some call := by
  unfold WriteCalls.faults
  dsimp only
  split
  case isTrue fails => exact ⟨fun _ => fails, fun _ => rfl⟩
  case isFalse works => exact ⟨fun impossible => (nomatch impossible), fun fails =>
    absurd fails works⟩

/-- A write that failed and lost no backup loads as before. -/
theorem settings_load_of_failed {calls : WriteCalls} {final : Slots ByteArray}
    (keeps : calls.Keeps parse path disk)
    (failed : FailedLeft calls.faults ⟨disk.main, disk.backup, none⟩ final) :
    (load parse path ⟨final.target, final.backup⟩).settings =
      (load parse path disk).settings := by
  rw [settings_load, settings_load]
  dsimp only
  cases failed with
  | untouched target backup => rw [target, backup]
  | recovered missing target backup =>
      dsimp only at missing target
      rw [missing, target, backup, readable_none, Option.or_none, Option.none_or]
  | uncovered fails present target backup =>
      dsimp only at present target
      rw [target, backup, readable_none, Option.or_none]
      rcases keeps with missing | usable | unusable | ⟨away, inPlace⟩
      · exact absurd missing present
      · obtain ⟨found, reads⟩ := Option.isSome_iff_exists.mp (readable_isSome_iff.mpr usable)
        rw [reads, Option.some_or]
      · have nothing : readable parse path disk.backup = none := by
          rw [← Option.not_isSome_iff_eq_none, readable_isSome_iff]
          exact unusable
        rw [nothing, Option.or_none]
      · rcases fails with failed | failed
        · exact absurd (fails_iff.mp failed) away
        · exact absurd (fails_iff.mp failed) inPlace

/-- A document that a store wrote is what its settings are read from, whatever the backup. -/
theorem settings_load_written {store : CapabilitySettingsStore}
    (reads : parse store.document.content.toUTF8 = .ok store.document)
    (fits : store.document.content.utf8ByteSize ≤ maxSettingsFileBytes)
    (placed : disk.main = some store.document.content.toUTF8) :
    (load parse path disk).settings = store.settings := by
  have shown : readable parse path disk.main = some store.settings := by
    rw [readable, placed, loadUsable_written reads fits]
    rfl
  rw [settings_load, shown, Option.some_or]
  rfl

end Write

/-- An edit of a store: the entry point, the revision it expects, and the calls of its write. -/
structure StoreEdit where
  operation : StoreOperation
  expected : Option UInt64
  calls : WriteCalls

/-- A store and its files. -/
abbrev StoreState := CapabilitySettingsStore × SettingsDisk

def StoreEdit.exec (edit : StoreEdit) (state : StoreState) :
    Except CapabilitySettingsError Bool × StoreState :=
  (perform edit.calls.writer edit.operation edit.expected).exec state

def runEdits (edits : List StoreEdit) (state : StoreState) : StoreState :=
  edits.foldl (fun state edit => (edit.exec state).2) state

/-- Memory holds what loading the file gives. -/
def Agrees (parse : ParseDocument) (state : StoreState) : Prop :=
  (load parse state.1.path state.2).settings = state.1.settings

/-- No write of the run loses a backup that is needed. -/
def KeepsBackups (parse : ParseDocument) : List StoreEdit → StoreState → Prop
  | [], _ => True
  | edit :: rest, state =>
      edit.calls.Keeps parse state.1.path state.2 ∧ KeepsBackups parse rest (edit.exec state).2

/-- The library reads the documents that the run writes. -/
def ReadsBack (parse : ParseDocument) : List StoreEdit → StoreState → Prop
  | [], _ => True
  | edit :: rest, state =>
      ((edit.exec state).1 = .ok true →
        parse (edit.exec state).2.1.document.content.toUTF8 =
          .ok (edit.exec state).2.1.document) ∧
      ReadsBack parse rest (edit.exec state).2

/-- What an edit does to memory and disk. -/
inductive EditOutcome (edit : StoreEdit) (state : StoreState) :
    Except CapabilitySettingsError Bool → StoreState → Prop
  | refused (error : CapabilitySettingsError) : EditOutcome edit state (.error error) state
  | unchanged : EditOutcome edit state (.ok false) state
  | failed (error : CapabilitySettingsError) (final : Slots ByteArray)
      (left : FailedLeft edit.calls.faults ⟨state.2.main, state.2.backup, none⟩ final) :
      EditOutcome edit state (.error error) (state.1, ⟨final.target, final.backup⟩)
  | written (next : CapabilityOverrides) (nextPlugins : PluginOverrides) (disk : SettingsDisk)
      (room : state.1.revision.toNat + 1 ≠ UInt64.size)
      (fits : (state.1.written next nextPlugins).document.content.utf8ByteSize ≤
        maxSettingsFileBytes)
      (placed : disk.main = some (state.1.written next nextPlugins).document.content.toUTF8) :
      EditOutcome edit state (.ok true) (state.1.written next nextPlugins, disk)

theorem exec_outcome (edit : StoreEdit) (state : StoreState) :
    EditOutcome edit state (edit.exec state).1 (edit.exec state).2 := by
  obtain ⟨store, disk⟩ := state
  unfold StoreEdit.exec
  cases perform_effect store edit.operation edit.expected with
  | refused error runs =>
      rw [runs]
      exact .refused error
  | unchanged same runs =>
      rw [runs]
      exact .unchanged
  | replaced next nextPlugins made room fits runs =>
      rw [runs]
      unfold stored
      cases writes : edit.calls.writer store.path
          (store.written next nextPlugins).document.content.toUTF8 disk with
      | mk result left =>
          rcases writer_left edit.calls _ disk writes with
            ⟨rfl, placed⟩ | ⟨error, final, rfl, failed, target, backup⟩
          · exact .written next nextPlugins left room fits placed
          · have same : left = ⟨final.target, final.backup⟩ := by
              rw [target, backup]
            rw [same]
            exact .failed error final failed

/-- A write raises the revision by one, since it is not the last there is. -/
theorem revision_written {store : CapabilitySettingsStore}
    (room : store.revision.toNat + 1 ≠ UInt64.size) (next : CapabilityOverrides)
    (nextPlugins : PluginOverrides) :
    (store.written next nextPlugins).revision.toNat = store.revision.toNat + 1 := by
  show (store.revision + 1).toNat = _
  have bound := store.revision.toNat_lt
  have one : (1 : UInt64).toNat = 1 := rfl
  simp only [UInt64.size] at room
  rw [UInt64.toNat_add]
  exact Nat.mod_eq_of_lt (by omega)

/-- An edit that is made raises the revision by one, and any other leaves the store as it is. -/
theorem revision_exec (edit : StoreEdit) (state : StoreState) :
    ((edit.exec state).1 = .ok true →
        (edit.exec state).2.1.revision.toNat = state.1.revision.toNat + 1) ∧
      ((edit.exec state).1 ≠ .ok true → (edit.exec state).2.1 = state.1) := by
  have outcome := exec_outcome edit state
  generalize (edit.exec state).1 = result at outcome
  generalize (edit.exec state).2 = after at outcome
  cases outcome with
  | refused error => exact ⟨nofun, fun _ => rfl⟩
  | unchanged => exact ⟨nofun, fun _ => rfl⟩
  | failed error final left => exact ⟨nofun, fun _ => rfl⟩
  | written next nextPlugins disk room fits placed =>
      exact ⟨fun _ => revision_written room next nextPlugins,
        fun impossible => absurd rfl impossible⟩

/-- An edit that loses no backup keeps memory and disk together. -/
theorem agrees_exec {parse : ParseDocument} {edit : StoreEdit} {state : StoreState}
    (agrees : Agrees parse state) (keeps : edit.calls.Keeps parse state.1.path state.2)
    (reads : (edit.exec state).1 = .ok true →
      parse (edit.exec state).2.1.document.content.toUTF8 =
        .ok (edit.exec state).2.1.document) :
    Agrees parse (edit.exec state).2 := by
  have outcome := exec_outcome edit state
  generalize (edit.exec state).1 = result at outcome reads
  generalize (edit.exec state).2 = after at outcome reads
  cases outcome with
  | refused error => exact agrees
  | unchanged => exact agrees
  | failed error final left => exact (settings_load_of_failed keeps left).trans agrees
  | written next nextPlugins disk room fits placed =>
      exact settings_load_written (reads rfl) fits placed

/-- A run that loses no backup keeps memory and disk together, after each of its edits. -/
theorem agrees_runEdits {parse : ParseDocument} {edits : List StoreEdit} {state : StoreState}
    (agrees : Agrees parse state) (keeps : KeepsBackups parse edits state)
    (reads : ReadsBack parse edits state) {earlier : List StoreEdit}
    (reached : earlier <+: edits) : Agrees parse (runEdits earlier state) := by
  induction edits generalizing state earlier with
  | nil =>
      rw [List.prefix_nil.mp reached]
      exact agrees
  | cons edit rest ih =>
      cases earlier with
      | nil => exact agrees
      | cons first later =>
          obtain ⟨rfl, further⟩ := List.cons_prefix_cons.mp reached
          exact ih (agrees_exec agrees keeps.1 reads.1) keeps.2 reads.2 further

/-- A store that is opened on a file. -/
def opened (parse : ParseDocument) (path : String) (disk : SettingsDisk) : StoreState :=
  (load parse path disk, disk)

/-- Operations on a store of any file, of whose calls one may fail each time.  The revision
counts the operations that were made, one with a stale revision changes nothing, the plugin
overrides stay within their bounds, and memory follows the disk while no backup is lost. -/
theorem store_follows_disk (parse : ParseDocument) (path : String) (disk : SettingsDisk)
    (edits : List StoreEdit) (reads : ReadsBack parse edits (opened parse path disk)) :
    (∀ (state : StoreState) (edit : StoreEdit),
        ((edit.exec state).1 = .ok true →
          (edit.exec state).2.1.revision.toNat = state.1.revision.toNat + 1 ∧
            (edit.exec state).2.2.main =
              some (edit.exec state).2.1.document.content.toUTF8) ∧
        ((edit.exec state).1 ≠ .ok true → (edit.exec state).2.1 = state.1) ∧
        (∀ expected, edit.expected = some expected → expected ≠ state.1.revision →
          (edit.exec state).2 = state) ∧
        (edit.exec state).2.1.pluginOverrides.plugins.size ≤ 256 ∧
        ∀ id ∈ (edit.exec state).2.1.pluginOverrides.plugins.keys,
          validatePluginId id = .ok ()) ∧
      (KeepsBackups parse edits (opened parse path disk) →
        ∀ earlier, earlier <+: edits → Agrees parse (runEdits earlier (opened parse path disk))) := by
  refine ⟨?_, ?_⟩
  · intro state edit
    obtain ⟨raised, kept⟩ := revision_exec edit state
    obtain ⟨few, valid⟩ :=
      validatePluginOverrides_eq_ok.mp (edit.exec state).2.1.pluginOverrides.valid
    refine ⟨fun made => ⟨raised made, ?_⟩, kept, ?_, few, valid⟩
    · have outcome := exec_outcome edit state
      rw [made] at outcome
      generalize (edit.exec state).2 = after at outcome
      cases outcome with
      | written next nextPlugins disk room fits placed => exact placed
    · intro expected expects stale
      unfold StoreEdit.exec
      rw [expects, perform_stale edit.operation stale state.2]
  · intro keeps earlier reached
    refine agrees_runEdits ?_ keeps reads reached
    rw [Agrees, opened, load_path]

/-- The calls of a write that fails in one of them at most. -/
def failingIn (failing : Option Call) : WriteCalls :=
  ⟨failing, "Permission denied (os error 13)", "/state/.yunxi-settings-1-1.tmp"⟩

def enableVoice (failing : Option Call) : StoreEdit :=
  ⟨.replace (CapabilityOverrides.empty.set .voice true), none, failingIn failing⟩

def voiceDocument : SettingsDocument :=
  ⟨settingsDocumentVersion, 1, CapabilityOverrides.empty.set .voice true, .empty⟩

def memoryDocument : SettingsDocument :=
  ⟨settingsDocumentVersion, 2, CapabilityOverrides.empty.set .memory true, .empty⟩

local instance contentDecidableEq : DecidableEq ByteArray := ByteArray.instDecidableEq

/-- A library that reads two documents. -/
def parseTwo : ParseDocument := fun content =>
  if content = voiceDocument.content.toUTF8 then .ok voiceDocument
  else if content = memoryDocument.content.toUTF8 then .ok memoryDocument
  else .error "expected value at line 1 column 1"

/-- The first write of a store. -/
theorem store_follows_disk_first :
    Agrees parseTwo
      (runEdits [enableVoice none] (opened parseTwo "/state/settings.json" ⟨none, none⟩)) := by
  have written : ((enableVoice none).exec
      (opened parseTwo "/state/settings.json" ⟨none, none⟩)).2.1.document = voiceDocument := rfl
  have reads : ReadsBack parseTwo [enableVoice none]
      (opened parseTwo "/state/settings.json" ⟨none, none⟩) := by
    refine ⟨fun _ => ?_, trivial⟩
    rw [written]
    exact if_pos rfl
  exact (store_follows_disk parseTwo "/state/settings.json" ⟨none, none⟩ [enableVoice none]
    reads).2 ⟨.inl rfl, trivial⟩ _ (List.prefix_refl _)

/-- The document on disk is damaged and its backup is in use when a rename fails: memory keeps
revision 2, and loading the file gives the settings of a store without a document. -/
theorem backup_lost :
    ¬ Agrees parseTwo (runEdits [enableVoice (some .renameAway)]
      (opened parseTwo "/state/settings.json"
        ⟨some "\x7b".toUTF8, some memoryDocument.content.toUTF8⟩)) := by
  intro agrees
  have revisions := congrArg StoreSettings.revision agrees
  revert revisions
  decide

end CapabilitySettingsStore
end Settings
end YunXi
