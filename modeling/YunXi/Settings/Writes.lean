import YunXi.Settings.Edits

/-!
# What a write does to the store

Every write refuses, changes nothing, or replaces the document by the one of the new store.
Loading a document that was written gives the store that wrote it.
-/

namespace YunXi
namespace Settings

open Fallible

/-- A write whose calls all work leaves the new document alone. -/
theorem replaceFile_eq (disk : SettingsDisk) (content : ByteArray) :
    disk.replaceFile content = ⟨some content, none⟩ := by
  unfold SettingsDisk.replaceFile
  cases disk.main <;> rfl

namespace CapabilitySettingsStore

/-- The document of a store. -/
def document (store : CapabilitySettingsStore) : SettingsDocument :=
  ⟨settingsDocumentVersion, store.revision, store.overrides, store.pluginOverrides.plugins⟩

/-- The store after a write of overrides. -/
def written (store : CapabilitySettingsStore) (next : CapabilityOverrides)
    (nextPlugins : PluginOverrides) : CapabilitySettingsStore :=
  { store with
    overrides := next
    pluginOverrides := nextPlugins
    revision := store.revision + 1 }

/-- The end of a write that passed its checks: the file takes the document or not. -/
def stored (write : Writer) (store replacement : CapabilitySettingsStore)
    (disk : SettingsDisk) :
    Except CapabilitySettingsError Bool × CapabilitySettingsStore × SettingsDisk :=
  match write store.path replacement.document.content.toUTF8 disk with
  | (.error error, left) => (.error error, store, left)
  | (.ok (), left) => (.ok true, replacement, left)

/-- The outcomes of a write that makes an operation, whatever the disk holds and whatever goes
wrong there. -/
inductive WriteEffect (store : CapabilitySettingsStore)
    (operation : StoreOperation)
    (program : Writer → StoreProgram Bool) : Prop
  | refused (error : CapabilitySettingsError)
      (runs : ∀ write disk, (program write).exec (store, disk) = (.error error, store, disk))
  | unchanged
      (same : operation.Makes store.overrides store.pluginOverrides
        store.overrides store.pluginOverrides)
      (runs : ∀ write disk, (program write).exec (store, disk) = (.ok false, store, disk))
  | replaced (next : CapabilityOverrides) (nextPlugins : PluginOverrides)
      (made : operation.Makes store.overrides store.pluginOverrides next nextPlugins)
      (room : store.revision.toNat + 1 ≠ UInt64.size)
      (fits : (store.written next nextPlugins).document.content.utf8ByteSize ≤
        maxSettingsFileBytes)
      (runs : ∀ write disk, (program write).exec (store, disk) =
        stored write store (store.written next nextPlugins) disk)

variable {store : CapabilitySettingsStore} {operation : StoreOperation}

theorem commit_effect {next : CapabilityOverrides}
    {nextPlugins : PluginOverrides}
    (made : operation.Makes store.overrides store.pluginOverrides next nextPlugins) :
    WriteEffect store operation (commit · next nextPlugins) := by
  by_cases same : next = store.overrides ∧ nextPlugins = store.pluginOverrides
  · have unmoved := made
    rw [same.1, same.2] at unmoved
    refine .unchanged unmoved fun write disk => ?_
    unfold commit
    rw [exec_get_bind]
    simp only [if_pos same, exec_pure]
  by_cases exhausted : store.revision.toNat + 1 = UInt64.size
  · refine .refused .revisionExhausted fun write disk => ?_
    unfold commit throwIf
    rw [exec_get_bind]
    simp only [if_neg same, if_pos exhausted]
    rfl
  by_cases large : (SettingsDocument.mk settingsDocumentVersion (store.revision + 1) next
      nextPlugins.plugins).content.utf8ByteSize > maxSettingsFileBytes
  · refine .refused (.tooLarge store.path maxSettingsFileBytes) fun write disk => ?_
    unfold commit throwIf
    rw [exec_get_bind]
    simp only [if_neg same, if_neg exhausted, if_pos large]
    rfl
  · refine .replaced next nextPlugins made exhausted (not_lt.mp large) fun write disk => ?_
    unfold commit throwIf
    rw [exec_get_bind]
    simp only [if_neg same, if_neg exhausted, if_neg large]
    unfold stored
    cases ran : write store.path (store.written next nextPlugins).document.content.toUTF8 disk with
    | mk result left =>
        have runs : (replaceFile write (store.written next nextPlugins).document.content).exec
            (store, disk) = (result, store, left) := by
          show (_, _, _) = _
          rw [ran]
        refine (exec_bind_of_ok rfl).trans ((exec_bind_of_ok rfl).trans ?_)
        cases result with
        | error error => exact exec_bind_of_error runs
        | ok => exact exec_bind_of_ok runs

variable {program : Writer → StoreProgram Bool}

/-- Programs that do the same to a store have the same effect. -/
theorem WriteEffect.congr {other : Writer → StoreProgram Bool}
    (same : ∀ write disk,
      (program write).exec (store, disk) = (other write).exec (store, disk))
    (effect : WriteEffect store operation other) : WriteEffect store operation program := by
  cases effect with
  | refused error runs =>
      exact .refused error fun write disk => (same write disk).trans (runs write disk)
  | unchanged unmoved runs =>
      exact .unchanged unmoved fun write disk => (same write disk).trans (runs write disk)
  | replaced next nextPlugins made room fits runs =>
      exact .replaced next nextPlugins made room fits fun write disk =>
        (same write disk).trans (runs write disk)

/-- A check before a write refuses, or leaves the write to happen. -/
theorem writeEffect_bind {α : Type} {check : StoreProgram α}
    {next : α → Writer → StoreProgram Bool} {result : Except CapabilitySettingsError α}
    (checks : ∀ disk, check.exec (store, disk) = (result, store, disk))
    (writes : ∀ value, result = .ok value → WriteEffect store operation (next value)) :
    WriteEffect store operation fun write => check >>= (next · write) := by
  cases result with
  | error error =>
      exact .refused error fun write disk => exec_bind_of_error (checks disk)
  | ok value =>
      exact (writes value rfl).congr fun write disk => exec_bind_of_ok (checks disk)

/-- The store is read before a write; the disk is not. -/
theorem writeEffect_get
    {next : CapabilitySettingsStore × SettingsDisk → Writer → StoreProgram Bool}
    (reads : ∀ disk write, next (store, disk) write = program write)
    (writes : WriteEffect store operation program) :
    WriteEffect store operation fun write => get >>= (next · write) := by
  refine writes.congr fun write disk => ?_
  rw [exec_get_bind, reads disk write]

/-- The revision is checked before everything else. -/
theorem checkRevision_effect (expected : Option UInt64)
    (writes : WriteEffect store operation program) :
    WriteEffect store operation fun write => checkRevision expected >>= fun _ => program write := by
  have checks : ∃ result, ∀ disk,
      (checkRevision expected).exec (store, disk) = (result, store, disk) := by
    cases expected with
    | none => exact ⟨_, fun _ => rfl⟩
    | some revision => exact ⟨_, fun _ => rfl⟩
  obtain ⟨result, runs⟩ := checks
  exact @writeEffect_bind _ _ _ _ (fun _ => program) _ runs fun _ _ => writes

theorem update_effect (patch : CapabilityOverrides) (expected : Option UInt64) :
    WriteEffect store (.update patch) (update · patch expected) :=
  checkRevision_effect expected (writeEffect_get (fun _ _ => rfl) (commit_effect ⟨rfl, rfl⟩))

theorem replace_effect (replacement : CapabilityOverrides) (expected : Option UInt64) :
    WriteEffect store (.replace replacement) (replace · replacement expected) :=
  checkRevision_effect expected (writeEffect_get (fun _ _ => rfl) (commit_effect ⟨rfl, rfl⟩))

theorem mutate_effect (edits : List CapabilityEdit) (expected : Option UInt64) :
    WriteEffect store (.mutate edits) (mutate · edits expected) :=
  checkRevision_effect expected <| writeEffect_get (fun _ _ => rfl) <|
    commit_effect ⟨get_applyEdits edits store.overrides, rfl⟩

theorem updatePlugins_effect (patch : SortedMap String Bool) (expected : Option UInt64) :
    WriteEffect store (.updatePlugins patch) (updatePlugins · patch expected) :=
  checkRevision_effect expected <|
    writeEffect_bind (fun _ => exec_ofExcept _ _) fun _ _ =>
      writeEffect_get (fun _ _ => rfl) <|
        writeEffect_bind (fun _ => exec_ofExcept _ _) fun next accepted => by
          obtain ⟨valid, rfl⟩ := eq_of_construct accepted
          exact commit_effect ⟨rfl, funext fun id => SortedMap.lookup?_extend_entries _ patch id⟩

theorem replacePlugins_effect (plugins : SortedMap String Bool) (expected : Option UInt64) :
    WriteEffect store (.replacePlugins plugins) (replacePlugins · plugins expected) :=
  checkRevision_effect expected <|
    writeEffect_bind (fun _ => exec_ofExcept _ _) fun next accepted => by
      obtain ⟨valid, rfl⟩ := eq_of_construct accepted
      exact writeEffect_get (fun _ _ => rfl) (commit_effect ⟨rfl, rfl⟩)

/-- An operation that is a list of plugin edits. -/
theorem mutatePlugins_effect {edits : List PluginEdit}
    (capabilities : operation.capabilities store.overrides.get = store.overrides.get)
    (plugins : operation.plugins store.pluginOverrides.plugins.lookup? =
      assign store.pluginOverrides.plugins.lookup? (edits.map PluginEdit.assignment))
    (expected : Option UInt64) :
    WriteEffect store operation (mutatePlugins · edits expected) :=
  checkRevision_effect expected <| writeEffect_get (fun _ _ => rfl) <|
    writeEffect_bind (fun _ => exec_ofExcept _ _) fun _ accepted =>
      commit_effect ⟨capabilities.symm, (lookup?_applyPluginEdits accepted).trans plugins.symm⟩

/-- Call an entry point. -/
def perform (write : Writer) :
    StoreOperation → Option UInt64 → StoreProgram Bool
  | .update patch => CapabilitySettingsStore.update write patch
  | .replace replacement => CapabilitySettingsStore.replace write replacement
  | .mutate edits => CapabilitySettingsStore.mutate write edits
  | .setPlugin id enabled => CapabilitySettingsStore.setPlugin write id enabled
  | .unsetPlugin id => CapabilitySettingsStore.unsetPlugin write id
  | .updatePlugins patch => CapabilitySettingsStore.updatePlugins write patch
  | .replacePlugins plugins => CapabilitySettingsStore.replacePlugins write plugins
  | .mutatePlugins edits => CapabilitySettingsStore.mutatePlugins write edits

/-- An entry point makes its operation, or leaves everything as it was. -/
theorem perform_effect (store : CapabilitySettingsStore)
    (operation : StoreOperation)
    (expected : Option UInt64) :
    WriteEffect store operation (perform · operation expected) := by
  cases operation with
  | update patch => exact update_effect patch expected
  | replace replacement => exact replace_effect replacement expected
  | mutate edits => exact mutate_effect edits expected
  | setPlugin | unsetPlugin | mutatePlugins => exact mutatePlugins_effect rfl rfl expected
  | updatePlugins patch => exact updatePlugins_effect patch expected
  | replacePlugins plugins => exact replacePlugins_effect plugins expected

section Load

variable {parse : ParseDocument} {path : String} {disk : SettingsDisk}

/-- A document that can be read and used. -/
def Usable (parse : ParseDocument) (path : String) (file : Option ByteArray) : Prop :=
  ∃ document, loadUsable parse path file = .ok (some document)

/-- While the document can be used, the backup does not matter. -/
theorem load_of_usable (usable : Usable parse path disk.main) (backup : Option ByteArray) :
    load parse path { disk with backup } = load parse path disk := by
  obtain ⟨⟨document, plugins⟩, loads⟩ := usable
  unfold load
  rw [loads]

theorem loadUsable_none : loadUsable parse path none = .ok none := rfl

/-- A file that is there is used or refused. -/
theorem loadUsable_some_ne_none (content : ByteArray) :
    loadUsable parse path (some content) ≠ .ok none := by
  intro missing
  unfold loadUsable at missing
  obtain ⟨loaded, ran, rest⟩ := Except.bind_eq_ok.mp missing
  cases loaded with
  | none =>
      unfold loadDocument at ran
      obtain ⟨_, -, parsed⟩ := Except.bind_eq_ok.mp ran
      obtain ⟨document, -, validated⟩ := Except.bind_eq_ok.mp parsed
      obtain ⟨_, -, versioned⟩ := Except.bind_eq_ok.mp validated
      obtain ⟨_, -, impossible⟩ := Except.bind_eq_ok.mp versioned
      cases impossible
  | some document =>
      obtain ⟨plugins, -, impossible⟩ := Except.bind_eq_ok.mp rest
      cases impossible

/-- Without a usable document, a backup shows in what is loaded. -/
theorem load_of_not_usable (unusable : ¬ Usable parse path disk.main) {content : ByteArray}
    (backup : disk.backup = some content) :
    load parse path { disk with backup := none } ≠ load parse path disk := by
  have shows : ∀ warnings : List String,
      load.loadBackup parse path { disk with backup := none } warnings ≠
        load.loadBackup parse path disk warnings := by
    intro warnings same
    unfold load.loadBackup at same
    simp only [loadUsable_none, backup] at same
    cases loads : loadUsable parse (backupPath path) (some content) with
    | ok loaded =>
        cases loaded with
        | none => exact loadUsable_some_ne_none content loads
        | some found =>
            rw [loads] at same
            have warned := congrArg CapabilitySettingsStore.warnings same
            exact absurd (List.append_right_eq_self.mp warned.symm) (List.cons_ne_nil _ _)
    | error error =>
        rw [loads] at same
        have warned := congrArg CapabilitySettingsStore.warnings same
        exact absurd (List.append_right_eq_self.mp warned.symm) (List.cons_ne_nil _ _)
  unfold load
  cases loads : loadUsable parse path disk.main with
  | ok loaded =>
      cases loaded with
      | none => exact shows []
      | some found => exact absurd ⟨found, loads⟩ unusable
  | error error => exact shows [error.display]

/-- Taking the backup away does not show in what is loaded exactly when the document can be
used or there was no backup. -/
theorem load_withoutBackup_iff :
    load parse path { disk with backup := none } = load parse path disk ↔
      Usable parse path disk.main ∨ disk.backup = none := by
  constructor
  · intro same
    by_cases usable : Usable parse path disk.main
    · exact .inl usable
    · refine .inr ?_
      cases backup : disk.backup with
      | none => rfl
      | some content => exact absurd same (load_of_not_usable usable backup)
  · rintro (usable | missing)
    · exact load_of_usable usable none
    · rw [← missing]

/-- What a store wrote can be used. -/
theorem loadUsable_written (reads : parse store.document.content.toUTF8 = .ok store.document)
    (fits : store.document.content.utf8ByteSize ≤ maxSettingsFileBytes) :
    loadUsable parse path (some store.document.content.toUTF8) =
      .ok (some (store.document, store.pluginOverrides)) := by
  have small : ¬ store.document.content.toUTF8.size > maxSettingsFileBytes := by
    rw [String.toUTF8, String.size_toByteArray]
    exact not_lt.mpr fits
  have loaded : loadDocument parse path (some store.document.content.toUTF8) =
      .ok (some store.document) :=
    Except.bind_eq_ok.mpr ⟨(), refuseIf_eq_ok.mpr small,
      Except.bind_eq_ok.mpr ⟨store.document, Except.mapError_eq_ok.mpr reads,
        Except.bind_eq_ok.mpr ⟨(), store.pluginOverrides.valid,
          Except.bind_eq_ok.mpr ⟨(), refuseIf_eq_ok.mpr (not_not.mpr rfl), rfl⟩⟩⟩⟩
  exact Except.bind_eq_ok.mpr ⟨_, loaded, Except.bind_eq_ok.mpr ⟨store.pluginOverrides,
    construct_of_ok store.pluginOverrides.valid _, rfl⟩⟩

/-- Loading what a store wrote gives its settings. -/
theorem load_written (reads : parse store.document.content.toUTF8 = .ok store.document)
    (fits : store.document.content.utf8ByteSize ≤ maxSettingsFileBytes) :
    load parse path ⟨some store.document.content.toUTF8, none⟩ =
      { store with path, warnings := [] } := by
  unfold load
  rw [loadUsable_written reads fits]
  rfl

end Load

end CapabilitySettingsStore
end Settings
end YunXi
