import YunXi.Settings.Agreement
import Mathlib.Logic.Function.Basic

/-!
# Handles of one file

Several stores are loaded from one settings file and edit it in turns, each expecting the
revision that it holds itself.  The check of the revision asks the handle's own memory, so it
stops no edit that was prepared before another handle wrote.
-/

namespace YunXi
namespace Settings
namespace CapabilitySettingsStore

/-- Handles of one file.  Beside what the program has, which handles have not seen the last
edit, and the settings of the document that this edit produced. -/
structure Handles (ι : Type) where
  stores : ι → CapabilitySettingsStore
  disk : SettingsDisk
  behind : ι → Prop
  latest : StoreSettings

/-- A complete operation of one handle. -/
inductive HandleStep (ι : Type)
  | load (handle : ι)
  | edit (handle : ι) (operation : StoreOperation)

section Steps

variable {ι : Type} [DecidableEq ι] (parse : ParseDocument) (path : String)

/-- Every handle is loaded from the file. -/
def Handles.loaded (disk : SettingsDisk) : Handles ι where
  stores _ := CapabilitySettingsStore.load parse path disk
  disk
  behind _ := False
  latest := (CapabilitySettingsStore.load parse path disk).settings

/-- An edit that expects the revision its handle last saw; every call to the file works. -/
def Handles.exec (handles : Handles ι) (handle : ι) (operation : StoreOperation) :
    Except CapabilitySettingsError Bool × StoreState :=
  (perform (WriteFault.writer none) operation
    (some (handles.stores handle).revision)).exec (handles.stores handle, handles.disk)

def Handles.step (handles : Handles ι) : HandleStep ι → Handles ι
  | .load handle =>
      { handles with
        stores := Function.update handles.stores handle
          (CapabilitySettingsStore.load parse path handles.disk)
        behind := fun other => other ≠ handle ∧ handles.behind other }
  | .edit handle operation =>
      match handles.exec handle operation with
      | (.ok true, store, disk) =>
          { stores := Function.update handles.stores handle store
            disk
            behind := fun other => other ≠ handle
            latest := (CapabilitySettingsStore.load parse path disk).settings }
      | (_, store, disk) =>
          { handles with stores := Function.update handles.stores handle store, disk }

/-- The revision of a handle is the one on disk. -/
def Handles.Current (handles : Handles ι) : HandleStep ι → Prop
  | .load _ => True
  | .edit handle _ =>
      (handles.stores handle).revision =
        (CapabilitySettingsStore.load parse path handles.disk).revision

/-- Every step of a run has a property in the state before it. -/
def Handles.Along (property : Handles ι → HandleStep ι → Prop) :
    List (HandleStep ι) → Handles ι → Prop
  | [], _ => True
  | step :: rest, handles =>
      property handles step ∧ Handles.Along property rest (handles.step parse path step)

/-- The second settings are what the operation makes of the first ones, at the next revision. -/
structure StoreSettings.Follows (operation : StoreOperation) (earlier later : StoreSettings) :
    Prop where
  makes : operation.Makes earlier.overrides earlier.pluginOverrides
    later.overrides later.pluginOverrides
  revision : later.revision.toNat = earlier.revision.toNat + 1

/-- An edit that is made has seen the last one, and the document that it produces holds what it
makes of the document that the last one produced. -/
def Handles.MadeOnLatest (handles : Handles ι) : HandleStep ι → Prop
  | .load _ => True
  | .edit handle operation =>
      (handles.exec handle operation).1 = .ok true →
        ¬ handles.behind handle ∧
          StoreSettings.Follows operation handles.latest
            (CapabilitySettingsStore.load parse path
              (handles.exec handle operation).2.2).settings

/-- The library reads the documents that are written. -/
def Handles.ReadsWritten (handles : Handles ι) : HandleStep ι → Prop
  | .load _ => True
  | .edit handle operation =>
      (handles.exec handle operation).1 = .ok true →
        parse (handles.exec handle operation).2.1.document.content.toUTF8 =
          .ok (handles.exec handle operation).2.1.document

end Steps

section Runs

variable {ι : Type} {parse : ParseDocument} {path : String}
  {handles : Handles ι}

/-- An edit is made with the document of a store on disk, or leaves everything as it was. -/
theorem Handles.exec_cases (handles : Handles ι) (handle : ι) (operation : StoreOperation) :
    (∃ result, result ≠ .ok true ∧
        handles.exec handle operation = (result, handles.stores handle, handles.disk)) ∨
      ∃ next nextPlugins,
        operation.Makes (handles.stores handle).overrides (handles.stores handle).pluginOverrides
          next nextPlugins ∧
        (handles.stores handle).revision.toNat + 1 ≠ UInt64.size ∧
        ((handles.stores handle).written next nextPlugins).document.content.utf8ByteSize ≤
          maxSettingsFileBytes ∧
        handles.exec handle operation =
          (.ok true, (handles.stores handle).written next nextPlugins,
            ⟨some ((handles.stores handle).written next nextPlugins).document.content.toUTF8,
              none⟩) := by
  unfold Handles.exec
  cases perform_effect (handles.stores handle) operation
      (some (handles.stores handle).revision) with
  | refused error runs => exact .inl ⟨.error error, nofun, runs _ _⟩
  | unchanged same runs => exact .inl ⟨.ok false, nofun, runs _ _⟩
  | replaced next nextPlugins made room fits runs =>
      refine .inr ⟨next, nextPlugins, made, room, fits, (runs _ _).trans ?_⟩
      dsimp only [stored, WriteFault.writer]
      rw [replaceFile_eq]

/-- The disk has the settings of the last edit, handles that have seen it hold them too, and
the others hold an earlier revision. -/
structure Handles.Sound (parse : ParseDocument) (path : String) (handles : Handles ι) :
    Prop where
  latest : (load parse path handles.disk).settings = handles.latest
  seen : ∀ handle, ¬ handles.behind handle → (handles.stores handle).settings = handles.latest
  behind : ∀ handle, handles.behind handle →
    (handles.stores handle).revision.toNat < handles.latest.revision.toNat

theorem Handles.sound_loaded (disk : SettingsDisk) :
    (Handles.loaded parse path disk : Handles ι).Sound parse path :=
  ⟨rfl, fun _ _ => rfl, fun _ impossible => impossible.elim⟩

/-- No handle holds a later revision than the disk. -/
theorem Handles.Sound.revision_le (sound : handles.Sound parse path) (handle : ι) :
    (handles.stores handle).revision.toNat ≤ handles.latest.revision.toNat := by
  by_cases behind : handles.behind handle
  · exact (sound.behind handle behind).le
  · rw [← sound.seen handle behind]
    exact Nat.le_refl _

/-- A handle with the revision on disk has seen the last edit. -/
theorem Handles.Sound.not_behind (sound : handles.Sound parse path) {handle : ι}
    (current : (handles.stores handle).revision = (load parse path handles.disk).revision) :
    ¬ handles.behind handle := by
  intro behind
  have earlier := sound.behind handle behind
  rw [current, ← sound.latest] at earlier
  exact Nat.lt_irrefl _ earlier

theorem Handles.Sound.madeOnLatest
    (sound : handles.Sound parse path)
    {step : HandleStep ι}
    (current : handles.Current parse path step)
    (reads : handles.ReadsWritten parse step) :
    handles.MadeOnLatest parse path step := by
  cases step with
  | load handle => trivial
  | edit handle operation =>
      intro accepted
      have seen := sound.not_behind current
      refine ⟨seen, ?_⟩
      rcases handles.exec_cases handle operation with
        ⟨result, refused, ran⟩ | ⟨next, nextPlugins, made, room, fits, ran⟩
      · rw [ran] at accepted
        exact absurd accepted refused
      · simp only [Handles.ReadsWritten, ran] at reads
        rw [ran, settings_load_written (reads trivial) fits rfl, ← sound.seen handle seen]
        exact ⟨made, revision_written room next nextPlugins⟩

variable [DecidableEq ι]

theorem Handles.Sound.load (sound : handles.Sound parse path) (handle : ι) :
    (handles.step parse path (.load handle)).Sound parse path := by
  refine ⟨sound.latest, ?_, ?_⟩
  · intro other seen
    by_cases same : other = handle
    · subst same
      show (Function.update handles.stores other _ other).settings = _
      rw [Function.update_self]
      exact sound.latest
    · show (Function.update handles.stores handle _ other).settings = _
      rw [Function.update_of_ne same]
      exact sound.seen other fun behind => seen ⟨same, behind⟩
  · rintro other ⟨differs, behind⟩
    show (Function.update handles.stores handle _ other).revision.toNat < _
    rw [Function.update_of_ne differs]
    exact sound.behind other behind

theorem Handles.Sound.edit (sound : handles.Sound parse path) {handle : ι}
    {operation : StoreOperation}
    (current : handles.Current parse path (.edit handle operation))
    (reads : handles.ReadsWritten parse (.edit handle operation)) :
    (handles.step parse path (.edit handle operation)).Sound parse path := by
  rcases handles.exec_cases handle operation with
    ⟨result, refused, ran⟩ | ⟨next, nextPlugins, made, room, fits, ran⟩
  · have same : handles.step parse path (.edit handle operation) = handles := by
      simp only [Handles.step, ran]
      cases result with
      | error error => simp only [Function.update_eq_self]
      | ok made =>
          cases made with
          | false => simp only [Function.update_eq_self]
          | true => exact absurd rfl refused
    rw [same]
    exact sound
  · simp only [Handles.ReadsWritten, ran] at reads
    have raised := revision_written room next nextPlugins
    have seen := sound.not_behind current
    have held := congrArg StoreSettings.revision (sound.seen handle seen)
    have loaded : (CapabilitySettingsStore.load parse path
        ⟨some ((handles.stores handle).written next nextPlugins).document.content.toUTF8,
          none⟩).settings = ((handles.stores handle).written next nextPlugins).settings :=
      settings_load_written (reads trivial) fits rfl
    simp only [Handles.step, ran]
    refine ⟨rfl, ?_, ?_⟩
    · intro other notBehind
      obtain rfl : other = handle := not_not.mp notBehind
      show (Function.update handles.stores other _ other).settings = _
      rw [Function.update_self]
      exact loaded.symm
    · intro other differs
      show (Function.update handles.stores handle _ other).revision.toNat < _
      rw [Function.update_of_ne differs]
      refine lt_of_lt_of_eq ?_
        (congrArg (fun settings => settings.revision.toNat) loaded.symm)
      show _ < ((handles.stores handle).written next nextPlugins).revision.toNat
      rw [raised]
      have below := sound.revision_le other
      rw [← held] at below
      exact Nat.lt_succ_of_le below

/-- Edits of handles that hold the revision on disk are made on what the last edit wrote, and
so each document contains the edits before it. -/
theorem no_lost_edits (parse : ParseDocument) (path : String) (disk : SettingsDisk)
    (steps : List (HandleStep ι))
    (reads : Handles.Along parse path (Handles.ReadsWritten parse) steps
      (.loaded parse path disk))
    (current : Handles.Along parse path (Handles.Current parse path) steps
      (.loaded parse path disk)) :
    Handles.Along parse path (Handles.MadeOnLatest parse path) steps
      (.loaded parse path disk) := by
  have along : ∀ (steps : List (HandleStep ι)) (handles : Handles ι),
      handles.Sound parse path →
      Handles.Along parse path (Handles.ReadsWritten parse) steps handles →
      Handles.Along parse path (Handles.Current parse path) steps handles →
        Handles.Along parse path (Handles.MadeOnLatest parse path) steps handles := by
    intro steps
    induction steps with
    | nil => exact fun _ _ _ _ => trivial
    | cons step rest ih =>
        rintro handles sound ⟨reads, readsRest⟩ ⟨current, currentRest⟩
        refine ⟨sound.madeOnLatest current reads, ?_⟩
        refine ih _ ?_ readsRest currentRest
        cases step with
        | load handle => exact sound.load handle
        | edit handle operation => exact sound.edit current reads
  exact along steps _ (Handles.sound_loaded disk) reads current

end Runs

def switchOn (setting : CapabilitySetting) : StoreOperation :=
  .replace (CapabilityOverrides.empty.set setting true)

/-- The document in which voice and memory are on. -/
def bothDocument : SettingsDocument :=
  ⟨settingsDocumentVersion, 2,
    voiceDocument.capabilities.merge (CapabilityOverrides.empty.set .memory true), .empty⟩

local instance documentDecidableEq : DecidableEq ByteArray := ByteArray.instDecidableEq

/-- A library that reads these documents. -/
def parseBoth : ParseDocument := fun content =>
  if content = voiceDocument.content.toUTF8 then .ok voiceDocument
  else if content = bothDocument.content.toUTF8 then .ok bothDocument
  else .error "expected value at line 1 column 1"

/-- A store that holds the first document. -/
def voiceStore : CapabilitySettingsStore :=
  ⟨"/state/settings.json", voiceDocument.capabilities, .empty, 1, []⟩

theorem load_voiceStore :
    CapabilitySettingsStore.load parseBoth "/state/settings.json"
      ⟨some voiceStore.document.content.toUTF8, none⟩ = voiceStore :=
  load_written (if_pos rfl) (by decide)

/-- The first handle writes, the second one loads what was written, and adds to it. -/
theorem no_lost_edits_turns :
    Handles.Along parseBoth "/state/settings.json"
      (Handles.MadeOnLatest parseBoth "/state/settings.json")
      [.edit true (switchOn .voice), .load false,
        .edit false (.update (CapabilityOverrides.empty.set .memory true))]
      (.loaded parseBoth "/state/settings.json" ⟨none, none⟩) := by
  apply no_lost_edits
  · refine ⟨fun _ => ?_, trivial, fun _ => ?_, trivial⟩
    · show parseBoth voiceDocument.content.toUTF8 = .ok voiceDocument
      exact if_pos rfl
    · have added (store : CapabilitySettingsStore) (loaded : store = voiceStore) :
          let left := ((CapabilitySettingsStore.update (WriteFault.writer none)
            (CapabilityOverrides.empty.set .memory true) (some store.revision)).exec
              (store, ⟨some voiceStore.document.content.toUTF8, none⟩)).2.1
          parseBoth left.document.content.toUTF8 = .ok left.document := by
        subst loaded
        show parseBoth bothDocument.content.toUTF8 = .ok bothDocument
        decide
      exact added _ load_voiceStore
  · refine ⟨rfl, trivial, ?_, trivial⟩
    dsimp only [Handles.Current]
    decide

/-- Both handles are loaded before either writes: the second edit is made over the first. -/
theorem edit_lost :
    ¬ Handles.Along parseTwo "/state/settings.json"
      (Handles.MadeOnLatest parseTwo "/state/settings.json")
      [.edit true (switchOn .voice), .edit false (switchOn .memory)]
      (.loaded parseTwo "/state/settings.json" ⟨none, none⟩) := by
  rintro ⟨-, onLatest, -⟩
  exact (onLatest (by decide)).1 nofun

end CapabilitySettingsStore
end Settings
end YunXi
