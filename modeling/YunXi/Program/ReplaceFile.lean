import YunXi.Program.Fallible
import Mathlib.Data.Option.Basic

/-!
# Replacing a file through a backup

New content is written to a temporary file, the old file is renamed to a backup, the
temporary file is renamed in its place and the backup is removed.  Each call to the file
system works, fails, or is the one before which the process stops.  What a reader finds,
in the file or else in its backup, is the old content or the new one after every run.
-/

namespace YunXi
namespace ReplaceFile

open Fallible

variable {β : Type}

/-- The three files of a replacement. -/
structure Slots (β : Type) where
  target : Option β
  backup : Option β
  temporary : Option β
  deriving DecidableEq

/-- What a reader finds that falls back to the backup. -/
def Slots.current (slots : Slots β) : Option β :=
  slots.target.or slots.backup

/-- The calls to the file system, each made at most once. -/
inductive Call
  | createDirectory
  | createTemporary
  | writeTemporary
  | discardTemporary
  | probeTarget
  | probeBackup
  | removeBackup
  | renameAway
  | renameIn
  | probeRecovery
  | renameBack
  | removeTemporary
  | probeLeftover
  | removeLeftover
  deriving DecidableEq, Repr

/-- How a call goes; one that fails or before which the process stops does nothing. -/
inductive Fate
  | works
  | fails
  | stops
  deriving DecidableEq, Repr

/-- What happens to the calls, and what a file holds that was not written completely. -/
structure Faults (β : Type) where
  fate : Call → Fate
  torn : β

/-- At most one call fails. -/
def Faults.Single (faults : Faults β) : Prop :=
  ∀ first second, faults.fate first = .fails → faults.fate second = .fails → first = second

/-- How a replacement ends that does not return. -/
inductive Halt
  | failed (call : Call)
  | stopped
  deriving DecidableEq, Repr

abbrev Program (β α : Type) := Fallible (Slots β) Halt α

section Program

variable (faults : Faults β)

/-- A call with an effect; its result says whether it worked. -/
def attempt (call : Call) (effect : Slots β → Slots β) : Program β Bool :=
  match faults.fate call with
  | .works => do
      modify effect
      return true
  | .fails => return false
  | .stops => throw .stopped

/-- A call whose failure ends the replacement. -/
def require (call : Call) (effect : Slots β → Slots β) : Program β Unit := do
  let worked ← attempt faults call effect
  throwIf (worked = false) (.failed call)

/-- Whether a file exists; one that cannot be looked at does not. -/
def probe (call : Call) (file : Slots β → Option β) : Program β Bool :=
  match faults.fate call with
  | .works => do
      let slots ← get
      return (file slots).isSome
  | .fails => return false
  | .stops => throw .stopped

/-- Write the content; what was not written completely is there all the same. -/
def write (content : β) : Program β Bool :=
  match faults.fate .writeTemporary with
  | .works => do
      modify fun slots => { slots with temporary := some content }
      return true
  | .fails => return false
  | .stops => throw .stopped

/-- Write the new content to a file of its own. -/
def prepare (content : β) : Program β Unit := do
  require faults .createTemporary fun slots => { slots with temporary := some faults.torn }
  if ← write faults content then return ()
  else do
    let _ ← attempt faults .discardTemporary fun slots => { slots with temporary := none }
    throw (.failed .writeTemporary)

/-- Make way for the new file. -/
def moveAway : Program β Unit := do
  if ← probe faults .probeTarget Slots.target then
    if ← probe faults .probeBackup Slots.backup then
      require faults .removeBackup fun slots => { slots with backup := none }
    require faults .renameAway fun slots =>
      { slots with target := none, backup := slots.target }

/-- Rename the new file in place, or bring the old one back. -/
def moveIn : Program β Unit := do
  if ← attempt faults .renameIn fun slots =>
      { slots with target := slots.temporary, temporary := none } then
    if ← probe faults .probeLeftover Slots.backup then
      let _ ← attempt faults .removeLeftover fun slots => { slots with backup := none }
  else do
    if ← probe faults .probeRecovery Slots.backup then
      let _ ← attempt faults .renameBack fun slots =>
        { slots with target := slots.backup, backup := none }
    let _ ← attempt faults .removeTemporary fun slots => { slots with temporary := none }
    throw (.failed .renameIn)

/-- Replace the content of a file. -/
def replaceFile (content : β) : Program β Unit := do
  prepare faults content
  moveAway faults
  moveIn faults

/-- Replace the content of a file whose directory may have to be created first. -/
def replaceFileIn (content : β) : Program β Unit := do
  require faults .createDirectory id
  replaceFile faults content

end Program

variable {call : Call} {effect : Slots β → Slots β}

section Rules

variable {faults : Faults β} {slots : Slots β}

/-- A call works with its effect, fails without one, or is never made. -/
theorem wp_attempt {post : Except Halt Bool → Slots β → Prop}
    (works : faults.fate call = .works → post (.ok true) (effect slots))
    (fails : faults.fate call = .fails → post (.ok false) slots)
    (stops : faults.fate call = .stops → post (.error .stopped) slots) :
    (attempt faults call effect).wp post slots := by
  unfold attempt
  cases fate : faults.fate call with
  | works => exact works fate
  | fails => exact fails fate
  | stops => exact stops fate

theorem wp_require {post : Except Halt Unit → Slots β → Prop}
    (works : faults.fate call = .works → post (.ok ()) (effect slots))
    (fails : faults.fate call = .fails → post (.error (.failed call)) slots)
    (stops : faults.fate call = .stops → post (.error .stopped) slots) :
    (require faults call effect).wp post slots := by
  unfold require
  rw [wp_bind]
  refine wp_attempt (fun fate => ?_) (fun fate => ?_) stops
  · exact (wp_throwIf _ _ _ _).mpr
      ⟨fun impossible => (nomatch impossible), fun _ => works fate⟩
  · exact (wp_throwIf _ _ _ _).mpr
      ⟨fun _ => fails fate, fun impossible => absurd rfl impossible⟩

theorem wp_probe {file : Slots β → Option β}
    {post : Except Halt Bool → Slots β → Prop}
    (works : faults.fate call = .works → post (.ok (file slots).isSome) slots)
    (fails : faults.fate call = .fails → post (.ok false) slots)
    (stops : faults.fate call = .stops → post (.error .stopped) slots) :
    (probe faults call file).wp post slots := by
  unfold probe
  cases fate : faults.fate call with
  | works => exact works fate
  | fails => exact fails fate
  | stops => exact stops fate

end Rules

/-- The new content after a replacement that returned, the old one after one that failed, and
either after one that was stopped. -/
def OldOrNew (old : Option β) (content : β) (result : Except Halt Unit) (slots : Slots β) :
    Prop :=
  match result with
  | .ok () => slots.current = some content
  | .error (.failed _) => slots.current = old
  | .error .stopped => slots.current = old ∨ slots.current = some content

theorem current_eq_target {slots : Slots β} {content : β} (present : slots.target = some content) :
    slots.current = some content := by
  rw [Slots.current, present, Option.some_or]

theorem current_eq_backup {slots : Slots β} (missing : slots.target = none) :
    slots.current = slots.backup := by
  rw [Slots.current, missing, Option.none_or]

section Stages

variable {faults : Faults β} {slots : Slots β} {content : β}

/-- Preparing touches nothing that a reader looks at. -/
theorem wp_prepare : (prepare faults content).wp (fun result final =>
      final.target = slots.target ∧ final.backup = slots.backup ∧
        (result = .ok () → final.temporary = some content)) slots := by
  unfold prepare
  rw [wp_bind]
  refine wp_require (fun _ => ?_) (fun _ => ⟨rfl, rfl, nofun⟩) (fun _ => ⟨rfl, rfl, nofun⟩)
  rw [andThen_ok, wp_bind]
  unfold write
  cases fate : faults.fate .writeTemporary with
  | works => exact ⟨rfl, rfl, fun _ => rfl⟩
  | stops => exact ⟨rfl, rfl, nofun⟩
  | fails =>
      rw [wp_pure, andThen_ok, if_neg Bool.false_ne_true, wp_bind]
      exact wp_attempt (fun _ => ⟨rfl, rfl, nofun⟩) (fun _ => ⟨rfl, rfl, nofun⟩)
        (fun _ => ⟨rfl, rfl, nofun⟩)

/-- Moving away keeps what a reader finds; the file is gone then, unless it was not seen. -/
theorem wp_moveAway : (moveAway faults).wp (fun result final =>
      final.current = slots.current ∧ final.temporary = slots.temporary ∧
        (result = .ok () → faults.fate .probeTarget = .fails ∨ final.target = none)) slots := by
  unfold moveAway
  rw [wp_bind]
  refine wp_probe (fun _ => ?_) (fun fails => ⟨rfl, rfl, fun _ => .inl fails⟩)
    (fun _ => ⟨rfl, rfl, nofun⟩)
  cases present : slots.target with
  | none => exact ⟨rfl, rfl, fun _ => .inr present⟩
  | some old =>
      -- from here on the file is there, so a reader does not look at the backup
      have renamed : ∀ middle : Slots β, middle.target = slots.target →
          middle.temporary = slots.temporary →
          (require faults .renameAway fun slots =>
            { slots with target := none, backup := slots.target }).wp (fun result final =>
              final.current = slots.current ∧ final.temporary = slots.temporary ∧
                (result = .ok () → faults.fate .probeTarget = .fails ∨ final.target = none))
            middle := by
        intro middle sameTarget sameTemporary
        have same : middle.current = slots.current := by
          rw [current_eq_target (sameTarget.trans present), current_eq_target present]
        refine wp_require (fun _ => ⟨?_, sameTemporary, fun _ => .inr rfl⟩)
          (fun _ => ⟨same, sameTemporary, nofun⟩) (fun _ => ⟨same, sameTemporary, nofun⟩)
        rw [current_eq_backup rfl, current_eq_target present]
        exact sameTarget.trans present
      rw [andThen_ok, Option.isSome_some, if_pos rfl, wp_bind]
      have kept : ∀ final : Slots β, final.target = slots.target →
          final.current = slots.current := fun final sameTarget => by
        rw [current_eq_target (sameTarget.trans present), current_eq_target present]
      refine wp_probe (fun _ => ?_) (fun _ => renamed slots rfl rfl) (fun _ => ⟨rfl, rfl, nofun⟩)
      cases slots.backup with
      | none => exact renamed slots rfl rfl
      | some stale =>
          rw [andThen_ok, Option.isSome_some, if_pos rfl, wp_bind]
          refine wp_require (fun _ => ?_) (fun _ => ⟨rfl, rfl, nofun⟩) (fun _ => ⟨rfl, rfl, nofun⟩)
          exact renamed _ rfl rfl

/-- Moving in either puts the new content in place, or keeps what a reader finds. -/
theorem wp_moveIn (ready : slots.temporary = some content)
    (clear : faults.fate .renameIn = .fails → slots.target = none) :
    (moveIn faults).wp (OldOrNew slots.current content) slots := by
  unfold moveIn
  rw [wp_bind]
  refine wp_attempt (fun _ => ?_) (fun fails => ?_) (fun _ => .inl rfl)
  · -- the new file is in place, and its backup does not matter any more
    rw [andThen_ok, if_pos rfl, wp_bind]
    have placed : ∀ final : Slots β, final.target = slots.temporary →
        final.current = some content :=
      fun final sameTarget => current_eq_target (sameTarget.trans ready)
    refine wp_probe (fun _ => ?_) (fun _ => placed _ rfl) (fun _ => .inr (placed _ rfl))
    cases slots.backup with
    | none => exact placed _ rfl
    | some old =>
        rw [andThen_ok, Option.isSome_some, if_pos rfl, wp_bind]
        exact wp_attempt (fun _ => placed _ rfl) (fun _ => placed _ rfl)
          (fun _ => .inr (placed _ rfl))
  · -- the old content is in the backup, and stays there or is renamed back
    have missing := clear fails
    rw [andThen_ok, if_neg Bool.false_ne_true, wp_bind]
    have ended : ∀ middle : Slots β, middle.current = slots.current →
        wp (do
          let _ ← attempt faults .removeTemporary fun slots => { slots with temporary := none }
          throw (.failed .renameIn) : Program β Unit)
          (OldOrNew slots.current content) middle := by
      intro middle same
      rw [wp_bind]
      exact wp_attempt (fun _ => same) (fun _ => same) (fun _ => .inl same)
    refine wp_probe (fun _ => ?_) (fun _ => ended _ rfl) (fun _ => .inl rfl)
    cases old : slots.backup with
    | none => exact ended _ rfl
    | some kept =>
        rw [andThen_ok, Option.isSome_some, if_pos rfl, wp_bind]
        refine wp_attempt (fun _ => ended _ ?_) (fun _ => ended _ rfl) (fun _ => .inl rfl)
        rw [current_eq_backup missing, old]
        exact current_eq_target rfl

end Stages

variable {faults : Faults β}

/-- A replacement in which at most one call fails leaves the old content or the new one,
wherever it is stopped. -/
theorem wp_replaceFile (single : faults.Single) (slots : Slots β)
    (content : β) :
    (replaceFile faults content).wp (OldOrNew slots.current content) slots := by
  unfold replaceFile
  refine wp_bind_of wp_prepare ?_ ?_
  · rintro ⟨⟩ prepared ⟨sameTarget, sameBackup, ready⟩
    have same : prepared.current = slots.current := by
      rw [Slots.current, Slots.current, sameTarget, sameBackup]
    refine wp_bind_of wp_moveAway ?_ ?_
    · rintro ⟨⟩ moved ⟨sameMoved, sameTemporary, gone⟩
      have away : faults.fate .renameIn = .fails → moved.target = none := by
        intro fails
        refine (gone rfl).resolve_left fun unseen => ?_
        cases single _ _ fails unseen
      have arrived := wp_moveIn (sameTemporary.trans (ready rfl)) away
      rwa [sameMoved, same] at arrived
    · rintro error moved ⟨sameMoved, -, -⟩
      cases error with
      | failed call => exact sameMoved.trans same
      | stopped => exact .inl (sameMoved.trans same)
  · rintro error prepared ⟨sameTarget, sameBackup, -⟩
    have same : prepared.current = slots.current := by
      rw [Slots.current, Slots.current, sameTarget, sameBackup]
    cases error with
    | failed call => exact same
    | stopped => exact .inl same

theorem wp_replaceFileIn (single : faults.Single) (slots : Slots β)
    (content : β) :
    (replaceFileIn faults content).wp (OldOrNew slots.current content) slots := by
  unfold replaceFileIn
  rw [wp_bind]
  exact wp_require (fun _ => wp_replaceFile single slots content) (fun _ => rfl)
    (fun _ => .inl rfl)

section Saves

variable {δ γ : Type}

/-- A save of a run: the document, and what happens to its calls. -/
structure Save (δ β : Type) where
  document : δ
  faults : Faults β

/-- The files after a save, whose temporary file has a name of its own. -/
def Save.after (replace : Faults β → β → Program β Unit) (encode : δ → β) (save : Save δ β)
    (slots : Slots β) : Slots β :=
  ((replace save.faults (encode save.document)).exec { slots with temporary := none }).2

/-- Each save of a run leaves what is loaded, from the file and its backup, as it was, or
makes it the document that it saved. -/
def OldOrNewAlong (replace : Faults β → β → Program β Unit) (encode : δ → β)
    (load : Option β → Option β → γ) (shows : δ → γ) : List (Save δ β) → Slots β → Prop
  | [], _ => True
  | save :: rest, slots =>
      let after := save.after replace encode slots
      (load after.target after.backup = load slots.target slots.backup ∨
          load after.target after.backup = shows save.document) ∧
        OldOrNewAlong replace encode load shows rest after

/-- A loader that finds a document of a kind wherever a reader finds its content. -/
def Follows (encode : δ → β) (load : Option β → Option β → γ) (shows : δ → γ)
    (saved : δ → Prop) : Prop :=
  ∀ document, saved document → ∀ slots : Slots β, slots.current = some (encode document) →
    load slots.target slots.backup = shows document

/-- A reader finds a document of a kind, or nothing. -/
def Holds (encode : δ → β) (saved : δ → Prop) (slots : Slots β) : Prop :=
  ∃ found : Option δ, slots.current = found.map encode ∧ ∀ document ∈ found, saved document

variable {replace : Faults β → β → Program β Unit} {encode : δ → β}
  {load : Option β → Option β → γ} {shows : δ → γ} {saved : δ → Prop}

/-- What is found again is loaded again. -/
theorem Follows.load_eq (follows : Follows encode load shows saved) {before after : Slots β}
    (holds : Holds encode saved before) (same : after.current = before.current) :
    load after.target after.backup = load before.target before.backup := by
  obtain ⟨found, finds, good⟩ := holds
  cases found with
  | some document =>
      have isSaved := good document rfl
      rw [follows document isSaved before finds,
        follows document isSaved after (same.trans finds)]
  | none =>
      obtain ⟨noTarget, noBackup⟩ := Option.or_eq_none_iff.mp finds
      obtain ⟨goneTarget, goneBackup⟩ := Option.or_eq_none_iff.mp (same.trans finds)
      rw [noTarget, noBackup, goneTarget, goneBackup]

/-- A run of saves, each stopped anywhere or with one call that fails, loads after every one
of them what was loaded before it or what it saved. -/
theorem Follows.oldOrNewAlong (follows : Follows encode load shows saved)
    (rule : ∀ (faults : Faults β) (slots : Slots β) (content : β), faults.Single →
      (replace faults content).wp (OldOrNew slots.current content) slots)
    (saves : List (Save δ β))
    (single : ∀ save ∈ saves, saved save.document ∧ save.faults.Single) (slots : Slots β)
    (holds : Holds encode saved slots) :
    OldOrNewAlong replace encode load shows saves slots := by
  induction saves generalizing slots with
  | nil => trivial
  | cons save rest ih =>
      obtain ⟨isSaved, one⟩ := single save List.mem_cons_self
      have ended := rule save.faults { slots with temporary := none } (encode save.document) one
      have either : (save.after replace encode slots).current = slots.current ∨
          (save.after replace encode slots).current = some (encode save.document) := by
        unfold Save.after
        unfold wp at ended
        generalize (replace save.faults (encode save.document)).exec
          { slots with temporary := none } = ran at ended
        obtain ⟨result, final⟩ := ran
        cases result with
        | ok => exact .inr ended
        | error halt =>
            cases halt with
            | failed call => exact .inl ended
            | stopped => exact ended
      have later := fun other member => single other (List.mem_cons_of_mem save member)
      rcases either with same | fresh
      · refine ⟨.inl (follows.load_eq holds same), ih later _ ?_⟩
        obtain ⟨found, finds, good⟩ := holds
        exact ⟨found, same.trans finds, good⟩
      · refine ⟨.inr (follows _ isSaved _ fresh), ih later _ ?_⟩
        refine ⟨some save.document, fresh, fun document isDocument => ?_⟩
        rw [← Option.some_inj.mp isDocument]
        exact isSaved

end Saves

/-- The process is never stopped. -/
def Faults.Running (faults : Faults β) : Prop :=
  ∀ call, faults.fate call ≠ .stops

/-- What a replacement that failed leaves of the file and its backup: both as they were, the
file without a backup, or the backup in the place of a file that was missing. -/
inductive FailedLeft (faults : Faults β) (slots final : Slots β) : Prop
  | untouched (target : final.target = slots.target) (backup : final.backup = slots.backup)
  | uncovered (fails : faults.fate .renameAway = .fails ∨ faults.fate .renameIn = .fails)
      (present : slots.target ≠ none) (target : final.target = slots.target)
      (backup : final.backup = none)
  | recovered (missing : slots.target = none) (target : final.target = slots.backup)
      (backup : final.backup = none)

/-- The new content in place, or what a failure leaves. -/
def PlacedOrLeft (faults : Faults β) (slots : Slots β) (content : β)
    (result : Except Halt Unit) (final : Slots β) : Prop :=
  match result with
  | .ok () => final.target = some content
  | .error _ => FailedLeft faults slots final

section Failing

variable {faults : Faults β} {slots : Slots β} {content : β}

/-- Where the files are once the old one made way. -/
inductive MovedAway (faults : Faults β) (slots final : Slots β) : Prop
  | unseen (fails : faults.fate .probeTarget = .fails) (target : final.target = slots.target)
      (backup : final.backup = slots.backup)
  | absent (missing : slots.target = none) (target : final.target = none)
      (backup : final.backup = slots.backup)
  | away (present : slots.target ≠ none) (target : final.target = none)
      (backup : final.backup = slots.target)

theorem wp_moveAway_running (running : faults.Running) :
    (moveAway faults).wp (fun result final => final.temporary = slots.temporary ∧
      match result with
      | .ok () => MovedAway faults slots final
      | .error _ => FailedLeft faults slots final) slots := by
  unfold moveAway
  rw [wp_bind]
  refine wp_probe (fun _ => ?_) (fun fails => ⟨rfl, .unseen fails rfl rfl⟩)
    (fun stops => absurd stops (running _))
  cases present : slots.target with
  | none => exact ⟨rfl, .absent present present rfl⟩
  | some old =>
      have there : slots.target ≠ none := fun missing => nomatch present.symm.trans missing
      -- the backup is as it was, or has been removed
      have renamed : ∀ middle : Slots β, middle.target = slots.target →
          middle.temporary = slots.temporary →
          middle.backup = slots.backup ∨ middle.backup = none →
          (require faults .renameAway fun slots =>
            { slots with target := none, backup := slots.target }).wp (fun result final =>
              final.temporary = slots.temporary ∧
                match result with
                | .ok () => MovedAway faults slots final
                | .error _ => FailedLeft faults slots final) middle := by
        intro middle sameTarget sameTemporary backup
        refine wp_require (fun _ => ⟨sameTemporary, .away there rfl sameTarget⟩)
          (fun fails => ⟨sameTemporary, ?_⟩) (fun stops => absurd stops (running _))
        rcases backup with kept | removed
        · exact .untouched sameTarget kept
        · exact .uncovered (.inl fails) there sameTarget removed
      rw [andThen_ok, Option.isSome_some, if_pos rfl, wp_bind]
      refine wp_probe (fun _ => ?_) (fun _ => renamed slots rfl rfl (.inl rfl))
        (fun stops => absurd stops (running _))
      cases slots.backup with
      | none => exact renamed slots rfl rfl (.inl rfl)
      | some stale =>
          rw [andThen_ok, Option.isSome_some, if_pos rfl, wp_bind]
          refine wp_require (fun _ => renamed _ rfl rfl (.inr rfl))
            (fun _ => ⟨rfl, .untouched rfl rfl⟩) (fun stops => absurd stops (running _))

/-- Where the files are once the new one could not be moved in. -/
theorem FailedLeft.of_restored {moved final : Slots β} (single : faults.Single)
    (fails : faults.fate .renameIn = .fails) (away : MovedAway faults slots moved)
    (restored : (moved.backup ≠ none ∧ final.target = moved.backup ∧ final.backup = none) ∨
      (moved.backup = none ∧ final.target = moved.target ∧ final.backup = none)) :
    FailedLeft faults slots final := by
  cases away with
  | unseen unseen => cases single _ _ fails unseen
  | absent missing target backup =>
      rcases restored with ⟨-, sameTarget, gone⟩ | ⟨empty, sameTarget, gone⟩
      · exact .recovered missing (sameTarget.trans backup) gone
      · exact .untouched (sameTarget.trans (target.trans missing.symm))
          (gone.trans (empty.symm.trans backup))
  | away present target backup =>
      rcases restored with ⟨-, sameTarget, gone⟩ | ⟨empty, -, -⟩
      · exact .uncovered (.inr fails) present (sameTarget.trans backup) gone
      · exact absurd (backup.symm.trans empty) present

theorem wp_moveIn_running (single : faults.Single) (running : faults.Running)
    {moved : Slots β} (ready : moved.temporary = some content)
    (away : MovedAway faults slots moved) :
    (moveIn faults).wp (PlacedOrLeft faults slots content) moved := by
  unfold moveIn
  rw [wp_bind]
  refine wp_attempt (fun _ => ?_) (fun fails => ?_) (fun stops => absurd stops (running _))
  · rw [andThen_ok, if_pos rfl, wp_bind]
    refine wp_probe (fun _ => ?_) (fun _ => ready) (fun stops => absurd stops (running _))
    cases moved.backup with
    | none => exact ready
    | some old =>
        rw [andThen_ok, Option.isSome_some, if_pos rfl, wp_bind]
        exact wp_attempt (fun _ => ready) (fun _ => ready)
          (fun stops => absurd stops (running _))
  · -- one call has failed, so the ones that bring the backup back work
    have works : ∀ call, call ≠ .renameIn → faults.fate call ≠ .fails :=
      fun call other failing => other (single _ _ failing fails)
    have ended : ∀ middle : Slots β, FailedLeft faults slots
          { middle with temporary := none } →
        wp (do
          let _ ← attempt faults .removeTemporary fun slots => { slots with temporary := none }
          throw (.failed .renameIn) : Program β Unit)
          (PlacedOrLeft faults slots content) middle := by
      intro middle left
      rw [wp_bind]
      exact wp_attempt (fun _ => left) (fun failing => absurd failing (works _ (by decide)))
        (fun stops => absurd stops (running _))
    rw [andThen_ok, if_neg Bool.false_ne_true, wp_bind]
    refine wp_probe (fun _ => ?_) (fun failing => absurd failing (works _ (by decide)))
      (fun stops => absurd stops (running _))
    cases old : moved.backup with
    | none =>
        exact ended _ (.of_restored single fails away (.inr ⟨old, rfl, old⟩))
    | some kept =>
        have there : moved.backup ≠ none := fun missing => nomatch old.symm.trans missing
        rw [andThen_ok, Option.isSome_some, if_pos rfl, wp_bind]
        refine wp_attempt (fun _ => ended _ ?_) (fun failing => absurd failing (works _ (by decide)))
          (fun stops => absurd stops (running _))
        exact .of_restored single fails away (.inl ⟨there, rfl, rfl⟩)

end Failing

/-- A replacement in which at most one call fails, and which is not stopped. -/
theorem wp_replaceFile_running (single : faults.Single)
    (running : faults.Running) (slots : Slots β) (content : β) :
    (replaceFile faults content).wp (PlacedOrLeft faults slots content) slots := by
  unfold replaceFile
  refine wp_bind_of wp_prepare ?_ ?_
  · rintro ⟨⟩ prepared ⟨sameTarget, sameBackup, ready⟩
    have left : ∀ {final}, FailedLeft faults prepared final → FailedLeft faults slots final := by
      intro final left
      cases left with
      | untouched target backup =>
          exact .untouched (target.trans sameTarget) (backup.trans sameBackup)
      | uncovered fails present target backup =>
          exact .uncovered fails (sameTarget ▸ present) (target.trans sameTarget) backup
      | recovered missing target backup =>
          exact .recovered (sameTarget ▸ missing) (target.trans sameBackup) backup
    refine wp_bind_of (wp_moveAway_running running) ?_ ?_
    · rintro ⟨⟩ moved ⟨sameTemporary, away⟩
      refine wp_mono
        (wp_moveIn_running single running (sameTemporary.trans (ready rfl)) away) ?_
      intro result final ended
      cases result with
      | ok => exact ended
      | error halt => exact left ended
    · rintro halt moved ⟨-, ended⟩
      exact left ended
  · rintro halt prepared ⟨sameTarget, sameBackup, -⟩
    exact .untouched sameTarget sameBackup

theorem wp_replaceFileIn_running (single : faults.Single)
    (running : faults.Running) (slots : Slots β) (content : β) :
    (replaceFileIn faults content).wp (PlacedOrLeft faults slots content) slots := by
  unfold replaceFileIn
  rw [wp_bind]
  exact wp_require (fun _ => wp_replaceFile_running single running slots content)
    (fun _ => .untouched rfl rfl) (fun stops => absurd stops (running _))

/-- The old file makes way. -/
def MovesAway (faults : Faults β) (slots : Slots β) : Prop :=
  faults.fate .probeTarget = .works ∧ faults.fate .probeBackup ≠ .stops ∧
    (slots.backup ≠ none → faults.fate .probeBackup = .works →
      faults.fate .removeBackup = .works) ∧
    faults.fate .renameAway = .works

/-- The process stops before the new file is in place and the old one is back. -/
def StopsBetween (faults : Faults β) : Prop :=
  faults.fate .renameIn = .stops ∨
    (faults.fate .renameIn = .fails ∧
      (faults.fate .probeRecovery = .stops ∨ faults.fate .renameBack = .stops))

/-- The process stops while there is only the backup. -/
def StopsAway (faults : Faults β) (slots : Slots β) : Prop :=
  faults.fate .createTemporary = .works ∧ faults.fate .writeTemporary = .works ∧
    MovesAway faults slots ∧ StopsBetween faults

section Target

variable {faults : Faults β} {slots : Slots β} {old content : β}

theorem wp_prepare_iff : (prepare faults content).wp (fun result _ => result = .ok () ↔
      faults.fate .createTemporary = .works ∧ faults.fate .writeTemporary = .works) slots := by
  unfold prepare
  rw [wp_bind]
  refine wp_require (fun created => ?_) (fun fails => ?_) (fun stops => ?_)
  · rw [andThen_ok, wp_bind]
    unfold write
    cases fate : faults.fate .writeTemporary with
    | works => exact ⟨fun _ => ⟨created, rfl⟩, fun _ => rfl⟩
    | stops => exact ⟨nofun, nofun⟩
    | fails =>
        rw [wp_pure, andThen_ok, if_neg Bool.false_ne_true, wp_bind]
        exact wp_attempt (fun _ => ⟨nofun, nofun⟩) (fun _ => ⟨nofun, nofun⟩)
          (fun _ => ⟨nofun, nofun⟩)
  · exact ⟨nofun, fun works => nomatch fails.symm.trans works.1⟩
  · exact ⟨nofun, fun works => nomatch stops.symm.trans works.1⟩

/-- The file is gone after it made way, and is still there when it did not. -/
theorem wp_moveAway_target (present : slots.target = some old) :
    (moveAway faults).wp (fun result final => final.temporary = slots.temporary ∧
      ((result = .ok () ∧ MovesAway faults slots ∧ final.target = none ∧
          final.backup = some old) ∨
        (¬ MovesAway faults slots ∧ final.target = some old ∧
          (result = .ok () → faults.fate .probeTarget = .fails)))) slots := by
  unfold moveAway
  rw [wp_bind]
  refine wp_probe (fun seen => ?_) (fun fails => ⟨rfl, .inr ⟨?_, present, fun _ => fails⟩⟩)
    (fun stops => ⟨rfl, .inr ⟨?_, present, nofun⟩⟩)
  · rw [andThen_ok, present, Option.isSome_some, if_pos rfl, wp_bind]
    -- from here on only the backup and the rename decide
    have renamed : ∀ middle : Slots β, middle.target = some old →
        middle.temporary = slots.temporary → faults.fate .probeBackup ≠ .stops →
        (slots.backup ≠ none → faults.fate .probeBackup = .works →
          faults.fate .removeBackup = .works) →
        (require faults .renameAway fun slots =>
          { slots with target := none, backup := slots.target }).wp (fun result final =>
            final.temporary = slots.temporary ∧
            ((result = .ok () ∧ MovesAway faults slots ∧ final.target = none ∧
                final.backup = some old) ∨
              (¬ MovesAway faults slots ∧ final.target = some old ∧
                (result = .ok () → faults.fate .probeTarget = .fails)))) middle := by
      intro middle isOld sameTemporary probes clears
      refine wp_require (fun works => ⟨sameTemporary, .inl ⟨rfl, ?_, rfl, isOld⟩⟩)
        (fun fails => ⟨sameTemporary, .inr ⟨?_, isOld, nofun⟩⟩)
        (fun stops => ⟨sameTemporary, .inr ⟨?_, isOld, nofun⟩⟩)
      · exact ⟨seen, probes, clears, works⟩
      · exact fun moves => nomatch fails.symm.trans moves.2.2.2
      · exact fun moves => nomatch stops.symm.trans moves.2.2.2
    refine wp_probe (fun probed => ?_) (fun fails => ?_)
      (fun stops => ⟨rfl, .inr ⟨fun moves => moves.2.1 stops, present, nofun⟩⟩)
    · cases backup : slots.backup with
      | none =>
          exact renamed slots present rfl (fun stops => nomatch probed.symm.trans stops)
            (fun there => absurd backup there)
      | some stale =>
          rw [andThen_ok, Option.isSome_some, if_pos rfl, wp_bind]
          have there : slots.backup ≠ none := fun missing => nomatch backup.symm.trans missing
          refine wp_require (fun removed => ?_) (fun fails => ⟨rfl, .inr ⟨?_, present, nofun⟩⟩)
            (fun stops => ⟨rfl, .inr ⟨?_, present, nofun⟩⟩)
          · exact renamed _ present rfl (fun stops => nomatch probed.symm.trans stops)
              (fun _ _ => removed)
          · exact fun moves => nomatch fails.symm.trans (moves.2.2.1 there probed)
          · exact fun moves => nomatch stops.symm.trans (moves.2.2.1 there probed)
    · exact renamed slots present rfl (fun stops => nomatch fails.symm.trans stops)
        (fun _ works => nomatch fails.symm.trans works)
  · exact fun moves => nomatch fails.symm.trans moves.1
  · exact fun moves => nomatch stops.symm.trans moves.1

/-- With the old file in the backup alone, the file is gone exactly when the process stops. -/
theorem wp_moveIn_away (single : faults.Single) (ready : slots.temporary = some content)
    (gone : slots.target = none) (backup : slots.backup = some old) :
    (moveIn faults).wp (fun _ final => (StopsBetween faults ∧ final.target = none) ∨
      (¬ StopsBetween faults ∧
        (final.target = some old ∨ final.target = some content))) slots := by
  unfold moveIn
  rw [wp_bind]
  refine wp_attempt (fun works => ?_) (fun fails => ?_) (fun stops => .inl ⟨.inl stops, gone⟩)
  · have goesOn : ¬ StopsBetween faults := by
      rintro (stops | ⟨fails, -⟩)
      · exact nomatch works.symm.trans stops
      · exact nomatch works.symm.trans fails
    have placed : ∀ final : Slots β, final.target = slots.temporary →
        (StopsBetween faults ∧ final.target = none) ∨
          (¬ StopsBetween faults ∧
            (final.target = some old ∨ final.target = some content)) :=
      fun final sameTarget => .inr ⟨goesOn, .inr (sameTarget.trans ready)⟩
    rw [andThen_ok, if_pos rfl, wp_bind]
    refine wp_probe (fun _ => ?_) (fun _ => placed _ rfl) (fun _ => placed _ rfl)
    cases slots.backup with
    | none => exact placed _ rfl
    | some kept =>
        rw [andThen_ok, Option.isSome_some, if_pos rfl, wp_bind]
        exact wp_attempt (fun _ => placed _ rfl) (fun _ => placed _ rfl) (fun _ => placed _ rfl)
  · have works : ∀ call, call ≠ .renameIn → faults.fate call ≠ .fails :=
      fun call other failing => other (single _ _ failing fails)
    rw [andThen_ok, if_neg Bool.false_ne_true, wp_bind]
    refine wp_probe (fun probed => ?_) (fun failing => absurd failing (works _ (by decide)))
      (fun stops => .inl ⟨.inr ⟨fails, .inl stops⟩, gone⟩)
    rw [andThen_ok, backup, Option.isSome_some, if_pos rfl, wp_bind]
    refine wp_attempt (fun renamed => ?_) (fun failing => absurd failing (works _ (by decide)))
      (fun stops => .inl ⟨.inr ⟨fails, .inr stops⟩, gone⟩)
    have back : ¬ StopsBetween faults := by
      rintro (stops | ⟨-, stops | stops⟩)
      · exact nomatch fails.symm.trans stops
      · exact nomatch probed.symm.trans stops
      · exact nomatch renamed.symm.trans stops
    rw [andThen_ok, wp_bind]
    exact wp_attempt (fun _ => .inr ⟨back, .inl backup⟩) (fun _ => .inr ⟨back, .inl backup⟩)
      (fun _ => .inr ⟨back, .inl backup⟩)

/-- With the old file in place still, it stays or makes room for the new one. -/
theorem wp_moveIn_there (works : faults.fate .renameIn ≠ .fails)
    (ready : slots.temporary = some content) (there : slots.target = some old) :
    (moveIn faults).wp (fun _ final =>
      final.target = some old ∨ final.target = some content) slots := by
  unfold moveIn
  rw [wp_bind]
  refine wp_attempt (fun _ => ?_) (fun fails => absurd fails works) (fun _ => .inl there)
  rw [andThen_ok, if_pos rfl, wp_bind]
  refine wp_probe (fun _ => ?_) (fun _ => .inr ready) (fun _ => .inr ready)
  cases slots.backup with
  | none => exact .inr ready
  | some kept =>
      rw [andThen_ok, Option.isSome_some, if_pos rfl, wp_bind]
      exact wp_attempt (fun _ => .inr ready) (fun _ => .inr ready) (fun _ => .inr ready)

end Target

/-- A replacement in which at most one call fails leaves no file under the name exactly when
the process stops between the two renames, and otherwise the old content or the new. -/
theorem wp_replaceFile_target (single : faults.Single) (slots : Slots β)
    {old : β} (present : slots.target = some old) (content : β) :
    (replaceFile faults content).wp (fun _ final =>
      (StopsAway faults slots ∧ final.target = none) ∨
        (¬ StopsAway faults slots ∧
          (final.target = some old ∨ final.target = some content))) slots := by
  unfold replaceFile
  refine wp_bind_of (wp_and wp_prepare wp_prepare_iff) ?_ ?_
  · rintro ⟨⟩ prepared ⟨⟨sameTarget, sameBackup, ready⟩, written⟩
    obtain ⟨created, wrote⟩ := written.mp rfl
    have alike : MovesAway faults prepared ↔ MovesAway faults slots := by
      unfold MovesAway
      rw [sameBackup]
    refine wp_bind_of (wp_moveAway_target (sameTarget.trans present)) ?_ ?_
    · rintro ⟨⟩ moved ⟨sameTemporary, ⟨-, moves, gone, backup⟩ | ⟨stays, there, unseen⟩⟩
      · refine wp_mono
          (wp_moveIn_away single (sameTemporary.trans (ready rfl)) gone backup) ?_
        rintro result final (⟨between, lost⟩ | ⟨goesOn, kept⟩)
        · exact .inl ⟨⟨created, wrote, alike.mp moves, between⟩, lost⟩
        · exact .inr ⟨fun stops => goesOn stops.2.2.2, kept⟩
      · have works : faults.fate .renameIn ≠ .fails :=
          fun fails => nomatch single _ _ fails (unseen rfl)
        refine wp_mono
          (wp_moveIn_there works (sameTemporary.trans (ready rfl)) there) ?_
        exact fun result final kept => .inr ⟨fun stops => stays (alike.mpr stops.2.2.1), kept⟩
    · rintro error moved ⟨-, ⟨impossible, -⟩ | ⟨stays, there, -⟩⟩
      · cases impossible
      · exact .inr ⟨fun stops => stays (alike.mpr stops.2.2.1), .inl there⟩
  · rintro error prepared ⟨⟨sameTarget, -, -⟩, written⟩
    refine .inr ⟨fun stops => ?_, .inl (sameTarget.trans present)⟩
    exact nomatch written.mpr ⟨stops.1, stops.2.1⟩

section Works

variable {faults : Faults β}

theorem exec_attempt_works (works : faults.fate call = .works)
    (effect : Slots β → Slots β) (slots : Slots β) :
    (attempt faults call effect).exec slots = (.ok true, effect slots) := by
  unfold attempt
  rw [works]
  rfl

theorem exec_require_works (works : faults.fate call = .works)
    (effect : Slots β → Slots β) (slots : Slots β) :
    (require faults call effect).exec slots = (.ok (), effect slots) := by
  unfold require
  rw [exec_bind_of_ok (exec_attempt_works works effect slots)]
  rfl

theorem exec_probe_works (works : faults.fate call = .works)
    (file : Slots β → Option β) (slots : Slots β) :
    (probe faults call file).exec slots = (.ok (file slots).isSome, slots) := by
  unfold probe
  rw [works]
  rfl

theorem exec_prepare_works (works : ∀ call, faults.fate call = .works) (content : β)
    (slots : Slots β) :
    (prepare faults content).exec slots = (.ok (), { slots with temporary := some content }) := by
  unfold prepare write
  rw [exec_bind_of_ok (exec_require_works (works _) _ _), works]
  rfl

theorem exec_moveAway_works (works : ∀ call, faults.fate call = .works) (slots : Slots β) :
    (moveAway faults).exec slots =
      (.ok (), ⟨none, slots.target.or slots.backup, slots.temporary⟩) := by
  unfold moveAway
  rw [exec_bind_of_ok (exec_probe_works (works _) _ _)]
  obtain ⟨target, backup, temporary⟩ := slots
  cases target with
  | none => rfl
  | some old =>
      dsimp only [Option.isSome_some]
      rw [if_pos rfl, exec_bind_of_ok (exec_probe_works (works _) _ _)]
      cases backup with
      | none => exact exec_require_works (works _) _ _
      | some stale =>
          dsimp only [Option.isSome_some]
          rw [if_pos rfl, exec_bind_of_ok (exec_require_works (works _) _ _)]
          exact exec_require_works (works _) _ _

theorem exec_moveIn_works (works : ∀ call, faults.fate call = .works) (slots : Slots β) :
    (moveIn faults).exec slots = (.ok (), ⟨slots.temporary, none, none⟩) := by
  unfold moveIn
  rw [exec_bind_of_ok (exec_attempt_works (works _) _ _), if_pos rfl,
    exec_bind_of_ok (exec_probe_works (works _) _ _)]
  obtain ⟨target, backup, temporary⟩ := slots
  cases backup with
  | none => rfl
  | some old =>
      dsimp only [Option.isSome_some]
      rw [if_pos rfl, exec_bind_of_ok (exec_attempt_works (works _) _ _)]
      rfl

/-- A replacement in which every call works puts the new content in place and leaves nothing
beside it. -/
theorem exec_replaceFile_works (works : ∀ call, faults.fate call = .works) (content : β)
    (slots : Slots β) :
    (replaceFile faults content).exec slots = (.ok (), ⟨some content, none, none⟩) := by
  unfold replaceFile
  rw [exec_bind_of_ok (exec_prepare_works works content slots),
    exec_bind_of_ok (exec_moveAway_works works _)]
  exact exec_moveIn_works works _

end Works

/-- Everything that lies in the three files has a property. -/
structure Slots.All (holds : β → Prop) (slots : Slots β) : Prop where
  target : ∀ content ∈ slots.target, holds content
  backup : ∀ content ∈ slots.backup, holds content
  temporary : ∀ content ∈ slots.temporary, holds content

/-- Steps that keep a property of everything that lies in the files. -/
def KeepsAll (holds : β → Prop) (before after : Slots β) : Prop :=
  before.All holds → after.All holds

section KeepsAll

variable {faults : Faults β} {holds : β → Prop}

instance : Std.Refl (KeepsAll holds) := ⟨fun _ all => all⟩

instance : IsTrans (Slots β) (KeepsAll holds) :=
  ⟨fun _ _ _ first second all => second (first all)⟩

theorem preserves_attempt (keeps : ∀ slots, KeepsAll holds slots (effect slots)) :
    (attempt faults call effect).Preserves (KeepsAll holds) :=
  .of_wp fun slots => wp_attempt (fun _ => keeps slots) (fun _ all => all) (fun _ all => all)

theorem preserves_require (keeps : ∀ slots, KeepsAll holds slots (effect slots)) :
    (require faults call effect).Preserves (KeepsAll holds) :=
  .of_wp fun slots => wp_require (fun _ => keeps slots) (fun _ all => all) (fun _ all => all)

theorem preserves_probe {file : Slots β → Option β} :
    (probe faults call file).Preserves (KeepsAll holds) :=
  .of_wp fun _ => wp_probe (fun _ all => all) (fun _ all => all) (fun _ all => all)

theorem preserves_moveAway : (moveAway faults).Preserves (KeepsAll holds) := by
  unfold moveAway
  have away : (require faults .renameAway fun slots =>
      { slots with target := none, backup := slots.target }).Preserves (KeepsAll holds) :=
    preserves_require fun _ all => ⟨nofun, all.target, all.temporary⟩
  refine .bind preserves_probe fun seen => ?_
  split
  · refine .bind preserves_probe fun stale => ?_
    split
    · exact .bind (preserves_require fun _ all => ⟨all.target, nofun, all.temporary⟩)
        fun _ => away
    · exact away
  · exact .pure _

theorem preserves_moveIn : (moveIn faults).Preserves (KeepsAll holds) := by
  unfold moveIn
  have ends : (do
      let _ ← attempt faults .removeTemporary fun slots => { slots with temporary := none }
      throw (.failed .renameIn) : Program β Unit).Preserves (KeepsAll holds) :=
    .bind (preserves_attempt fun _ all => ⟨all.target, all.backup, nofun⟩) fun _ => .throw _
  refine .bind (preserves_attempt fun _ all => ⟨all.temporary, all.backup, nofun⟩) fun moved => ?_
  split
  · refine .bind preserves_probe fun leftover => ?_
    split
    · exact .bind (preserves_attempt fun _ all => ⟨all.target, nofun, all.temporary⟩)
        fun _ => .pure _
    · exact .pure _
  · refine .bind preserves_probe fun saved => ?_
    split
    · exact .bind (preserves_attempt fun _ all => ⟨all.backup, nofun, all.temporary⟩)
        fun _ => ends
    · exact ends

/-- However its calls go, a replacement leaves in the file and in its backup what lay there or
the new content. -/
theorem wp_replaceFile_all (faults : Faults β) (slots : Slots β) {content : β} (new : holds content)
    (target : ∀ old ∈ slots.target, holds old) (backup : ∀ old ∈ slots.backup, holds old) :
    (replaceFile faults content).wp (fun _ final =>
      (∀ left ∈ final.target, holds left) ∧ ∀ left ∈ final.backup, holds left) slots := by
  unfold replaceFile
  refine wp_bind_of wp_prepare ?_ ?_
  · rintro ⟨⟩ prepared ⟨sameTarget, sameBackup, ready⟩
    have all : prepared.All holds := by
      refine ⟨sameTarget ▸ target, sameBackup ▸ backup, ?_⟩
      rw [ready rfl]
      rintro _ ⟨⟩
      exact new
    have moves : ((do moveAway faults; moveIn faults) : Program β Unit).Preserves
        (KeepsAll holds) := .bind preserves_moveAway fun _ => preserves_moveIn
    exact ⟨(moves prepared all).target, (moves prepared all).backup⟩
  · rintro error prepared ⟨sameTarget, sameBackup, -⟩
    exact ⟨sameTarget ▸ target, sameBackup ▸ backup⟩

end KeepsAll

end ReplaceFile
end YunXi
