import YunXi.Program.ReplaceFile
import YunXi.Protocol.Authority
import YunXi.Settings.Writes

/-!
# Operations of a settings store

The entry points of a store with the calls to the file system that a write makes, of which
one may fail.  Memory and disk move together, except where the document on disk cannot be
used and its backup can: a rename that fails has lost the backup then.
-/

namespace YunXi
namespace Settings
namespace CapabilitySettingsStore

open Protocol (rsplitOnce)
open ReplaceFile (Call Faults Halt Slots replaceFileIn)

/-- What happens to the calls of one write: the one that fails, what the system says of it,
and the name of the temporary file. -/
structure WriteCalls where
  failing : Option Call
  source : String
  temporary : String

def WriteCalls.faults (calls : WriteCalls) : Faults ByteArray where
  fate call := if calls.failing = some call then .fails else .works
  torn := ByteArray.empty

theorem WriteCalls.single (calls : WriteCalls) : calls.faults.Single := by
  intro first second firstFails secondFails
  unfold WriteCalls.faults at firstFails secondFails
  dsimp only at firstFails secondFails
  split at firstFails
  case isFalse => cases firstFails
  case isTrue isFirst =>
    split at secondFails
    case isFalse => cases secondFails
    case isTrue isSecond => exact Option.some_inj.mp (isFirst.symm.trans isSecond)

theorem WriteCalls.running (calls : WriteCalls) : calls.faults.Running := by
  intro call stops
  unfold WriteCalls.faults at stops
  dsimp only at stops
  split at stops <;> cases stops

/-- `Path::parent` of a path to a file. -/
def parentPath (path : String) : String :=
  match rsplitOnce '/' path.toList with
  | some ([], _) => "/"
  | some (before, _) => String.ofList before
  | none => ""

/-- The file that an error of `replace_file` names. -/
def failedPath (path temporary : String) : Halt → String
  | .failed .createDirectory => parentPath path
  | .failed .createTemporary | .failed .writeTemporary => temporary
  | .failed .removeBackup => backupPath path
  | _ => path

/-- `replace_file`. -/
def WriteCalls.writer (calls : WriteCalls) : Writer := fun path content disk =>
  match (replaceFileIn calls.faults content).exec ⟨disk.main, disk.backup, none⟩ with
  | (.ok (), left) => (.ok (), ⟨left.target, left.backup⟩)
  | (.error halt, left) =>
      (.error (.io (failedPath path calls.temporary halt) calls.source),
        ⟨left.target, left.backup⟩)

/-- An operation that expects another revision is refused. -/
theorem perform_stale {write : Writer} (operation : StoreOperation) {expected : UInt64}
    {store : CapabilitySettingsStore} (stale : expected ≠ store.revision)
    (disk : SettingsDisk) :
    (perform write operation (some expected)).exec (store, disk) =
      (.error (.conflict expected store.revision), store, disk) := by
  have refused : (checkRevision (some expected)).exec (store, disk) =
      (.error (.conflict expected store.revision), store, disk) := by
    unfold checkRevision
    rw [Fallible.exec_get_bind]
    simp only [Fallible.throwIf, if_pos stale]
    rfl
  cases operation <;> exact Fallible.exec_bind_of_error refused

end CapabilitySettingsStore
end Settings
end YunXi
