import YunXi.ToolPatch.Apply

/-!
# What one change does to the files

A change that is made puts its new content at its target and nothing else.  A change whose
call fails leaves its target alone, except that a failed rename finds it already removed.
-/

namespace YunXi
namespace ToolPatch

open Fallible
open FileTree

/-- What a target holds: nothing, or a file. -/
def holds (content : Option ByteArray) : Option (Node String ByteArray) :=
  content.map .file

@[simp] theorem holds_none : holds none = none := rfl

@[simp] theorem holds_some (content : ByteArray) : holds (some content) = some (.file content) :=
  rfl

theorem holds_leaf (content : Option ByteArray) : holds content ≠ some .directory := by
  cases content <;> simp

theorem holds_notWay (content : Option ByteArray) (node : Node String ByteArray)
    (held : holds content = some node) : node.isWay = false := by
  cases content with
  | none => cases held
  | some content =>
      cases held
      rfl

/-- The files once a change has been made. -/
def PlannedChange.after (plan : PlannedChange) (files : Files) : Files :=
  files.put plan.target (holds plan.content)

/-- The temporary files that the clock may give a target. -/
def PlannedChange.temporary (plan : PlannedChange) (disk : Disk) (reading : Nat) : Place :=
  temporaryPath plan.target (disk.clock reading)

/-- Temporary files are hidden. -/
theorem temporaryName_ne {stamp : Nat} {name : String}
    (shown : name.toList.head? ≠ some '.') : temporaryName stamp ≠ name := by
  have dot : ".yunxi-next-patch-".toList.head? = some '.' := by decide
  have head : (temporaryName stamp).toList.head? = some '.' :=
    Strings.head?_toList_append _ (Strings.head?_toList_append _ dot)
  refine Strings.ne_of_head ?_
  rw [head]
  exact shown.symm

/-- A change can be made: its target may change, a file to delete exists, and no stamp of
the clock names a file in its directory, nor its target. -/
structure PlannedChange.Ready (plan : PlannedChange) (disk : Disk) (files : Files) : Prop where
  settable : files.Settable plan.target
  present : plan.content = none → files.node plan.target ≠ none
  unused : ∀ reading, files.node (plan.temporary disk reading) = none
  differs : ∀ reading, plan.temporary disk reading ≠ plan.target

variable {files : Files}

variable {struck : Fault}

section Calls

variable {disk : Disk} {operation : Nat → Files → Except FileError Files}

theorem exec_call_ok (succeeds : operation disk.links disk.files = .ok files) :
    (call operation).exec disk = (.ok (), { disk with files }) := by
  rw [call, exec_ofFunction, succeeds]

theorem exec_call_error {error : FileError}
    (fails : operation disk.links disk.files = .error error) :
    (call operation).exec disk = (.error error, disk) := by
  rw [call, exec_ofFunction, fails]

variable {fault : Option Fault} {target : Place} {step : ApplyStep}
  {damage : Option ByteArray → Files → Files}

/-- A call that the fault does not strike is a call. -/
theorem stepCall_missed (missed : ∀ struck, fault = some struck → ¬ struck.strikes target step) :
    stepCall fault target step damage operation = call operation := by
  cases fault with
  | none => rfl
  | some struck => exact if_neg (missed struck rfl)

theorem exec_stepCall_struck (strikes : struck.strikes target step) :
    (stepCall (some struck) target step damage operation).exec disk =
      (.error struck.error, { disk with files := damage struck.left disk.files }) := by
  rw [stepCall, if_pos strikes, exec_bind, exec_modify]
  rfl

/-- A fault strikes a call or misses it. -/
theorem struck_or_missed (fault : Option Fault) (target : Place) (step : ApplyStep) :
    (∃ struck, fault = some struck ∧ struck.strikes target step) ∨
      ∀ struck, fault = some struck → ¬ struck.strikes target step := by
  cases fault with
  | none => exact .inr fun _ impossible => by cases impossible
  | some struck =>
      by_cases strikes : struck.strikes target step
      · exact .inl ⟨struck, rfl, strikes⟩
      · right
        rintro _ ⟨⟩
        exact strikes

theorem exec_now : now.exec disk =
    (.ok (disk.clock disk.readings), { disk with readings := disk.readings + 1 }) := rfl

end Calls

variable {other : Place}

section Change

variable {plan : PlannedChange} {disk : Disk}

namespace PlannedChange.Ready

/-- The temporary file lies beside the target. -/
theorem temporary_settable (ready : plan.Ready disk disk.files) (reading : Nat) :
    disk.files.Settable (plan.temporary disk reading) := by
  constructor
  · rw [temporary, temporaryPath, List.dropLast_concat]
    exact ready.settable.1
  · rw [isDirectory_eq_false, ready.unused reading]
    simp

theorem write_temporary (ready : plan.Ready disk disk.files) (reading : Nat)
    (content : ByteArray) :
    disk.files.write disk.links (plan.temporary disk reading) content =
      .ok (disk.files.put (plan.temporary disk reading) (some (.file content))) := by
  apply write_of_settable (ready.temporary_settable reading)
  rw [ready.unused reading]
  simp

end PlannedChange.Ready

/-- A path to a settable place that leads somewhere starts with a node there. -/
theorem node_ne_none_of_pathExists {links : Nat} {place : Place}
    (settable : files.Settable place) (found : files.pathExists links place = true) :
    files.node place ≠ none := by
  intro empty
  obtain ⟨directory, name, rfl, isDirectory⟩ := settable.split
  obtain ⟨target, leads, occupied⟩ := pathExists_eq_true.mp found
  rw [leads_stepsTo_name isDirectory] at leads
  cases leads with
  | last _ => exact occupied empty
  | into isDirectory _ => cases empty.symm.trans isDirectory
  | follow isLink _ => cases empty.symm.trans isLink

/-- Once the old target is out of the way: removed if the path to it led to a node. -/
def cleared (files : Files) (links : Nat) (target : Place) : Files :=
  if files.pathExists links target then files.put target none else files

variable {target : Place}

theorem node_cleared_of_ne {links : Nat}
    (differs : other ≠ target) : (cleared files links target).node other = files.node other := by
  unfold cleared
  split
  case isTrue => exact node_put_of_ne differs
  case isFalse => rfl

theorem settable_cleared {links : Nat} :
    (cleared files links target).Settable other ↔ files.Settable other := by
  unfold cleared
  split
  case isTrue => exact settable_put (by simp)
  case isFalse => rfl

theorem exec_removeOldTarget_missed {fault : Option Fault}
    (settable : disk.files.Settable target)
    (missed : ∀ struck, fault = some struck → ¬ struck.strikes target .removeOld) :
    (removeOldTarget fault target).exec disk =
      (.ok (), { disk with files := cleared disk.files disk.links target }) := by
  rw [removeOldTarget, exec_bind, exec_get]
  unfold cleared
  by_cases found : disk.files.pathExists disk.links target = true
  · simp only [found, if_true]
    rw [stepCall_missed missed]
    exact exec_call_ok (removeFile_of_settable settable
      (node_ne_none_of_pathExists settable found))
  · simp only [found]
    rfl

theorem exec_removeOldTarget_struck (strikes : struck.strikes target .removeOld) :
    (removeOldTarget (some struck) target).exec disk =
      (if disk.files.pathExists disk.links target then .error struck.error else .ok (),
        disk) := by
  rw [removeOldTarget, exec_bind, exec_get]
  by_cases found : disk.files.pathExists disk.links target = true
  · simp only [found, if_true]
    exact exec_stepCall_struck strikes
  · simp only [found]
    rfl

theorem exec_renameTemporary_missed {fault : Option Fault} {temporary : Place}
    (missed : ∀ struck, fault = some struck → ¬ struck.strikes target .rename)
    (renamed : disk.files.rename disk.links temporary target = .ok files) :
    (renameTemporary fault target temporary).exec disk = (.ok (), { disk with files }) := by
  have called : (call fun links files => files.rename links temporary target).exec disk =
      (.ok (), { disk with files }) := exec_call_ok renamed
  rw [renameTemporary, stepCall_missed missed, exec_bind, exec_attempt, id,
    called]
  rfl

theorem exec_renameTemporary_struck {temporary : Place}
    (strikes : struck.strikes target .rename)
    (removed : disk.files.removeFile disk.links temporary = .ok files) :
    (renameTemporary (some struck) target temporary).exec disk =
      (.error struck.error, { disk with files }) := by
  have called : (call fun links files => files.removeFile links temporary).exec disk =
      (.ok (), { disk with files }) := exec_call_ok removed
  rw [renameTemporary, exec_bind, exec_attempt, id,
    exec_stepCall_struck strikes]
  change (do
    let _ignored ← Fallible.attempt id (fun disk _ => disk)
      (call fun links files => files.removeFile links temporary)
    throw struck.error : Fallible Disk FileError Unit).exec disk = _
  rw [exec_bind, exec_attempt, id, called]
  rfl

/-- The files with the temporary file written and the old target out of the way. -/
def PlannedChange.prepared (plan : PlannedChange) (disk : Disk) (content : ByteArray) : Files :=
  cleared (disk.files.put (plan.temporary disk disk.readings) (some (.file content)))
    disk.links plan.target

/-- What a failed call leaves of the files. -/
inductive WreckedBy (struck : Fault) (plan : PlannedChange) (disk : Disk) : Files → Prop
  | writeTemporary (content : ByteArray) :
      plan.content = some content → struck.step = .writeTemporary →
      WreckedBy struck plan disk
        (leaveTemporary (plan.temporary disk disk.readings) struck.left disk.files)
  | removeOld (content : ByteArray) :
      plan.content = some content → struck.step = .removeOld →
      WreckedBy struck plan disk
        (disk.files.put (plan.temporary disk disk.readings) (some (.file content)))
  | rename (content : ByteArray) :
      plan.content = some content → struck.step = .rename →
      WreckedBy struck plan disk
        ((plan.prepared disk content).put (plan.temporary disk disk.readings) none)
  | delete :
      plan.content = none → struck.step = .delete → WreckedBy struck plan disk disk.files

/-- Failing calls that leave nothing to undo: a write that leaves no temporary file, the
rename of a new file, and a deletion. -/
def Fault.Harmless (struck : Fault) (plan : PlannedChange) : Prop :=
  match struck.step with
  | .writeTemporary => struck.left = none
  | .removeOld => False
  | .rename => plan.original = none
  | .delete => True

/-- How a change that can be made ends: made, or wrecked by the fault. -/
inductive OneEnd (fault : Option Fault) (plan : PlannedChange) (disk : Disk) :
    Except FileError Unit → Disk → Prop
  | made (readings : Nat) :
      OneEnd fault plan disk (.ok ()) { disk with files := plan.after disk.files, readings }
  | wrecked (struck : Fault) (files : Files) (readings : Nat) :
      fault = some struck → struck.target = plan.target → WreckedBy struck plan disk files →
      OneEnd fault plan disk (.error struck.error) { disk with files, readings }

section Content

variable {content : ByteArray}

namespace PlannedChange.Ready

theorem settable_prepared (ready : plan.Ready disk disk.files) :
    (plan.prepared disk content).Settable plan.target ∧
      (plan.prepared disk content).Settable (plan.temporary disk disk.readings) := by
  unfold prepared
  rw [settable_cleared, settable_cleared, settable_put (by simp), settable_put (by simp)]
  exact ⟨ready.settable, ready.temporary_settable disk.readings⟩

theorem node_prepared_temporary (ready : plan.Ready disk disk.files) :
    (plan.prepared disk content).node (plan.temporary disk disk.readings) =
      some (.file content) := by
  rw [prepared, node_cleared_of_ne (ready.differs disk.readings),
    node_put_self (ready.temporary_settable disk.readings)]

theorem node_prepared_of_ne (notTarget : other ≠ plan.target)
    (notTemporary : other ≠ plan.temporary disk disk.readings) :
    (plan.prepared disk content).node other = disk.files.node other := by
  rw [prepared, node_cleared_of_ne notTarget, node_put_of_ne notTemporary]

/-- Renaming the temporary file over the target makes the change. -/
theorem rename_after (ready : plan.Ready disk disk.files)
    (contentEq : plan.content = some content) :
    (plan.prepared disk content).rename disk.links (plan.temporary disk disk.readings)
      plan.target = .ok (plan.after disk.files) := by
  have targetSettable : (plan.prepared disk content).Settable plan.target :=
    ready.settable_prepared.1
  have temporarySettable :
      (plan.prepared disk content).Settable (plan.temporary disk disk.readings) :=
    ready.settable_prepared.2
  rw [rename_of_settable temporarySettable targetSettable
    (by rw [ready.node_prepared_temporary]; simp) (ready.differs disk.readings)]
  congr 1
  apply FileTree.ext
  funext place
  unfold PlannedChange.after
  by_cases isTarget : place = plan.target
  · rw [isTarget, node_put_self ready.settable,
      node_put_self ((settable_put (by simp)).mpr targetSettable),
      ready.node_prepared_temporary, contentEq, holds_some]
  · rw [node_put_of_ne isTarget, node_put_of_ne isTarget]
    by_cases isTemporary : place = plan.temporary disk disk.readings
    · rw [isTemporary, node_put_self temporarySettable, ready.unused]
    · rw [node_put_of_ne isTemporary, node_prepared_of_ne isTarget isTemporary]

theorem removeFile_temporary (ready : plan.Ready disk disk.files) :
    (plan.prepared disk content).removeFile disk.links (plan.temporary disk disk.readings) =
      .ok ((plan.prepared disk content).put (plan.temporary disk disk.readings) none) :=
  removeFile_of_settable ready.settable_prepared.2
    (by rw [ready.node_prepared_temporary]; simp)

end PlannedChange.Ready

end Content

/-- The renaming ends the change, one way or the other. -/
theorem renameTemporary_end (fault : Option Fault) (ready : plan.Ready disk disk.files)
    {content : ByteArray} (contentEq : plan.content = some content) (readings : Nat) :
    let ran := (renameTemporary fault plan.target (plan.temporary disk disk.readings)).exec
      { disk with files := plan.prepared disk content, readings }
    OneEnd fault plan disk ran.1 ran.2 := by
  intro ran
  rcases struck_or_missed fault plan.target .rename with ⟨struck, faultEq, strikes⟩ | missed
  · have ranEq : ran = (.error struck.error, _) :=
      faultEq ▸ exec_renameTemporary_struck strikes ready.removeFile_temporary
    rw [ranEq]
    exact .wrecked struck _ readings faultEq strikes.1
      (.rename content contentEq strikes.2)
  · have ranEq : ran = (.ok (), _) :=
      exec_renameTemporary_missed missed (ready.rename_after contentEq)
    rw [ranEq]
    exact .made readings

/-- A change that can be made is made or wrecked by the fault. -/
theorem applyOne_end (fault : Option Fault) (ready : plan.Ready disk disk.files) :
    OneEnd fault plan disk ((applyOne fault plan).exec disk).1
      ((applyOne fault plan).exec disk).2 := by
  unfold applyOne
  cases contentEq : plan.content with
  | none =>
      dsimp only
      rcases struck_or_missed fault plan.target .delete with ⟨struck, faultEq, strikes⟩ | missed
      · rw [faultEq, exec_stepCall_struck strikes]
        exact .wrecked struck _ disk.readings rfl strikes.1 (.delete contentEq strikes.2)
      · have afterEq : plan.after disk.files = disk.files.put plan.target none := by
          rw [PlannedChange.after, contentEq, holds_none]
        rw [stepCall_missed missed, exec_call_ok
          (removeFile_of_settable ready.settable (ready.present contentEq)), ← afterEq]
        exact .made disk.readings
  | some content =>
      dsimp only
      rw [exec_bind, exec_now]
      dsimp only
      rw [exec_bind]
      rcases struck_or_missed fault plan.target .writeTemporary with
        ⟨struck, faultEq, strikes⟩ | missed
      · rw [faultEq, exec_stepCall_struck strikes]
        exact .wrecked struck _ (disk.readings + 1) rfl strikes.1
          (.writeTemporary content contentEq strikes.2)
      · rw [stepCall_missed missed,
          exec_call_ok (ready.write_temporary disk.readings content)]
        dsimp only
        rw [exec_bind]
        have targetSettable : (disk.files.put (plan.temporary disk disk.readings)
            (some (.file content))).Settable plan.target :=
          (settable_put (by simp)).mpr ready.settable
        rcases struck_or_missed fault plan.target .removeOld with
          ⟨struck, faultEq, strikes⟩ | missed
        · rw [faultEq, exec_removeOldTarget_struck strikes]
          by_cases found : (disk.files.put (plan.temporary disk disk.readings)
              (some (.file content))).pathExists disk.links plan.target = true
          · simp only [found, if_true]
            exact .wrecked struck _ (disk.readings + 1) rfl strikes.1
              (.removeOld content contentEq strikes.2)
          · have preparedEq : disk.files.put (plan.temporary disk disk.readings)
                (some (.file content)) = plan.prepared disk content :=
              (if_neg found).symm
            simp only [found]
            rw [preparedEq]
            exact renameTemporary_end (some struck) ready contentEq (disk.readings + 1)
        · rw [exec_removeOldTarget_missed targetSettable missed]
          exact renameTemporary_end fault ready contentEq (disk.readings + 1)

namespace WreckedBy

variable {struck : Fault} {wreck : Files} {other : Place}

theorem settable (wrecked : WreckedBy struck plan disk wreck) :
    wreck.Settable other ↔ disk.files.Settable other := by
  cases wrecked with
  | writeTemporary content contentEq stepEq =>
      unfold leaveTemporary
      split
      · exact settable_put (by simp)
      · rfl
  | removeOld content contentEq stepEq => exact settable_put (by simp)
  | rename content contentEq stepEq =>
      rw [settable_put (by simp), PlannedChange.prepared, settable_cleared,
        settable_put (by simp)]
  | delete contentEq stepEq => rfl

/-- A wreck lies at the target and beside it. -/
theorem node_of_ne (wrecked : WreckedBy struck plan disk wreck)
    (notTarget : other ≠ plan.target)
    (notTemporary : other ≠ plan.temporary disk disk.readings) :
    wreck.node other = disk.files.node other := by
  cases wrecked with
  | writeTemporary content contentEq stepEq =>
      unfold leaveTemporary
      split
      · exact node_put_of_ne notTemporary
      · rfl
  | removeOld content contentEq stepEq => exact node_put_of_ne notTemporary
  | rename content contentEq stepEq =>
      rw [node_put_of_ne notTemporary, PlannedChange.Ready.node_prepared_of_ne notTarget
        notTemporary]
  | delete contentEq stepEq => rfl

/-- A harmless fault leaves nothing new, and an old file as it was. -/
theorem of_harmless (wrecked : WreckedBy struck plan disk wreck)
    (ready : plan.Ready disk disk.files) (harmless : struck.Harmless plan) :
    (∀ place node, wreck.node place = some node → disk.files.node place = some node) ∧
      (plan.original ≠ none → wreck.node plan.target = disk.files.node plan.target) := by
  unfold Fault.Harmless at harmless
  cases wrecked with
  | writeTemporary content contentEq stepEq =>
      rw [stepEq] at harmless
      rw [harmless]
      exact ⟨fun _ _ isNode => isNode, fun _ => rfl⟩
  | removeOld content contentEq stepEq =>
      rw [stepEq] at harmless
      cases harmless
  | rename content contentEq stepEq =>
      rw [stepEq] at harmless
      refine ⟨?_, fun wasThere => absurd harmless wasThere⟩
      intro place node isNode
      by_cases isTemporary : place = plan.temporary disk disk.readings
      · rw [isTemporary, node_put_self ready.settable_prepared.2] at isNode
        cases isNode
      · rw [node_put_of_ne isTemporary, PlannedChange.prepared] at isNode
        unfold cleared at isNode
        split at isNode
        case isTrue =>
          by_cases isTarget : place = plan.target
          · rw [isTarget, node_put_self ((settable_put (by simp)).mpr ready.settable)] at isNode
            cases isNode
          · rwa [node_put_of_ne isTarget, node_put_of_ne isTemporary] at isNode
        case isFalse => rwa [node_put_of_ne isTemporary] at isNode
  | delete contentEq stepEq => exact ⟨fun _ _ isNode => isNode, fun _ => rfl⟩

/-- Any other fault leaves a temporary file or has removed the old one. -/
theorem of_not_harmless (wrecked : WreckedBy struck plan disk wreck)
    (ready : plan.Ready disk disk.files)
    (existing : ∀ original, plan.original = some original →
      disk.files.node plan.target = some (.file original))
    (harmful : ¬ struck.Harmless plan) :
    wreck.node (plan.temporary disk disk.readings) ≠ none ∨
      ∃ original, plan.original = some original ∧ wreck.node plan.target = none := by
  have temporarySettable := ready.temporary_settable disk.readings
  unfold Fault.Harmless at harmful
  cases wrecked with
  | writeTemporary content contentEq stepEq =>
      rw [stepEq] at harmful
      obtain ⟨left, leftEq⟩ := Option.ne_none_iff_exists'.mp harmful
      left
      rw [leftEq, leaveTemporary, node_put_self temporarySettable]
      simp
  | removeOld content contentEq stepEq =>
      left
      rw [node_put_self temporarySettable]
      simp
  | rename content contentEq stepEq =>
      rw [stepEq] at harmful
      obtain ⟨original, originalEq⟩ := Option.ne_none_iff_exists'.mp harmful
      right
      have differs := (ready.differs disk.readings).symm
      have stillFile : (disk.files.put (plan.temporary disk disk.readings)
          (some (.file content))).node plan.target = some (.file original) :=
        (node_put_of_ne differs).trans (existing original originalEq)
      refine ⟨original, originalEq, ?_⟩
      rw [node_put_of_ne differs, PlannedChange.prepared, cleared,
        if_pos (pathExists_of_file stillFile), node_put_self (settable_of_file stillFile)]
  | delete contentEq stepEq =>
      rw [stepEq] at harmful
      exact absurd trivial harmful

end WreckedBy

/-- Below a file or nothing, nothing can be written, and nothing is left there. -/
theorem applyOne_blocked (fault : Option Fault) {content : ByteArray}
    (contentEq : plan.content = some content)
    (settable : disk.files.Settable plan.target.dropLast)
    (notWay : ∀ node, disk.files.node plan.target.dropLast = some node → node.isWay = false) :
    ∃ error, (applyOne fault plan).exec disk =
      (.error error, { disk with readings := disk.readings + 1 }) := by
  have notSettable : ¬ disk.files.Settable (plan.temporary disk disk.readings) := by
    rintro ⟨isDirectory, -⟩
    rw [PlannedChange.temporary, temporaryPath, List.dropLast_concat, settable.2] at isDirectory
    cases isDirectory
  obtain ⟨writeError, writeFails⟩ : ∃ error, disk.files.write disk.links
      (plan.temporary disk disk.readings) content = .error error :=
    write_below_leaf settable notWay _ content
  unfold applyOne
  rw [contentEq]
  dsimp only
  rw [exec_bind, exec_now]
  dsimp only
  rw [exec_bind]
  rcases struck_or_missed fault plan.target .writeTemporary with
    ⟨struck, faultEq, strikes⟩ | missed
  · have nothingLeft : leaveTemporary (plan.temporary disk disk.readings) struck.left
        disk.files = disk.files := by
      unfold leaveTemporary
      split
      · exact dif_neg notSettable
      · rfl
    rw [faultEq, exec_stepCall_struck strikes]
    exact ⟨struck.error, congrArg (fun files => (Except.error struck.error,
      { disk with files, readings := disk.readings + 1 })) nothingLeft⟩
  · rw [stepCall_missed missed, exec_call_error writeFails]
    exact ⟨writeError, rfl⟩

end Change

section Rollback

variable {plans : List PlannedChange} {files : Files} {links : Nat}

/-- Changes to different targets. -/
def Distinct (plans : List PlannedChange) : Prop :=
  plans.Pairwise fun earlier later => earlier.target ≠ later.target

instance (plans : List PlannedChange) : Decidable (Distinct plans) :=
  inferInstanceAs (Decidable (plans.Pairwise _))

/-- The files once several changes have been made. -/
def made (plans : List PlannedChange) (files : Files) : Files :=
  plans.foldl (fun files plan => plan.after files) files

variable {plan : PlannedChange}

theorem settable_after : (plan.after files).Settable other ↔ files.Settable other :=
  settable_put (holds_leaf plan.content)

theorem settable_made : (made plans files).Settable other ↔ files.Settable other := by
  induction plans generalizing files with
  | nil => rfl
  | cons plan plans ih =>
      exact ih.trans settable_after

theorem isDirectory_made : (made plans files).isDirectory other = files.isDirectory other := by
  induction plans generalizing files with
  | nil => rfl
  | cons plan plans ih =>
      exact ih.trans (isDirectory_put (holds_leaf plan.content))

theorem node_made_of_not_target (notTarget : ∀ plan ∈ plans, other ≠ plan.target) :
    (made plans files).node other = files.node other := by
  induction plans generalizing files with
  | nil => rfl
  | cons plan plans ih =>
      obtain ⟨notThis, notRest⟩ := List.forall_mem_cons.mp notTarget
      exact (ih notRest).trans (node_put_of_ne notThis)

/-- Changes put files or nothing in place of what they find. -/
theorem notWay_made (notWay : ∀ node, files.node other = some node → node.isWay = false) :
    ∀ node, (made plans files).node other = some node → node.isWay = false := by
  induction plans generalizing files with
  | nil => exact notWay
  | cons plan plans ih =>
      exact ih (notWay_put (holds_notWay plan.content) notWay)

/-- A change that was made is seen at its target. -/
theorem node_made_target (distinct : Distinct plans)
    (member : plan ∈ plans) (settable : files.Settable plan.target) :
    (made plans files).node plan.target = holds plan.content := by
  induction plans generalizing files with
  | nil => cases member
  | cons first plans ih =>
      obtain ⟨notFirst, restDistinct⟩ := List.pairwise_cons.mp distinct
      rcases List.mem_cons.mp member with rfl | inRest
      · exact (node_made_of_not_target notFirst).trans (node_put_self settable)
      · exact ih restDistinct inRest (settable_after.mpr settable)

/-- Undoing a change puts back what its target held. -/
theorem rollbackOne_eq (settable : files.Settable plan.target)
    (isMade : files.node plan.target = holds plan.content)
    (hadContent : plan.original = none → plan.content ≠ none) :
    rollbackOne links plan files = files.put plan.target (holds plan.original) := by
  unfold rollbackOne
  cases originalEq : plan.original with
  | none =>
      have occupied : files.node plan.target ≠ none := by
        rw [isMade]
        simpa [holds] using hadContent originalEq
      rw [removeFile_of_settable settable occupied]
      rfl
  | some original =>
      have notWay : ∀ node, files.node plan.target = some node → node.isWay = false := by
        rw [isMade]
        exact holds_notWay plan.content
      dsimp only
      rw [write_of_settable settable notWay]
      rfl

/-- Rolling back applied changes puts back what each of their targets held, and nothing
else. -/
theorem rollback_spec (links : Nat) (distinct : Distinct plans)
    (settable : ∀ plan ∈ plans, files.Settable plan.target)
    (isMade : ∀ plan ∈ plans, files.node plan.target = holds plan.content)
    (hadContent : ∀ plan ∈ plans, plan.original = none → plan.content ≠ none) :
    (∀ plan ∈ plans, (rollback links plans files).node plan.target = holds plan.original) ∧
      (∀ other, (∀ plan ∈ plans, other ≠ plan.target) →
        (rollback links plans files).node other = files.node other) ∧
      ∀ other, (rollback links plans files).Settable other ↔ files.Settable other := by
  induction plans with
  | nil => exact ⟨by simp, fun _ _ => rfl, fun _ => Iff.rfl⟩
  | cons plan plans ih =>
      obtain ⟨notPlan, restDistinct⟩ := List.pairwise_cons.mp distinct
      rw [List.forall_mem_cons] at settable isMade hadContent
      obtain ⟨restored, kept, keptSettable⟩ :=
        ih restDistinct settable.2 isMade.2 hadContent.2
      have planSettable := (keptSettable plan.target).mpr settable.1
      have undone : rollback links (plan :: plans) files =
          (rollback links plans files).put plan.target (holds plan.original) :=
        rollbackOne_eq planSettable ((kept plan.target notPlan).trans isMade.1) hadContent.1
      rw [undone]
      refine ⟨?_, ?_, ?_⟩
      · intro other member
        rcases List.mem_cons.mp member with rfl | inRest
        · exact node_put_self planSettable
        · rw [node_put_of_ne (notPlan other inRest).symm]
          exact restored other inRest
      · intro other notTarget
        obtain ⟨notThis, notRest⟩ := List.forall_mem_cons.mp notTarget
        rw [node_put_of_ne notThis]
        exact kept other notRest
      · intro other
        exact (settable_put (holds_leaf plan.original)).trans (keptSettable other)

end Rollback

end ToolPatch
end YunXi
