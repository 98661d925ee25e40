import YunXi.ToolPatch.Change

/-!
# What plans are built from

A plan names a place in a directory below the root and keeps what stood there: the file
that is updated or deleted, or nothing that a path could lead to.
-/

namespace YunXi
namespace ToolPatch

open FileTree

/-- A plan that fits the disk it was built on. -/
structure PlannedChange.Fits (plan : PlannedChange) (disk : Disk) : Prop where
  notRoot : plan.target ≠ []
  existing : ∀ original, plan.original = some original →
    disk.files.node plan.target = some (.file original)
  isNew : plan.original = none → plan.content ≠ none ∧
    disk.files.pathExists disk.links plan.target = false
  inDirectory : disk.files.isDirectory plan.target.dropLast = true ∨
    plan.original = none ∧
      ∃ blocking, disk.files.node plan.target.dropLast = some (.file blocking)

section Fits

variable {disk : Disk} {root : Place} {plan : PlannedChange}

namespace PlannedChange.Fits

/-- The target of a plan in a directory is a file, a dangling link or nothing. -/
theorem settable (fits : plan.Fits disk)
    (inDirectory : disk.files.isDirectory plan.target.dropLast = true) :
    disk.files.Settable plan.target := by
  refine ⟨inDirectory, ?_⟩
  cases originalEq : plan.original with
  | some original =>
      rw [isDirectory_eq_false, fits.existing original originalEq]
      simp
  | none =>
      by_contra isDirectory
      rw [Bool.not_eq_false] at isDirectory
      have found : disk.files.pathExists disk.links plan.target = true := by
        rw [pathExists_eq_true]
        exact ⟨plan.target, .of_isDirectory isDirectory,
          by rw [isDirectory_eq_true.mp isDirectory]; simp⟩
      rw [(fits.isNew originalEq).2] at found
      cases found

end PlannedChange.Fits

/-- The path below a canonical root leads to a file there. -/
theorem resolveExisting_eq_ok {relative : PathBuf} {target : Place} :
    resolveExisting disk root relative = .ok target ↔
      Leads disk.files disk.links [] (stepsTo root ++ relative.steps) target ∧
        root <+: target ∧ ∃ content, disk.files.node target = some (.file content) := by
  unfold resolveExisting
  simp only [Except.bind_eq_ok, Except.mapError_eq_ok, canonicalize_eq_ok, refuseIf_eq_ok,
    Except.pure_eq_ok, not_or, not_not]
  constructor
  · rintro ⟨place, ⟨leads, -⟩, -, ⟨below, isFile⟩, rfl⟩
    exact ⟨leads, below, isFile_eq_true.mp isFile⟩
  · rintro ⟨leads, below, content, isFile⟩
    exact ⟨target, ⟨leads, by rw [isFile]; simp⟩, ⟨⟩,
      ⟨below, isFile_eq_true.mpr ⟨content, isFile⟩⟩, rfl⟩

/-- The place of a new file is a name in a place below the root. -/
theorem resolveNew_eq_ok {relative : PathBuf} {target : Place} :
    resolveNew disk root relative = .ok target ↔
      ¬ (root = [] ∧ relative.components = []) ∧
      ∃ parent name, target = parent ++ [name] ∧ root <+: parent ∧
        relative.components.getLast? = some (.normal name) ∧
        Leads disk.files disk.links []
          (stepsTo root ++ relative.components.map Component.step).dropLast parent ∧
        disk.files.node parent ≠ none := by
  unfold resolveNew
  simp only [Except.bind_eq_ok, Except.mapError_eq_ok, canonicalize_eq_ok, refuseIf_eq_ok,
    not_not]
  constructor
  · rintro ⟨-, someName, parent, ⟨leads, occupied⟩, -, below, named⟩
    refine ⟨someName, ?_⟩
    split at named
    case h_1 name lastEq =>
      cases named
      exact ⟨parent, name, rfl, below, lastEq, leads, occupied⟩
    case h_2 => cases named
  · rintro ⟨someName, parent, name, rfl, below, lastEq, leads, occupied⟩
    refine ⟨⟨⟩, someName, parent, ⟨leads, occupied⟩, ⟨⟩, below, ?_⟩
    rw [lastEq]
    rfl

theorem readBoundedFile_spec {place : Place} {content original : ByteArray}
    (isFile : disk.files.node place = some (.file content))
    (read : readBoundedFile disk place = .ok original) : original = content := by
  unfold readBoundedFile at read
  simp only [read_of_file isFile, Except.bind_eq_ok, Except.mapError_eq_ok, refuseIf_eq_ok,
    Except.pure_eq_ok] at read
  obtain ⟨_, found, -, -, rfl⟩ := read
  cases found
  rfl

variable {change : ParsedChange}

/-- What a plan is, for each kind of change. -/
theorem buildPlan_spec (built : buildPlan disk root change = .ok plan) :
    (∃ parent name, plan.target = parent ++ [name] ∧ root <+: parent ∧
        disk.files.node parent ≠ none ∧
        Leads disk.files disk.links []
          (stepsTo root ++ change.path.components.map Component.step).dropLast parent ∧
        plan.original = none ∧ plan.content ≠ none ∧
        disk.files.pathExists disk.links plan.target = false) ∨
      root <+: plan.target ∧
        Leads disk.files disk.links [] (stepsTo root ++ change.path.steps) plan.target ∧
        ∃ original, plan.original = some original ∧
          disk.files.node plan.target = some (.file original) := by
  unfold buildPlan resolveTarget at built
  split at built
  case h_1 lines isAdd =>
    simp only [Except.bind_eq_ok, refuseIf_eq_ok, Except.pure_eq_ok, Bool.not_eq_true,
      Bool.false_eq_true, if_false] at built
    obtain ⟨target, resolved, -, notFound, rfl⟩ := built
    obtain ⟨parent, name, targetEq, below, -, leads, occupied⟩ := (resolveNew_eq_ok.mp resolved).2
    exact .inl ⟨parent, name, targetEq, below, occupied, leads, rfl, by simp, notFound⟩
  case h_2 isDelete =>
    simp only [Except.bind_eq_ok, Except.pure_eq_ok, if_true] at built
    obtain ⟨target, resolved, original, read, rfl⟩ := built
    obtain ⟨leads, below, content, isFile⟩ := resolveExisting_eq_ok.mp resolved
    cases readBoundedFile_spec isFile read
    exact .inr ⟨below, leads, original, rfl, isFile⟩
  case h_3 hunks isUpdate =>
    simp only [Except.bind_eq_ok, Except.pure_eq_ok, if_true] at built
    obtain ⟨target, resolved, original, read, ⟨content, added, removed⟩, -, rfl⟩ := built
    obtain ⟨leads, below, content, isFile⟩ := resolveExisting_eq_ok.mp resolved
    cases readBoundedFile_spec isFile read
    exact .inr ⟨below, leads, original, rfl, isFile⟩

/-- A plan is built from a place, the file there, and for a new file from whether a path to
the place leads anywhere. -/
theorem buildPlan_congr {other : Disk}
    (built : buildPlan disk root change = .ok plan)
    (sameTarget : ∀ mustExist, resolveTarget disk root change.path mustExist = .ok plan.target →
      resolveTarget other root change.path mustExist = .ok plan.target)
    (sameFile : plan.original ≠ none → other.files.read other.links plan.target =
      disk.files.read disk.links plan.target)
    (notFound : plan.original = none →
      other.files.pathExists other.links plan.target = false) :
    buildPlan other root change = .ok plan := by
  have sameRead : plan.original ≠ none →
      readBoundedFile other plan.target = readBoundedFile disk plan.target := by
    intro wasThere
    rw [readBoundedFile, sameFile wasThere, readBoundedFile]
  unfold buildPlan at built ⊢
  split at built
  case h_1 lines kindEq =>
    simp only [Except.bind_eq_ok, refuseIf_eq_ok, Except.pure_eq_ok] at built ⊢
    obtain ⟨target, resolved, -, -, rfl⟩ := built
    exact ⟨target, sameTarget false resolved, ⟨⟩, by simpa using notFound rfl, rfl⟩
  case h_2 kindEq =>
    simp only [Except.bind_eq_ok, Except.pure_eq_ok] at built ⊢
    obtain ⟨target, resolved, original, read, rfl⟩ := built
    exact ⟨target, sameTarget true resolved, original, (sameRead (by simp)).trans read, rfl⟩
  case h_3 hunks kindEq =>
    simp only [Except.bind_eq_ok, Except.pure_eq_ok] at built ⊢
    obtain ⟨target, resolved, original, read, applied, hunksApplied, rfl⟩ := built
    exact ⟨target, sameTarget true resolved, original, (sameRead (by simp)).trans read, applied,
      hunksApplied, rfl⟩

/-- A new file is refused where a path to its place leads to a node. -/
theorem buildPlan_refuses {other : Disk} {last : PlannedChange}
    (built : buildPlan disk root change = .ok plan) (isNew : plan.original = none)
    (sameTarget : ∀ mustExist, resolveTarget disk root change.path mustExist = .ok plan.target →
      resolveTarget other root change.path mustExist = .ok plan.target)
    (found : other.files.pathExists other.links plan.target = true) :
    buildPlan other root change ≠ .ok last := by
  intro otherBuilt
  unfold buildPlan at built otherBuilt
  split at built
  case h_1 lines kindEq =>
    rw [kindEq] at otherBuilt
    simp only [Except.bind_eq_ok, refuseIf_eq_ok, Except.pure_eq_ok] at built otherBuilt
    obtain ⟨target, resolved, -, -, rfl⟩ := built
    obtain ⟨otherTarget, otherResolved, -, notFound, -⟩ := otherBuilt
    cases otherResolved.symm.trans (sameTarget false resolved)
    exact notFound found
  case h_2 kindEq =>
    simp only [Except.bind_eq_ok, Except.pure_eq_ok] at built
    obtain ⟨target, resolved, original, read, rfl⟩ := built
    cases isNew
  case h_3 hunks kindEq =>
    simp only [Except.bind_eq_ok, Except.pure_eq_ok] at built
    obtain ⟨target, resolved, original, read, applied, hunksApplied, rfl⟩ := built
    cases isNew

/-- Every plan fits the disk it was built on. -/
theorem buildPlan_fits (built : buildPlan disk root change = .ok plan) :
    plan.Fits disk := by
  rcases buildPlan_spec built with
    ⟨parent, name, targetEq, -, occupied, leads, originalEq, contentEq, notFound⟩ |
      ⟨-, -, original, originalEq, isFile⟩
  · have parentEq : plan.target.dropLast = parent := by
      rw [targetEq, List.dropLast_concat]
    refine ⟨by simp [targetEq], by simp [originalEq], fun _ => ⟨contentEq, notFound⟩, ?_⟩
    rw [parentEq]
    cases nodeEq : disk.files.node parent with
    | none => exact absurd nodeEq occupied
    | some node =>
        cases node with
        | directory => exact .inl (isDirectory_eq_true.mpr nodeEq)
        | file blocking => exact .inr ⟨originalEq, blocking, rfl⟩
        | link fromRoot steps =>
            exact absurd nodeEq (leads.not_link isDirectory_root fromRoot steps)
  · have notRoot : plan.target ≠ [] := by
      intro isRoot
      rw [isRoot, disk.files.node_root] at isFile
      cases isFile
    refine ⟨notRoot, ?_, by simp [originalEq], .inl ?_⟩
    · intro other otherEq
      cases originalEq.symm.trans otherEq
      exact isFile
    · exact isDirectory_eq_true.mpr
        (disk.files.node_parent plan.target notRoot (by rw [isFile]; simp))

variable {plans : List PlannedChange}

theorem buildPlans_nil : buildPlans disk root [] = .ok plans ↔ plans = [] := by
  unfold buildPlans
  rw [List.mapM_nil, Except.pure_eq_ok, eq_comm]

variable {changes : List ParsedChange}

theorem buildPlans_cons : buildPlans disk root (change :: changes) = .ok plans ↔
      ∃ plan rest, buildPlan disk root change = .ok plan ∧
        buildPlans disk root changes = .ok rest ∧ plans = plan :: rest := by
  unfold buildPlans
  rw [List.mapM_cons]
  simp only [Except.bind_eq_ok, Except.pure_eq_ok]
  constructor
  · rintro ⟨plan, built, rest, restBuilt, rfl⟩
    exact ⟨plan, rest, built, restBuilt, rfl⟩
  · rintro ⟨plan, rest, built, restBuilt, rfl⟩
    exact ⟨plan, built, rest, restBuilt, rfl⟩

/-- All plans of a patch fit the disk they were built on. -/
theorem buildPlans_fit
    (built : buildPlans disk root changes = .ok plans) : ∀ plan ∈ plans, plan.Fits disk := by
  induction changes generalizing plans with
  | nil =>
      rw [buildPlans_nil.mp built]
      simp
  | cons change changes ih =>
      obtain ⟨plan, rest, planBuilt, restBuilt, rfl⟩ := buildPlans_cons.mp built
      exact List.forall_mem_cons.mpr ⟨buildPlan_fits planBuilt, ih restBuilt⟩

/-- An accepted patch was parsed and planned below the canonical root of its workspace. -/
theorem planPatch_spec {request : PatchApplyRequest}
    (planned : planPatch disk request = .ok (root, changes, plans)) :
    disk.canonicalizePath request.grant.workspace.root = .ok root ∧
      parsePatch request.patch = .ok changes ∧ buildPlans disk root changes = .ok plans := by
  unfold planPatch at planned
  simp only [Except.bind_eq_ok, Except.mapError_eq_ok, refuseIf_eq_ok, Except.pure_eq_ok,
    Prod.mk.injEq] at planned
  obtain ⟨-, -, -, -, -, -, foundRoot, canonical, -, -, -, -, foundChanges, parsed, foundPlans,
    built, rfl, rfl, rfl⟩ := planned
  exact ⟨canonical, parsed, built⟩

end Fits

end ToolPatch
end YunXi
