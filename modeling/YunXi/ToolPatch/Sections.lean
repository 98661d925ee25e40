import YunXi.ToolPatch.Transaction

/-!
# Patches section by section

All sections of a patch are planned on the workspace as it is.  Planning and making them one
after the other gives the same files unless two sections name the same place, or an added
path is a link that an earlier section brings to life.
-/

namespace YunXi
namespace ToolPatch

open Fallible
open FileTree

/-- Plans that can all be made. -/
structure Makeable (plans : List PlannedChange) (disk : Disk) : Prop where
  distinct : Distinct plans
  fits : ∀ plan ∈ plans, plan.Fits disk
  inDirectory : ∀ plan ∈ plans, disk.files.isDirectory plan.target.dropLast = true

section Later

variable {disk : Disk} {plans : List PlannedChange} {plan : PlannedChange}
  {place target : Place} {steps : List (PathStep String)} {links : Nat}

/-- A name in a directory that a path finds nothing behind is dead. -/
theorem isDead_of_not_pathExists {files : Files} {name : String}
    (isDirectory : files.isDirectory place = true)
    (notFound : files.pathExists links (place ++ [name]) = false) :
    Leads.IsDead files links place name := by
  intro target leads
  by_contra occupied
  rw [pathExists_eq_true.mpr ⟨target, (leads_stepsTo_name isDirectory).mpr leads, occupied⟩]
    at notFound
  cases notFound

namespace Makeable

theorem settable (makeable : Makeable plans disk) (member : plan ∈ plans) :
    disk.files.Settable plan.target :=
  (makeable.fits plan member).settable (makeable.inDirectory plan member)

/-- What has changed is a target. -/
theorem changed (makeable : Makeable plans disk)
    (differ : (made plans disk.files).node place ≠ disk.files.node place) :
    ∃ plan ∈ plans, place = plan.target ∧
      (made plans disk.files).node place = holds plan.content := by
  by_contra notTarget
  have never : ∀ plan ∈ plans, place ≠ plan.target := by
    rintro plan member rfl
    exact notTarget ⟨plan, member, rfl,
      node_made_target makeable.distinct member (makeable.settable member)⟩
  exact differ (node_made_of_not_target never)

theorem notWay_of_changed (makeable : Makeable plans disk)
    (differ : (made plans disk.files).node place ≠ disk.files.node place) :
    ∀ node, (made plans disk.files).node place = some node → node.isWay = false := by
  obtain ⟨plan, -, -, nodeEq⟩ := makeable.changed differ
  rw [nodeEq]
  exact holds_notWay plan.content

/-- Links and directories that are there after the changes were there before. -/
theorem way_before (makeable : Makeable plans disk) {node : Node String ByteArray}
    (isNode : (made plans disk.files).node place = some node) (isWay : node.isWay = true) :
    disk.files.node place = some node := by
  by_cases same : (made plans disk.files).node place = disk.files.node place
  · exact same ▸ isNode
  · rw [makeable.notWay_of_changed same node isNode] at isWay
    cases isWay

/-- A target is a file, or a path to it leads to nothing. -/
theorem file_or_dead (makeable : Makeable plans disk) (member : plan ∈ plans) :
    (∃ content, plan.original = some content ∧
        disk.files.node plan.target = some (.file content)) ∨
      plan.original = none ∧ disk.files.pathExists disk.links plan.target = false := by
  cases originalEq : plan.original with
  | some original =>
      exact .inl ⟨original, rfl, (makeable.fits plan member).existing original originalEq⟩
  | none => exact .inr ⟨rfl, ((makeable.fits plan member).isNew originalEq).2⟩

/-- Paths that lead to a node lead there after the changes. -/
theorem persist (makeable : Makeable plans disk)
    (leads : Leads disk.files links place steps target)
    (occupied : disk.files.node target ≠ none)
    (isDirectory : disk.files.isDirectory place = true)
    (within : links ≤ disk.links) :
    Leads (made plans disk.files) links place steps target := by
  refine leads.persist occupied isDirectory within
    (fun other differ => makeable.notWay_of_changed differ) ?_
  intro directory name differ
  obtain ⟨plan, member, targetEq, -⟩ := makeable.changed differ
  rw [targetEq]
  rcases makeable.file_or_dead member with ⟨content, -, isFile⟩ | ⟨-, notFound⟩
  · exact .inl ⟨content, isFile⟩
  · have inDirectory := makeable.inDirectory plan member
    rw [← targetEq, List.dropLast_concat] at inDirectory
    exact .inr (isDead_of_not_pathExists inDirectory (targetEq ▸ notFound))

end Makeable

/-- The disk once some changes have been made. -/
def Disk.madeBy (disk : Disk) (plans : List PlannedChange) (readings : Nat) : Disk :=
  { disk with files := made plans disk.files, readings }

namespace Makeable

variable {root : Place} {done rest : List PlannedChange}

theorem of_append (makeable : Makeable (done ++ rest) disk) : Makeable done disk where
  distinct := (List.pairwise_append.mp makeable.distinct).1
  fits earlier member := makeable.fits earlier (List.mem_append_left _ member)
  inDirectory earlier member := makeable.inDirectory earlier (List.mem_append_left _ member)

/-- A place that no earlier change has is named by the same path after these. -/
theorem resolveTarget_later (makeable : Makeable done disk) (readings : Nat)
    {relative : PathBuf} {mustExist : Bool}
    (notTarget : ∀ earlier ∈ done, target ≠ earlier.target)
    (inDirectory : disk.files.isDirectory target.dropLast = true)
    (resolved : resolveTarget disk root relative mustExist = .ok target) :
    resolveTarget (disk.madeBy done readings) root relative mustExist = .ok target := by
  cases mustExist with
  | true =>
      obtain ⟨leads, below, content, isFile⟩ := resolveExisting_eq_ok.mp resolved
      refine resolveExisting_eq_ok.mpr ⟨?_, below, content, ?_⟩
      · exact makeable.persist leads (by rw [isFile]; simp) isDirectory_root le_rfl
      · exact (node_made_of_not_target notTarget).trans isFile
  | false =>
      obtain ⟨someName, parent, name, rfl, below, lastEq, leads, occupied⟩ :=
        resolveNew_eq_ok.mp resolved
      rw [List.dropLast_concat] at inDirectory
      have stillDirectory : (made done disk.files).isDirectory parent = true :=
        isDirectory_made.trans inDirectory
      refine resolveNew_eq_ok.mpr ⟨someName, parent, name, rfl, below, lastEq, ?_, ?_⟩
      · exact makeable.persist leads occupied isDirectory_root le_rfl
      · exact fun isNone => by cases isNone.symm.trans (isDirectory_eq_true.mp stillDirectory)

variable {change : ParsedChange}

/-- After earlier changes a section gets the plan it had, unless its path has come to
life. -/
theorem buildPlan_later (makeable : Makeable (done ++ plan :: rest) disk) (readings : Nat)
    (built : buildPlan disk root change = .ok plan) :
    (plan.original = none → (made done disk.files).pathExists disk.links plan.target = false) ∧
        buildPlan (disk.madeBy done readings) root change = .ok plan ∨
      (plan.original = none ∧ (made done disk.files).pathExists disk.links plan.target = true) ∧
        ∃ error, buildPlan (disk.madeBy done readings) root change = .error error := by
  have planMember : plan ∈ done ++ plan :: rest := by simp
  have notTarget := makeable.distinct.split.2.1
  have sameTarget : ∀ mustExist, resolveTarget disk root change.path mustExist = .ok plan.target →
      resolveTarget (disk.madeBy done readings) root change.path mustExist = .ok plan.target :=
    fun _ resolved => makeable.of_append.resolveTarget_later readings notTarget
      (makeable.inDirectory plan planMember) resolved
  by_cases dead : plan.original = none →
      (made done disk.files).pathExists disk.links plan.target = false
  · refine .inl ⟨dead, buildPlan_congr built sameTarget ?_ dead⟩
    intro wasThere
    obtain ⟨original, originalEq⟩ := Option.ne_none_iff_exists'.mp wasThere
    have isFile := (makeable.fits plan planMember).existing original originalEq
    have stillFile : (made done disk.files).node plan.target = some (.file original) :=
      (node_made_of_not_target notTarget).trans isFile
    exact (read_of_file stillFile).trans (read_of_file isFile).symm
  · rw [Classical.not_imp, Bool.not_eq_false] at dead
    obtain ⟨isNew, alive⟩ := dead
    refine .inr ⟨⟨isNew, alive⟩, ?_⟩
    cases laterBuilt : buildPlan (disk.madeBy done readings) root change with
    | error error => exact ⟨error, rfl⟩
    | ok last => exact absurd laterBuilt (buildPlan_refuses built isNew sameTarget alive)

end Makeable

end Later

/-- The tree with one more file. -/
def withFile (files : Files) (place : Place) : Files :=
  files.put place (some (.file .empty))

section Kindle

variable {disk : Disk} {done rest : List PlannedChange} {plan earlier : PlannedChange}
  {place target middle : Place} {steps : List (PathStep String)} {links : Nat}

/-- What is no way, or elsewhere, can be taken away from where a path leads. -/
theorem leads_of_withFile (leads : Leads (withFile disk.files place) links middle steps target)
    (settable : disk.files.Settable place) (elsewhere : target ≠ place) :
    Leads disk.files links middle steps target := by
  refine leads.transfer ?_ (.inl (node_put_of_ne elsewhere).symm)
  intro other node isNode isWay
  by_cases same : other = place
  · rw [same, withFile, node_put_self settable] at isNode
    cases isNode
    cases isWay
  · rwa [withFile, node_put_of_ne same] at isNode

namespace Makeable

/-- If a path to a new file comes to life, one of the new files before it does that. -/
theorem exists_of_pathExists (makeable : Makeable (done ++ plan :: rest) disk)
    (isNew : plan.original = none)
    (alive : (made done disk.files).pathExists disk.links plan.target = true) :
    ∃ earlier ∈ done, earlier.original = none ∧
      (withFile disk.files earlier.target).pathExists disk.links plan.target = true := by
  have notFound := ((makeable.fits plan (by simp)).isNew isNew).2
  obtain ⟨target, leads, occupied⟩ := pathExists_eq_true.mp alive
  have doneMakeable := makeable.of_append
  have never : Leads disk.files disk.links [] (stepsTo plan.target) target →
      disk.files.node target = none := by
    intro led
    by_contra wasThere
    rw [pathExists_eq_true.mpr ⟨target, led, wasThere⟩] at notFound
    cases notFound
  have sameWays : ∀ other node, (made done disk.files).node other = some node →
      node.isWay = true → disk.files.node other = some node :=
    fun _ _ isNode isWay => doneMakeable.way_before isNode isWay
  by_cases same : (made done disk.files).node target = disk.files.node target
  · have led : Leads disk.files disk.links [] (stepsTo plan.target) target :=
      leads.transfer sameWays (.inl same.symm)
    exact absurd (same.trans (never led)) occupied
  · obtain ⟨earlier, member, rfl, nodeEq⟩ := doneMakeable.changed same
    rcases doneMakeable.file_or_dead member with ⟨content, -, isFile⟩ | ⟨wasNew, -⟩
    · have led : Leads disk.files disk.links [] (stepsTo plan.target) earlier.target := by
        refine leads.transfer sameWays (.inr ?_)
        rw [isFile]
        rintro _ ⟨⟩
        rfl
      rw [never led] at isFile
      cases isFile
    · have settable := doneMakeable.settable member
      have isFile : (withFile disk.files earlier.target).node earlier.target =
          some (.file .empty) := node_put_self settable
      refine ⟨earlier, member, wasNew, pathExists_eq_true.mpr ⟨earlier.target, ?_, ?_⟩⟩
      · refine leads.transfer ?_ (.inr ?_)
        · intro other node isNode isWay
          have elsewhere : other ≠ earlier.target := by
            rintro rfl
            rw [holds_notWay earlier.content node (nodeEq.symm.trans isNode)] at isWay
            cases isWay
          exact (node_put_of_ne elsewhere).trans (sameWays other node isNode isWay)
        · rw [isFile]
          rintro _ ⟨⟩
          rfl
      · rw [isFile]
        simp

/-- A new file that brings a path to life does so whatever else is made. -/
theorem pathExists_of_exists (makeable : Makeable (done ++ plan :: rest) disk)
    (isNew : plan.original = none) (member : earlier ∈ done) (wasNew : earlier.original = none)
    (kindled : (withFile disk.files earlier.target).pathExists disk.links plan.target = true) :
    (made done disk.files).pathExists disk.links plan.target = true := by
  have notFound := ((makeable.fits plan (by simp)).isNew isNew).2
  obtain ⟨target, leads, occupied⟩ := pathExists_eq_true.mp kindled
  have doneMakeable := makeable.of_append
  have settable := doneMakeable.settable member
  have isHere : target = earlier.target := by
    by_contra elsewhere
    have led := leads_of_withFile leads settable elsewhere
    rw [withFile, node_put_of_ne elsewhere] at occupied
    rw [pathExists_eq_true.mpr ⟨target, led, occupied⟩] at notFound
    cases notFound
  subst isHere
  have nowFile : ∀ new ∈ done, new.original = none →
      ∃ content, (made done disk.files).node new.target = some (.file content) := by
    intro new inDone isNew
    obtain ⟨content, contentEq⟩ :=
      Option.ne_none_iff_exists'.mp ((doneMakeable.fits new inDone).isNew isNew).1
    refine ⟨content, ?_⟩
    rw [node_made_target doneMakeable.distinct inDone (doneMakeable.settable inDone), contentEq]
    rfl
  have targeted : ∀ other, (made done disk.files).node other ≠
      (withFile disk.files earlier.target).node other → ∃ new ∈ done, other = new.target := by
    intro other differ
    by_cases same : other = earlier.target
    · exact ⟨earlier, member, same⟩
    · rw [withFile, node_put_of_ne same] at differ
      obtain ⟨new, inDone, targetEq, -⟩ := doneMakeable.changed differ
      exact ⟨new, inDone, targetEq⟩
  rw [pathExists_eq_true]
  refine leads.reaches isDirectory_root le_rfl ?_ ?_ (nowFile earlier member wasNew)
  · intro other node isNode isWay differ
    obtain ⟨new, inDone, rfl⟩ := targeted other differ
    rcases doneMakeable.file_or_dead inDone with ⟨content, -, isFile⟩ | ⟨isNew, -⟩
    · have elsewhere : new.target ≠ earlier.target := by
        intro same
        rw [same, withFile, node_put_self settable] at isNode
        cases isNode
        cases isWay
      rw [withFile, node_put_of_ne elsewhere, isFile] at isNode
      cases isNode
      cases isWay
    · exact nowFile new inDone isNew
  · intro directory name differ middle toMiddle
    by_contra passed
    rw [Bool.not_eq_false, withFile, isDirectory_put (by simp)] at passed
    have elsewhere : middle ≠ earlier.target := by
      rintro rfl
      rw [settable.2] at passed
      cases passed
    have led := leads_of_withFile toMiddle settable elsewhere
    obtain ⟨new, inDone, targetEq⟩ := targeted _ differ
    rcases doneMakeable.file_or_dead inDone with ⟨content, -, isFile⟩ | ⟨-, notFound⟩
    · rw [← targetEq] at isFile
      generalize disk.links = limit at led
      cases led with
      | last _ =>
          rw [isDirectory_eq_true, isFile] at passed
          cases passed
      | into isDirectory _ => cases isFile.symm.trans isDirectory
      | follow isLink _ => cases isFile.symm.trans isLink
    · have inDirectory := doneMakeable.inDirectory new inDone
      rw [← targetEq, List.dropLast_concat] at inDirectory
      have isNone := isDead_of_not_pathExists inDirectory (targetEq ▸ notFound) middle led
      cases isNone.symm.trans (isDirectory_eq_true.mp passed)

end Makeable

end Kindle

/-- Plan and make the sections of a patch one after the other. -/
def applyEach (root : Place) : List ParsedChange → Fallible Disk PatchError Unit
  | [] => pure ()
  | change :: rest => do
      let disk ← get
      let plans ← Fallible.ofExcept (buildPlans disk root [change])
      let _reports ← applyPlans none plans
      applyEach root rest

section Each

variable {disk : Disk} {root : Place} {change : ParsedChange} {changes : List ParsedChange}
  {plan : PlannedChange} {plans done rest : List PlannedChange}

theorem buildPlans_singleton :
    buildPlans disk root [change] = (buildPlan disk root change).map fun plan => [plan] := by
  unfold buildPlans
  rw [List.mapM_cons, List.mapM_nil]
  cases buildPlan disk root change <;> rfl

theorem exec_applyEach_refused {error : PatchError}
    (refused : buildPlan disk root change = .error error) :
    (applyEach root (change :: changes)).exec disk = (.error error, disk) := by
  rw [applyEach, exec_bind, exec_get]
  dsimp only
  rw [exec_bind, exec_ofExcept, buildPlans_singleton, refused]
  rfl

/-- Plans that can all be made are made when no call fails. -/
theorem exec_applyPlans (makeable : Makeable plans disk) (fresh : StampsFresh plans disk) :
    ∃ readings, (applyPlans none plans).exec disk =
      (.ok (plans.map PlannedChange.report), disk.madeBy plans readings) := by
  have ended := loopEnd_of_start none makeable.distinct makeable.fits fresh
  rw [applyPlans, exec_bind]
  generalize (applyLoop none [] plans).exec disk = ran at ended
  obtain ⟨result, final⟩ := ran
  cases ended with
  | made readings => exact ⟨readings, rfl⟩
  | blocked before after plan error readings plansEq inDirectory notDirectory =>
      have isDirectory := makeable.inDirectory plan (by rw [plansEq]; simp)
      rw [notDirectory] at isDirectory
      cases isDirectory
  | wrecked before after plan struck wreck error reading readings plansEq inDirectory faultEq =>
      cases faultEq

theorem exec_applyEach_planned (changes : List ParsedChange)
    (built : buildPlan disk root change = .ok plan) (makeable : Makeable [plan] disk)
    (fresh : StampsFresh [plan] disk) :
    ∃ readings, (applyEach root (change :: changes)).exec disk =
      (applyEach root changes).exec (disk.madeBy [plan] readings) := by
  obtain ⟨readings, ran⟩ := exec_applyPlans makeable fresh
  refine ⟨readings, ?_⟩
  rw [applyEach, exec_bind, exec_get]
  dsimp only
  rw [exec_bind, exec_ofExcept, buildPlans_singleton, built]
  change (applyPlans none [plan] >>= fun _ => applyEach root changes).exec disk = _
  rw [exec_bind, ran]

theorem StampsFresh.later (fresh : StampsFresh (done ++ plan :: rest) disk) (readings : Nat) :
    StampsFresh [plan] (disk.madeBy done readings) := by
  have planMember : plan ∈ done ++ plan :: rest := by simp
  constructor
  · simp only [List.mem_singleton, forall_eq]
    intro reading
    refine (node_made_of_not_target ?_).trans (fresh.unused plan planMember reading)
    intro earlier member
    exact fresh.untargeted plan planMember earlier (List.mem_append_left _ member) reading
  · simp only [List.mem_singleton, forall_eq]
    exact fresh.untargeted plan planMember plan planMember

theorem Makeable.later (makeable : Makeable (done ++ plan :: rest) disk) {readings : Nat}
    (built : buildPlan (disk.madeBy done readings) root change = .ok plan) :
    Makeable [plan] (disk.madeBy done readings) := by
  refine ⟨List.pairwise_singleton _ _, ?_, ?_⟩
  · simp only [List.mem_singleton, forall_eq]
    exact buildPlan_fits built
  · simp only [List.mem_singleton, forall_eq]
    exact isDirectory_made.trans (makeable.inDirectory plan (by simp))

theorem madeBy_madeBy (readings next : Nat) :
    (disk.madeBy done readings).madeBy [plan] next = disk.madeBy (done ++ [plan]) next := by
  unfold Disk.madeBy
  rw [made_append]
  rfl

/-- No path to a new file is brought to life by an earlier section. -/
def StayDead (disk : Disk) : List PlannedChange → List PlannedChange → Prop
  | _, [] => True
  | done, plan :: rest =>
      (plan.original = none → (made done disk.files).pathExists disk.links plan.target = false) ∧
        StayDead disk (done ++ [plan]) rest

theorem applyEach_iff (done : List PlannedChange) (makeable : Makeable (done ++ plans) disk)
    (fresh : StampsFresh (done ++ plans) disk)
    (built : buildPlans disk root changes = .ok plans) (readings : Nat) :
    (∃ last, (applyEach root changes).exec (disk.madeBy done readings) = (.ok (), last) ∧
        last.files = made (done ++ plans) disk.files) ↔
      StayDead disk done plans := by
  induction changes generalizing done plans readings with
  | nil =>
      rw [buildPlans_nil.mp built, List.append_nil]
      exact iff_of_true ⟨_, rfl, rfl⟩ trivial
  | cons change changes ih =>
      obtain ⟨plan, rest, planBuilt, restBuilt, rfl⟩ := buildPlans_cons.mp built
      rcases makeable.buildPlan_later readings planBuilt with
        ⟨dead, laterBuilt⟩ | ⟨⟨isNew, alive⟩, error, refused⟩
      · have shifted : done ++ plan :: rest = (done ++ [plan]) ++ rest := by simp
        obtain ⟨next, ran⟩ := exec_applyEach_planned changes laterBuilt
          (makeable.later laterBuilt) (fresh.later readings)
        have further := ih (done ++ [plan]) (shifted ▸ makeable)
          (shifted ▸ fresh) restBuilt next
        rw [← shifted] at further
        rw [ran, madeBy_madeBy, further, StayDead]
        exact (and_iff_right dead).symm
      · rw [exec_applyEach_refused refused]
        refine iff_of_false ?_ ?_
        · rintro ⟨last, ran, -⟩
          cases ran
        · rintro ⟨dead, -⟩
          rw [dead isNew] at alive
          cases alive

/-- The first change does not bring the path of the second to life. -/
def KeepsDead (disk : Disk) (earlier later : PlannedChange) : Prop :=
  earlier.original = none → later.original = none →
    (withFile disk.files earlier.target).pathExists disk.links later.target = false

theorem dead_iff (makeable : Makeable (done ++ plan :: rest) disk) :
    (plan.original = none → (made done disk.files).pathExists disk.links plan.target = false) ↔
      ∀ earlier ∈ done, KeepsDead disk earlier plan := by
  constructor
  · intro dead earlier member wasNew isNew
    by_contra kindled
    rw [Bool.not_eq_false] at kindled
    have alive := makeable.pathExists_of_exists isNew member wasNew kindled
    rw [dead isNew] at alive
    cases alive
  · intro keepDead isNew
    by_contra alive
    rw [Bool.not_eq_false] at alive
    obtain ⟨earlier, member, wasNew, kindled⟩ := makeable.exists_of_pathExists isNew alive
    rw [keepDead earlier member wasNew isNew] at kindled
    cases kindled

/-- Whether paths come to life can be told from two sections at a time. -/
theorem stayDead_iff (done : List PlannedChange) (makeable : Makeable (done ++ plans) disk) :
    StayDead disk done plans ↔
      plans.Pairwise (KeepsDead disk) ∧
        ∀ earlier ∈ done, ∀ later ∈ plans, KeepsDead disk earlier later := by
  induction plans generalizing done with
  | nil => simp [StayDead]
  | cons plan rest ih =>
      have shifted : done ++ plan :: rest = (done ++ [plan]) ++ rest := by simp
      rw [StayDead, dead_iff makeable, ih (done ++ [plan]) (shifted ▸ makeable),
        List.pairwise_cons]
      simp only [List.forall_mem_append, List.forall_mem_cons]
      constructor
      · rintro ⟨thisDead, restDead, doneDead, planDead, -⟩
        exact ⟨⟨planDead, restDead⟩, fun earlier member =>
          ⟨thisDead earlier member, doneDead earlier member⟩⟩
      · rintro ⟨⟨planDead, restDead⟩, doneDead⟩
        exact ⟨fun earlier member => (doneDead earlier member).1, restDead,
          fun earlier member => (doneDead earlier member).2, planDead, by simp⟩

end Each

def ParsedChange.isAdd (change : ParsedChange) : Bool :=
  match change.kind with
  | .add _ => true
  | _ => false

/-- The place of a section on the disk as it is. -/
def sectionPlace (disk : Disk) (root : Place) (change : ParsedChange) :
    Except PatchError Place :=
  resolveTarget disk root change.path (!change.isAdd)

/-- Two sections have different places, and a file that the first adds brings no path that
the second adds to life. -/
structure Apart (disk : Disk) (root : Place) (earlier later : ParsedChange) : Prop where
  differ : sectionPlace disk root earlier ≠ sectionPlace disk root later
  staysDead : ∀ place other, earlier.isAdd = true → later.isAdd = true →
    sectionPlace disk root earlier = .ok place → sectionPlace disk root later = .ok other →
      (withFile disk.files place).pathExists disk.links other = false

/-- Targets are different and below the root, no file is overwritten by an added one, and
the files are those that the sections leave one after the other. -/
structure SectionWise (root : Place) (changes : List ParsedChange)
    (plans : List PlannedChange) (disk final : Disk) : Prop where
  distinct : Distinct plans
  below : ∀ plan ∈ plans, root <+: plan.target
  overwritesNone : ∀ before plan after, plans = before ++ plan :: after → plan.kind = .added →
    ∀ content, ((applyPlans none before).exec disk).2.files.node plan.target ≠
      some (.file content)
  sequential : ∃ last, (applyEach root changes).exec disk = (.ok (), last) ∧
    last.files = final.files

section Patch

variable {disk : Disk} {root : Place} {change other : ParsedChange}
  {changes : List ParsedChange} {plan otherPlan : PlannedChange} {plans : List PlannedChange}

theorem sectionPlace_of_built (built : buildPlan disk root change = .ok plan) :
    sectionPlace disk root change = .ok plan.target ∧
      (change.isAdd = true ↔ plan.original = none) ∧
      (plan.kind = .added ↔ plan.original = none) := by
  unfold buildPlan at built
  unfold sectionPlace ParsedChange.isAdd
  split at built
  case h_1 lines kindEq =>
    simp only [Except.bind_eq_ok, Except.pure_eq_ok] at built
    obtain ⟨target, resolved, -, -, rfl⟩ := built
    rw [kindEq]
    exact ⟨resolved, by simp, by simp⟩
  case h_2 kindEq =>
    simp only [Except.bind_eq_ok, Except.pure_eq_ok] at built
    obtain ⟨target, resolved, original, -, rfl⟩ := built
    rw [kindEq]
    exact ⟨resolved, by simp, by simp⟩
  case h_3 hunks kindEq =>
    simp only [Except.bind_eq_ok, Except.pure_eq_ok] at built
    obtain ⟨target, resolved, original, -, applied, -, rfl⟩ := built
    rw [kindEq]
    exact ⟨resolved, by simp, by simp⟩

theorem apart_iff (built : buildPlan disk root change = .ok plan)
    (otherBuilt : buildPlan disk root other = .ok otherPlan) :
    Apart disk root change other ↔
      plan.target ≠ otherPlan.target ∧ KeepsDead disk plan otherPlan := by
  obtain ⟨place, isAdd, -⟩ := sectionPlace_of_built built
  obtain ⟨otherPlace, otherIsAdd, -⟩ := sectionPlace_of_built otherBuilt
  constructor
  · rintro ⟨differ, staysDead⟩
    rw [place, otherPlace] at differ
    refine ⟨fun same => differ (congrArg Except.ok same), ?_⟩
    intro isNew otherIsNew
    exact staysDead _ _ (isAdd.mpr isNew) (otherIsAdd.mpr otherIsNew) place otherPlace
  · rintro ⟨differ, keepsDead⟩
    constructor
    · rw [place, otherPlace]
      exact fun same => differ (Except.ok.inj same)
    · intro first second added otherAdded firstEq secondEq
      cases place.symm.trans firstEq
      cases otherPlace.symm.trans secondEq
      exact keepsDead (isAdd.mp added) (otherIsAdd.mp otherAdded)

/-- Whether sections are apart shows in their plans. -/
theorem pairwise_apart_iff (built : buildPlans disk root changes = .ok plans) :
    changes.Pairwise (Apart disk root) ↔
      Distinct plans ∧ plans.Pairwise (KeepsDead disk) := by
  unfold Distinct
  rw [← List.pairwise_and_iff]
  induction changes generalizing plans with
  | nil =>
      rw [buildPlans_nil.mp built]
      simp
  | cons change changes ih =>
      obtain ⟨plan, rest, planBuilt, restBuilt, rfl⟩ := buildPlans_cons.mp built
      rw [List.pairwise_cons, List.pairwise_cons, ih restBuilt]
      refine and_congr_left' ?_
      clear ih built
      induction changes generalizing rest with
      | nil =>
          rw [buildPlans_nil.mp restBuilt]
          simp
      | cons next changes ih =>
          obtain ⟨nextPlan, last, nextBuilt, lastBuilt, rfl⟩ := buildPlans_cons.mp restBuilt
          rw [List.forall_mem_cons, List.forall_mem_cons, apart_iff planBuilt nextBuilt,
            ih last lastBuilt]

theorem stampsFresh_of_append {before after : List PlannedChange}
    (fresh : StampsFresh (before ++ after) disk) : StampsFresh before disk where
  unused plan member := fresh.unused plan (List.mem_append_left _ member)
  untargeted plan member other otherMember :=
    fresh.untargeted plan (List.mem_append_left _ member) other
      (List.mem_append_left _ otherMember)

/-- The root is a prefix of every target. -/
theorem root_isPrefix (built : buildPlans disk root changes = .ok plans) :
    ∀ plan ∈ plans, root <+: plan.target := by
  induction changes generalizing plans with
  | nil =>
      rw [buildPlans_nil.mp built]
      simp
  | cons change changes ih =>
      obtain ⟨plan, rest, planBuilt, restBuilt, rfl⟩ := buildPlans_cons.mp built
      refine List.forall_mem_cons.mpr ⟨?_, ih restBuilt⟩
      rcases buildPlan_spec planBuilt with ⟨parent, name, targetEq, below, -⟩ | ⟨below, -⟩
      · rw [targetEq]
        exact below.trans (List.prefix_append parent [name])
      · exact below

theorem isNew_of_added (built : buildPlans disk root changes = .ok plans) :
    ∀ plan ∈ plans, plan.kind = .added → plan.original = none := by
  induction changes generalizing plans with
  | nil =>
      rw [buildPlans_nil.mp built]
      simp
  | cons change changes ih =>
      obtain ⟨plan, rest, planBuilt, restBuilt, rfl⟩ := buildPlans_cons.mp built
      exact List.forall_mem_cons.mpr
        ⟨(sectionPlace_of_built planBuilt).2.2.mp, ih restBuilt⟩

/-- New files that no other section names overwrite none. -/
theorem Makeable.overwritesNone (makeable : Makeable plans disk) (fresh : StampsFresh plans disk)
    (built : buildPlans disk root changes = .ok plans) (before : List PlannedChange)
    (plan : PlannedChange) (after : List PlannedChange) (plansEq : plans = before ++ plan :: after)
    (added : plan.kind = .added) (content : ByteArray) :
    ((applyPlans none before).exec disk).2.files.node plan.target ≠ some (.file content) := by
  have isNew := isNew_of_added built plan (by rw [plansEq]; simp) added
  subst plansEq
  obtain ⟨readings, ran⟩ := exec_applyPlans makeable.of_append (stampsFresh_of_append fresh)
  rw [ran]
  intro isFile
  have wasFile : disk.files.node plan.target = some (.file content) :=
    (node_made_of_not_target makeable.distinct.split.2.1).symm.trans isFile
  have notFound := ((makeable.fits plan (by simp)).isNew isNew).2
  rw [pathExists_of_file wasFile] at notFound
  cases notFound

/-- A patch that is applied gives what its sections give one after the other if they have
different places on the disk as it is and no added file brings the path of a later one to
life, and only then. -/
theorem applyPatch_sections_iff (request : PatchApplyRequest) (disk final : Disk)
    (reports : List PatchFileChange)
    (fresh : StampsFresh (plansOf disk request) disk)
    (accepted : (applyPatch none request).exec disk = (.ok reports, final)) :
    ∃ root changes plans, planPatch disk request = .ok (root, changes, plans) ∧
      (SectionWise root changes plans disk final ↔ changes.Pairwise (Apart disk root)) := by
  cases planned : planPatch disk request with
  | error error =>
      rw [exec_applyPatch_refused none planned] at accepted
      cases accepted
  | ok found =>
      obtain ⟨root, changes, plans⟩ := found
      refine ⟨root, changes, plans, rfl, ?_⟩
      rw [plansOf_of_planned planned] at fresh
      have built := (planPatch_spec planned).2.2
      rw [pairwise_apart_iff built]
      by_cases distinct : Distinct plans
      · have ended := loopEnd_of_start none distinct (buildPlans_fit built) fresh
        rw [exec_applyPatch_planned none planned] at accepted
        generalize (applyLoop none [] plans).exec disk = ran at ended accepted
        obtain ⟨result, last⟩ := ran
        cases ended with
        | made readings inDirectory =>
            have makeable : Makeable plans disk := ⟨distinct, buildPlans_fit built, inDirectory⟩
            have each : (∃ last, (applyEach root changes).exec disk = (.ok (), last) ∧
                last.files = made plans disk.files) ↔ StayDead disk [] plans :=
              applyEach_iff [] makeable fresh built disk.readings
            have dead : StayDead disk [] plans ↔ plans.Pairwise (KeepsDead disk) ∧
                ∀ earlier ∈ [], ∀ later ∈ plans, KeepsDead disk earlier later :=
              stayDead_iff [] makeable
            cases accepted
            constructor
            · exact fun sectionWise => ⟨distinct, (dead.mp (each.mp sectionWise.sequential)).1⟩
            · rintro ⟨-, keepDead⟩
              exact {
                distinct := distinct
                below := root_isPrefix built
                overwritesNone := makeable.overwritesNone fresh built
                sequential := each.mpr (dead.mpr ⟨keepDead, by simp⟩) }
        | blocked => cases accepted
        | wrecked => cases accepted
      · refine iff_of_false ?_ ?_
        · exact fun sectionWise => distinct sectionWise.distinct
        · exact fun apart => distinct apart.1

end Patch

/-! A patch that names one file twice, once through a link to its directory. -/

def aliasDisk : Disk where
  files := ((FileTree.bare String ByteArray).put ["a"] (some .directory)).put ["link"]
    (some (.link false [.down "a"]))
  currentDirectory := []
  links := 40
  clock := id
  readings := 0

def aliasRequest : PatchApplyRequest where
  grant := sampleGrant
  patch := "*** Begin Patch\n*** Add File: a/f\n+one\n*** Add File: link/f\n+two\n*** End Patch\n"

def aliasPlan (path line : String) : PlannedChange where
  target := ["a", "f"]
  relative := path
  kind := .added
  content := some (line ++ "\n").toUTF8
  original := none
  addedLines := 1
  removedLines := 0

def aliasPlans : List PlannedChange :=
  [aliasPlan "a/f" "one", aliasPlan "link/f" "two"]

theorem plansOf_alias : plansOf aliasDisk aliasRequest = aliasPlans := by
  decide +kernel

theorem alias_fresh : StampsFresh aliasPlans aliasDisk := by
  have targets : ∀ plan ∈ aliasPlans, plan.target = ["a", "f"] := by decide
  have temporary : ∀ plan ∈ aliasPlans, ∀ reading,
      plan.temporary aliasDisk reading = ["a", temporaryName reading] := by
    intro plan member reading
    rw [PlannedChange.temporary, temporaryPath, targets plan member]
    exact rfl
  have filesEq : aliasDisk.files = ((FileTree.bare String ByteArray).put ["a"]
      (some .directory)).put ["link"] (some (.link false [.down "a"])) := rfl
  constructor
  · intro plan member reading
    rw [temporary plan member, filesEq, node_put_of_ne (by simp), node_put_of_ne (by simp)]
    exact rfl
  · intro plan member other otherMember reading
    rw [temporary plan member, targets other otherMember]
    intro same
    exact temporaryName_ne (by decide) (List.cons.inj (List.cons.inj same).2).1

theorem alias_accepted : (applyPatch none aliasRequest).exec aliasDisk =
    (.ok (aliasPlans.map PlannedChange.report),
      ((applyPatch none aliasRequest).exec aliasDisk).2) := by
  refine Prod.ext ?_ rfl
  decide +kernel

theorem applyPatch_sections_iff_alias :
    ∃ root changes plans, planPatch aliasDisk aliasRequest = .ok (root, changes, plans) ∧
      (SectionWise root changes plans aliasDisk
          ((applyPatch none aliasRequest).exec aliasDisk).2 ↔
        changes.Pairwise (Apart aliasDisk root)) :=
  applyPatch_sections_iff aliasRequest aliasDisk _ _ (plansOf_alias ▸ alias_fresh) alias_accepted

/-- Through a link to its directory a patch can name a file twice; the second section then
overwrites what the first has added. -/
theorem alias_overwrites :
    ¬ ∀ (request : PatchApplyRequest) (disk final : Disk) (reports : List PatchFileChange),
      StampsFresh (plansOf disk request) disk →
      (applyPatch none request).exec disk = (.ok reports, final) →
      ∃ root changes plans, planPatch disk request = .ok (root, changes, plans) ∧
        SectionWise root changes plans disk final := by
  intro always
  obtain ⟨root, changes, plans, planned, sectionWise⟩ :=
    always aliasRequest aliasDisk _ _ (plansOf_alias ▸ alias_fresh) alias_accepted
  have distinct := sectionWise.distinct
  rw [← plansOf_of_planned planned, plansOf_alias] at distinct
  revert distinct
  decide

end ToolPatch
end YunXi
