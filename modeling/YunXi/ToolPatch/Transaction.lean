import YunXi.ToolPatch.Plan
import Mathlib.Data.List.Nodup

/-!
# Patches as transactions

A patch of which one file-system call fails is rolled back.  That undoes the changes made
before the failing one; what the failing change itself has done by then stays.
-/

namespace YunXi
namespace ToolPatch

open Fallible
open FileTree

/-- The plans a request gets on a disk. -/
def plansOf (disk : Disk) (request : PatchApplyRequest) : List PlannedChange :=
  match planPatch disk request with
  | .ok (_, _, plans) => plans
  | .error _ => []

/-- The content found at a path. -/
def Disk.contentAt (disk : Disk) (place : Place) : Option ByteArray :=
  (disk.files.read disk.links place).toOption

/-- Every target has the content it had, and no temporary file is left. -/
structure Untouched (plans : List PlannedChange) (before after : Disk) : Prop where
  content : ∀ plan ∈ plans, after.contentAt plan.target = before.contentAt plan.target
  noTemporary : ∀ plan ∈ plans, ∀ reading,
    after.files.node (plan.temporary before reading) = none

/-- The clock gives no temporary file the name of a file there is or of a target. -/
structure StampsFresh (plans : List PlannedChange) (disk : Disk) : Prop where
  unused : ∀ plan ∈ plans, ∀ reading, disk.files.node (plan.temporary disk reading) = none
  untargeted : ∀ plan ∈ plans, ∀ other ∈ plans, ∀ reading,
    plan.temporary disk reading ≠ other.target

variable (fault : Option Fault)

section Loop

variable {disk : Disk} {plans before after : List PlannedChange} {plan : PlannedChange}

theorem Distinct.split (distinct : Distinct (before ++ plan :: after)) :
    Distinct before ∧ (∀ earlier ∈ before, plan.target ≠ earlier.target) ∧
      ∀ later ∈ after, later.target ≠ plan.target := by
  obtain ⟨beforeDistinct, restDistinct, differ⟩ := List.pairwise_append.mp distinct
  refine ⟨beforeDistinct, ?_, ?_⟩
  · intro earlier member
    exact (differ earlier member plan List.mem_cons_self).symm
  · intro later member
    exact ((List.pairwise_cons.mp restDistinct).1 later member).symm

theorem Distinct.eq_of_target (distinct : Distinct plans) {first second : PlannedChange}
    (inFirst : first ∈ plans) (inSecond : second ∈ plans) (same : first.target = second.target) :
    first = second := by
  have nodup : (plans.map PlannedChange.target).Nodup := List.pairwise_map.mpr distinct
  exact List.inj_on_of_nodup_map nodup inFirst inSecond same

/-- A plan in a directory can be carried out after the ones before it. -/
theorem ready_made (distinct : Distinct (before ++ plan :: after))
    (fits : ∀ member ∈ before ++ plan :: after, member.Fits disk)
    (fresh : StampsFresh (before ++ plan :: after) disk)
    (inDirectory : disk.files.isDirectory plan.target.dropLast = true) :
    plan.Ready disk (made before disk.files) := by
  have member : plan ∈ before ++ plan :: after := by simp
  have notBefore := distinct.split.2.1
  refine ⟨settable_made.mpr ((fits plan member).settable inDirectory), ?_, ?_, ?_⟩
  · intro noContent
    rw [node_made_of_not_target notBefore]
    cases originalEq : plan.original with
    | none => exact absurd noContent ((fits plan member).isNew originalEq).1
    | some original =>
        rw [(fits plan member).existing original originalEq]
        simp
  · intro reading
    rw [node_made_of_not_target]
    · exact fresh.unused plan member reading
    · intro earlier inBefore
      exact fresh.untargeted plan member earlier (by simp [inBefore]) reading
  · exact fresh.untargeted plan member plan member

/-- Only the clock matters of the disk that a change is ready on. -/
theorem PlannedChange.Ready.of_clock {other : Disk} {files : Files}
    (ready : plan.Ready disk files) (sameClock : other.clock = disk.clock) :
    plan.Ready other files := by
  obtain ⟨settable, present, unused, differs⟩ := ready
  unfold PlannedChange.temporary at unused differs
  rw [← sameClock] at unused differs
  exact ⟨settable, present, unused, differs⟩

/-- How the loop ends: all changes are made, one cannot be written below a file, or one is
wrecked by the fault; then what was made before is rolled back. -/
inductive LoopEnd (fault : Option Fault) (plans : List PlannedChange) (disk : Disk) :
    Except PatchError Unit → Disk → Prop
  | made (readings : Nat) :
      (∀ plan ∈ plans, disk.files.isDirectory plan.target.dropLast = true) →
      LoopEnd fault plans disk (.ok ()) { disk with files := made plans disk.files, readings }
  | blocked (before after : List PlannedChange) (plan : PlannedChange) (error : PatchError)
      (readings : Nat) :
      plans = before ++ plan :: after →
      (∀ earlier ∈ before, disk.files.isDirectory earlier.target.dropLast = true) →
      disk.files.isDirectory plan.target.dropLast = false →
      LoopEnd fault plans disk (.error error)
        { disk with
          files := rollback disk.links before (ToolPatch.made before disk.files), readings }
  | wrecked (before after : List PlannedChange) (plan : PlannedChange) (struck : Fault)
      (wreck : Files) (error : PatchError) (reading readings : Nat) :
      plans = before ++ plan :: after →
      (∀ earlier ∈ before, disk.files.isDirectory earlier.target.dropLast = true) →
      fault = some struck → struck.target = plan.target →
      plan.Ready disk (ToolPatch.made before disk.files) →
      WreckedBy struck plan
        { disk with files := ToolPatch.made before disk.files, readings := reading } wreck →
      LoopEnd fault plans disk (.error error)
        { disk with files := rollback disk.links before wreck, readings }

theorem made_append (plans : List PlannedChange) (plan : PlannedChange) (files : Files) :
    made (plans ++ [plan]) files = plan.after (made plans files) := by
  simp [made]

theorem exec_applyLoop_cons (applied rest : List PlannedChange)
    (plan : PlannedChange) (disk : Disk) :
    (applyLoop fault applied (plan :: rest)).exec disk =
      match (applyOne fault plan).exec disk with
      | (.ok (), middle) => (applyLoop fault (applied ++ [plan]) rest).exec middle
      | (.error error, middle) => (.error (.transaction (displayError error)),
          { middle with files := rollback middle.links applied middle.files }) := by
  rw [applyLoop, exec_bind, exec_attempt, id]
  rcases (applyOne fault plan).exec disk with ⟨result, middle⟩
  cases result <;> rfl

theorem applyLoop_end (fault : Option Fault) {applied rest : List PlannedChange}
    (distinct : Distinct (applied ++ rest))
    (fits : ∀ plan ∈ applied ++ rest, plan.Fits disk)
    (fresh : StampsFresh (applied ++ rest) disk)
    (appliedInDirectory : ∀ plan ∈ applied,
      disk.files.isDirectory plan.target.dropLast = true)
    (readings : Nat) :
    let ran := (applyLoop fault applied rest).exec
      { disk with files := made applied disk.files, readings }
    LoopEnd fault (applied ++ rest) disk ran.1 ran.2 := by
  induction rest generalizing applied readings with
  | nil =>
      rw [List.append_nil]
      exact .made readings appliedInDirectory
  | cons plan rest ih =>
      intro ran
      let disk' : Disk := { disk with files := made applied disk.files, readings }
      have ranEq : ran = (applyLoop fault applied (plan :: rest)).exec disk' := rfl
      have planFits : plan.Fits disk := fits plan (by simp)
      rw [exec_applyLoop_cons] at ranEq
      cases inDirectory : disk.files.isDirectory plan.target.dropLast with
      | true =>
          have ready : plan.Ready disk (made applied disk.files) :=
            ready_made distinct fits fresh inDirectory
          have ended : OneEnd fault plan disk' ((applyOne fault plan).exec disk').1
              ((applyOne fault plan).exec disk').2 :=
            applyOne_end fault (ready.of_clock rfl)
          cases oneRan : (applyOne fault plan).exec disk' with
          | mk result middle =>
              rw [oneRan] at ended ranEq
              cases ended with
              | made later =>
                  have shifted : applied ++ plan :: rest = (applied ++ [plan]) ++ rest := by simp
                  have further := ih (shifted ▸ distinct) (shifted ▸ fits)
                    (shifted ▸ fresh) (List.forall_mem_append.mpr
                      ⟨appliedInDirectory, by simpa using inDirectory⟩) later
                  rw [made_append, ← shifted] at further
                  rw [ranEq]
                  exact further
              | wrecked struck files later faultEq targetEq wreck =>
                  rw [ranEq]
                  exact .wrecked applied rest plan struck files _ readings later rfl
                    appliedInDirectory faultEq targetEq ready wreck
      | false =>
          have isNew : plan.original = none ∧
              ∃ blocking, disk.files.node plan.target.dropLast = some (.file blocking) := by
            rcases planFits.inDirectory with isDirectory | isNew
            · rw [inDirectory] at isDirectory
              cases isDirectory
            · exact isNew
          obtain ⟨originalEq, blocking, isFile⟩ := isNew
          obtain ⟨content, contentEq⟩ := Option.ne_none_iff_exists'.mp (planFits.isNew originalEq).1
          have notWay : ∀ node, disk.files.node plan.target.dropLast = some node →
              node.isWay = false := by
            rw [isFile]
            rintro _ ⟨⟩
            rfl
          obtain ⟨error, oneRan⟩ : ∃ error, (applyOne fault plan).exec disk' =
              (.error error, { disk' with readings := disk'.readings + 1 }) :=
            applyOne_blocked fault contentEq (settable_made.mpr (settable_of_file isFile))
              (notWay_made notWay)
          rw [oneRan] at ranEq
          rw [ranEq]
          exact .blocked applied rest plan _ _ rfl appliedInDirectory inDirectory

/-- How the loop over all plans ends. -/
theorem loopEnd_of_start (distinct : Distinct plans)
    (fits : ∀ member ∈ plans, member.Fits disk) (fresh : StampsFresh plans disk) :
    LoopEnd fault plans disk ((applyLoop fault [] plans).exec disk).1
      ((applyLoop fault [] plans).exec disk).2 := by
  have noneInDirectory : ∀ member ∈ ([] : List PlannedChange),
      disk.files.isDirectory member.target.dropLast = true := by simp
  rw [← List.nil_append plans] at distinct fits fresh
  exact applyLoop_end fault distinct fits fresh noneInDirectory disk.readings

/-- Nothing is left that was not there, and every file that was changed is back. -/
theorem untouched_of_within {after : Disk}
    (sameLinks : after.links = disk.links)
    (fits : ∀ plan ∈ plans, plan.Fits disk)
    (fresh : StampsFresh plans disk)
    (within : ∀ place node, after.files.node place = some node →
      disk.files.node place = some node)
    (restored : ∀ plan ∈ plans, ∀ original, plan.original = some original →
      after.files.node plan.target = some (.file original)) :
    Untouched plans disk after := by
  constructor
  · intro plan member
    unfold Disk.contentAt
    cases originalEq : plan.original with
    | some original =>
        rw [read_of_file (restored plan member original originalEq),
          read_of_file ((fits plan member).existing original originalEq)]
    | none =>
        have notBefore := ((fits plan member).isNew originalEq).2
        have notAfter : after.files.pathExists after.links plan.target = false := by
          by_contra found
          rw [Bool.not_eq_false, sameLinks, pathExists_eq_true] at found
          obtain ⟨target, leads, occupied⟩ := found
          obtain ⟨node, isNode⟩ := Option.ne_none_iff_exists'.mp occupied
          have wasNode := within target node isNode
          have led : Leads disk.files disk.links [] (stepsTo plan.target) target :=
            leads.transfer (fun other node isNode _ => within other node isNode)
              (.inl (wasNode.trans isNode.symm))
          rw [pathExists_eq_true.mpr ⟨target, led, by rw [wasNode]; simp⟩] at notBefore
          cases notBefore
        rw [toOption_read_of_not_pathExists notBefore, toOption_read_of_not_pathExists notAfter]
  · intro plan member reading
    by_contra occupied
    obtain ⟨node, isNode⟩ := Option.ne_none_iff_exists'.mp occupied
    have wasNode := within _ node isNode
    rw [fresh.unused plan member reading] at wasNode
    cases wasNode

variable {wreck : Files}

/-- Rolling back what was made before a wreck. -/
theorem rollback_wreck (distinct : Distinct (before ++ plan :: after))
    (fits : ∀ member ∈ before ++ plan :: after, member.Fits disk)
    (inDirectory : ∀ earlier ∈ before, disk.files.isDirectory earlier.target.dropLast = true)
    (settable : ∀ place, wreck.Settable place ↔ disk.files.Settable place)
    (kept : ∀ earlier ∈ before,
      wreck.node earlier.target = (made before disk.files).node earlier.target) :
    (∀ earlier ∈ before,
        (rollback disk.links before wreck).node earlier.target = holds earlier.original) ∧
      (∀ other, (∀ earlier ∈ before, other ≠ earlier.target) →
        (rollback disk.links before wreck).node other = wreck.node other) ∧
      ∀ other, (rollback disk.links before wreck).Settable other ↔ disk.files.Settable other := by
  have earlierFits : ∀ earlier ∈ before, earlier.Fits disk :=
    fun earlier member => fits earlier (List.mem_append_left _ member)
  have targetSettable : ∀ earlier ∈ before, disk.files.Settable earlier.target :=
    fun earlier member => (earlierFits earlier member).settable (inDirectory earlier member)
  obtain ⟨restored, others, keptSettable⟩ := rollback_spec disk.links distinct.split.1
    (fun earlier member => (settable _).mpr (targetSettable earlier member))
    (fun earlier member => (kept earlier member).trans
      (node_made_target distinct.split.1 member (targetSettable earlier member)))
    (fun earlier member isNew => ((earlierFits earlier member).isNew isNew).1)
  exact ⟨restored, others, fun other => (keptSettable other).trans (settable other)⟩

/-- Rolling back what was made before a wreck that has only lost new files. -/
theorem untouched_of_rollback (readings : Nat)
    (distinct : Distinct (before ++ plan :: after))
    (fits : ∀ member ∈ before ++ plan :: after, member.Fits disk)
    (fresh : StampsFresh (before ++ plan :: after) disk)
    (inDirectory : ∀ earlier ∈ before, disk.files.isDirectory earlier.target.dropLast = true)
    (settable : ∀ place, wreck.Settable place ↔ disk.files.Settable place)
    (within : ∀ place node, wreck.node place = some node →
      (made before disk.files).node place = some node)
    (kept : ∀ member ∈ before ++ plan :: after, member ∈ before ∨ member.original ≠ none →
      wreck.node member.target = (made before disk.files).node member.target) :
    Untouched (before ++ plan :: after) disk
      { disk with files := rollback disk.links before wreck, readings } := by
  have inAll : ∀ earlier ∈ before, earlier ∈ before ++ plan :: after :=
    fun earlier member => List.mem_append_left _ member
  obtain ⟨restored, others, -⟩ := rollback_wreck distinct fits inDirectory settable
    fun earlier member => kept earlier (inAll earlier member) (.inl member)
  refine untouched_of_within ?_ fits fresh ?_ ?_
  · rfl
  · intro place node isNode
    dsimp only at isNode
    by_cases isTarget : ∃ earlier ∈ before, place = earlier.target
    · obtain ⟨earlier, member, rfl⟩ := isTarget
      rw [restored earlier member] at isNode
      cases originalEq : earlier.original with
      | none =>
          rw [originalEq] at isNode
          cases isNode
      | some original =>
          rw [originalEq] at isNode
          rw [← isNode, (fits earlier (inAll earlier member)).existing original originalEq]
          rfl
    · push Not at isTarget
      rw [others place isTarget] at isNode
      rw [← node_made_of_not_target isTarget]
      exact within place node isNode
  · intro member inPlans original originalEq
    dsimp only
    by_cases isEarlier : member ∈ before
    · rw [restored member isEarlier, originalEq]
      rfl
    · have notTarget : ∀ earlier ∈ before, member.target ≠ earlier.target := by
        rcases List.mem_append.mp inPlans with inBefore | inRest
        · exact absurd inBefore isEarlier
        · intro earlier inBefore
          exact (List.pairwise_append.mp distinct).2.2 earlier inBefore member inRest |>.symm
      rw [others _ notTarget, kept member inPlans (.inr (by rw [originalEq]; simp)),
        node_made_of_not_target notTarget]
      exact (fits member inPlans).existing original originalEq

/-- A loop that fails leaves the targets untouched if the fault is harmless to the change
it strikes, and only then. -/
theorem loopEnd_untouched_iff {fault : Option Fault} {error : PatchError} {final : Disk}
    (ended : LoopEnd fault plans disk (.error error) final)
    (distinct : Distinct plans)
    (fits : ∀ member ∈ plans, member.Fits disk)
    (fresh : StampsFresh plans disk)
    (single : ∀ struck, fault = some struck →
      ∀ member ∈ plans, disk.files.isDirectory member.target.dropLast = true) :
    Untouched plans disk final ↔
      ∀ struck, fault = some struck → ∀ member ∈ plans, member.target = struck.target →
        struck.Harmless member := by
  cases ended with
  | blocked before after plan error readings plansEq inDirectory notDirectory =>
      subst plansEq
      have untouched := untouched_of_rollback readings distinct fits fresh inDirectory
        (fun _ => settable_made) (fun _ _ isNode => isNode) (fun _ _ _ => rfl)
      refine iff_of_true untouched ?_
      intro struck faultEq
      have isDirectory := single struck faultEq plan (by simp)
      rw [notDirectory] at isDirectory
      cases isDirectory
  | wrecked before after plan struck wreck error reading readings plansEq inDirectory faultEq
      targetEq ready wrecked =>
      subst plansEq
      have planMember : plan ∈ before ++ plan :: after := by simp
      have notBefore := distinct.split.2.1
      have settable : ∀ place, wreck.Settable place ↔ disk.files.Settable place :=
        fun place => wrecked.settable.trans settable_made
      have ready' : plan.Ready
          { disk with files := made before disk.files, readings := reading }
          (made before disk.files) := ready.of_clock rfl
      have elsewhere : ∀ member ∈ before ++ plan :: after, member ≠ plan →
          wreck.node member.target = (made before disk.files).node member.target := by
        intro member inPlans notPlan
        exact wrecked.node_of_ne (fun same => notPlan (distinct.eq_of_target inPlans planMember same))
          (fresh.untargeted plan planMember member inPlans reading).symm
      by_cases harmless : struck.Harmless plan
      · obtain ⟨within, keptTarget⟩ := wrecked.of_harmless ready' harmless
        refine iff_of_true (untouched_of_rollback readings distinct fits fresh inDirectory settable
          within ?_) ?_
        · intro member inPlans inBefore
          by_cases isPlan : member = plan
          · subst isPlan
            rcases inBefore with inBefore | wasThere
            · exact absurd rfl (notBefore _ inBefore)
            · exact keptTarget wasThere
          · exact elsewhere member inPlans isPlan
        · intro other otherEq member inPlans same
          cases faultEq.symm.trans otherEq
          rwa [distinct.eq_of_target inPlans planMember (same.trans targetEq)]
      · have harmful : ¬ ∀ other, fault = some other → ∀ member ∈ before ++ plan :: after,
            member.target = other.target → other.Harmless member :=
          fun allHarmless => harmless (allHarmless struck faultEq plan planMember targetEq.symm)
        refine iff_of_false ?_ harmful
        rintro ⟨sameContent, noTemporary⟩
        have keptEarlier : ∀ earlier ∈ before,
            wreck.node earlier.target = (made before disk.files).node earlier.target := by
          intro earlier inBefore
          refine elsewhere earlier (List.mem_append_left _ inBefore) ?_
          rintro rfl
          exact notBefore earlier inBefore rfl
        obtain ⟨-, others, keptSettable⟩ :=
          rollback_wreck distinct fits inDirectory settable keptEarlier
        have existing : ∀ original, plan.original = some original →
            (made before disk.files).node plan.target = some (.file original) := by
          intro original originalEq
          rw [node_made_of_not_target notBefore]
          exact (fits plan planMember).existing original originalEq
        rcases wrecked.of_not_harmless ready' existing harmless with
          temporaryLeft | ⟨original, originalEq, removed⟩
        · apply temporaryLeft
          rw [← noTemporary plan planMember reading]
          exact (others _ fun earlier inBefore => fresh.untargeted plan planMember earlier
            (List.mem_append_left _ inBefore) reading).symm
        · have isGone : (rollback disk.links before wreck).node plan.target = none :=
            (others plan.target notBefore).trans removed
          have notFound : (rollback disk.links before wreck).pathExists disk.links plan.target =
              false := by
            by_contra found
            exact node_ne_none_of_pathExists
              ((keptSettable _).mpr (settable_made.mp ready.settable))
              (Bool.not_eq_false _ ▸ found) isGone
          have hadContent := sameContent plan planMember
          unfold Disk.contentAt at hadContent
          rw [toOption_read_of_not_pathExists notFound,
            read_of_file ((fits plan planMember).existing original originalEq)] at hadContent
          cases hadContent

end Loop

section Patch

variable {disk : Disk} {request : PatchApplyRequest}

theorem exec_applyPatch_refused {error : PatchError}
    (refused : planPatch disk request = .error error) :
    (applyPatch fault request).exec disk = (.error error, disk) := by
  rw [applyPatch, exec_bind, exec_get]
  dsimp only
  rw [exec_bind, exec_ofExcept, refused]

theorem exec_applyPatch_planned {root : Place}
    {changes : List ParsedChange} {plans : List PlannedChange}
    (planned : planPatch disk request = .ok (root, changes, plans)) :
    (applyPatch fault request).exec disk =
      (((applyLoop fault [] plans).exec disk).1.map fun _ => plans.map PlannedChange.report,
        ((applyLoop fault [] plans).exec disk).2) := by
  rw [applyPatch, exec_bind, exec_get]
  dsimp only
  rw [exec_bind, exec_ofExcept, planned]
  dsimp only
  rw [applyPlans, exec_bind]
  rcases (applyLoop fault [] plans).exec disk with ⟨result, final⟩
  cases result <;> rfl

theorem plansOf_of_planned {root : Place} {changes : List ParsedChange}
    {plans : List PlannedChange}
    (planned : planPatch disk request = .ok (root, changes, plans)) :
    plansOf disk request = plans := by
  rw [plansOf, planned]

/-- A patch one of whose calls fails leaves everything untouched if the failing call is a
write that leaves no temporary file, the rename of a new file or a deletion, and only then:
otherwise a temporary file stays or a file is lost. -/
theorem applyPatch_untouched_iff (request : PatchApplyRequest)
    (disk : Disk) (error : PatchError)
    (distinct : Distinct (plansOf disk request))
    (fresh : StampsFresh (plansOf disk request) disk)
    (single : ∀ struck, fault = some struck →
      ∃ changes, ((applyPatch none request).exec disk).1 = .ok changes)
    (failed : ((applyPatch fault request).exec disk).1 = .error error) :
    Untouched (plansOf disk request) disk ((applyPatch fault request).exec disk).2 ↔
      ∀ struck, fault = some struck → ∀ plan ∈ plansOf disk request,
        plan.target = struck.target → struck.Harmless plan := by
  cases planned : planPatch disk request with
  | error refusal =>
      have noPlans : plansOf disk request = [] := by rw [plansOf, planned]
      rw [noPlans]
      exact iff_of_true ⟨by simp, by simp⟩ (by simp)
  | ok found =>
      obtain ⟨root, changes, plans⟩ := found
      rw [plansOf_of_planned planned] at distinct fresh ⊢
      have fits := buildPlans_fit (planPatch_spec planned).2.2
      simp only [exec_applyPatch_planned _ planned] at failed single ⊢
      have inDirectory : ∀ struck, fault = some struck →
          ∀ member ∈ plans, disk.files.isDirectory member.target.dropLast = true := by
        intro struck faultEq
        obtain ⟨_, succeeds⟩ := single struck faultEq
        have ended := loopEnd_of_start none distinct fits fresh
        generalize (applyLoop none [] plans).exec disk = ran at ended succeeds
        obtain ⟨result, final⟩ := ran
        cases ended with
        | made readings inDirectory => exact inDirectory
        | blocked => cases succeeds
        | wrecked => cases succeeds
      have ended := loopEnd_of_start fault distinct fits fresh
      generalize (applyLoop fault [] plans).exec disk = ran at ended failed
      obtain ⟨result, final⟩ := ran
      cases result with
      | ok value => cases failed
      | error error => exact loopEnd_untouched_iff ended distinct fits fresh inDirectory

end Patch

/-! A patch of one file whose renaming fails. -/

def sampleGrant : ActionGrant where
  workspace := ⟨⟨"/"⟩, true, true⟩
  workingDirectory := ⟨"/"⟩
  approval := .approved "ticket"
  allowWrite := true
  allowNetwork := false
  networkIsEmpty := true
  networkCheck := .ok ()
  secretCheck := .ok ()
  timeoutMillis := 1000
  maxOutputBytes := 1000

def sampleDisk : Disk where
  files := (FileTree.bare String ByteArray).put ["a"] (some (.file "old\n".toUTF8))
  currentDirectory := []
  links := 40
  clock := id
  readings := 0

def sampleRequest : PatchApplyRequest where
  grant := sampleGrant
  patch := "*** Begin Patch\n*** Update File: a\n@@\n-old\n+new\n*** End Patch\n"

def samplePlan : PlannedChange where
  target := ["a"]
  relative := "a"
  kind := .updated
  content := some "new\n".toUTF8
  original := some "old\n".toUTF8
  addedLines := 1
  removedLines := 1

def renameFault : Fault := ⟨["a"], .rename, .other "disk full", none⟩

theorem plansOf_sample : plansOf sampleDisk sampleRequest = [samplePlan] := by
  decide +kernel

theorem sample_fresh : StampsFresh [samplePlan] sampleDisk := by
  have elsewhere : ∀ reading, samplePlan.temporary sampleDisk reading ≠ ["a"] := by
    intro reading same
    exact temporaryName_ne (by decide) (List.singleton_inj.mp same)
  constructor
  · simp only [List.mem_singleton, forall_eq]
    intro reading
    have filesEq : sampleDisk.files =
        (FileTree.bare String ByteArray).put ["a"] (some (.file "old\n".toUTF8)) := rfl
    rw [filesEq, node_put_of_ne (elsewhere reading)]
    exact rfl
  · simp only [List.mem_singleton, forall_eq]
    exact elsewhere

theorem sample_succeeds :
    ((applyPatch none sampleRequest).exec sampleDisk).1 = .ok [samplePlan.report] := by
  decide +kernel

theorem sample_fails : ((applyPatch (some renameFault) sampleRequest).exec sampleDisk).1 =
      .error (.transaction "disk full") := by
  decide +kernel

theorem applyPatch_untouched_iff_sample :
    Untouched (plansOf sampleDisk sampleRequest) sampleDisk
        ((applyPatch (some renameFault) sampleRequest).exec sampleDisk).2 ↔
      ∀ struck, some renameFault = some struck → ∀ plan ∈ plansOf sampleDisk sampleRequest,
        plan.target = struck.target → struck.Harmless plan := by
  apply applyPatch_untouched_iff (some renameFault) sampleRequest sampleDisk
    (.transaction "disk full")
  · rw [plansOf_sample]
    decide
  · rw [plansOf_sample]
    exact sample_fresh
  · exact fun _ _ => ⟨[samplePlan.report], sample_succeeds⟩
  · exact sample_fails

/-- A file whose renaming fails is lost. -/
theorem renameFault_loses :
    ¬ ∀ (fault : Fault) (request : PatchApplyRequest) (disk : Disk) (error : PatchError),
      Distinct (plansOf disk request) → StampsFresh (plansOf disk request) disk →
      (∃ changes, ((applyPatch none request).exec disk).1 = .ok changes) →
      ((applyPatch (some fault) request).exec disk).1 = .error error →
      Untouched (plansOf disk request) disk ((applyPatch (some fault) request).exec disk).2 := by
  intro transaction
  have distinct : Distinct (plansOf sampleDisk sampleRequest) := by
    rw [plansOf_sample]
    decide
  have untouched := transaction renameFault sampleRequest sampleDisk (.transaction "disk full")
    distinct (plansOf_sample ▸ sample_fresh) ⟨[samplePlan.report], sample_succeeds⟩ sample_fails
  have sameContent := untouched.content samplePlan (by rw [plansOf_sample]; simp)
  revert sameContent
  decide +kernel

end ToolPatch
end YunXi
