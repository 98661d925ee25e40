import YunXi.CordisRuntime.Runtime
import YunXi.Program.Run

/-!
# Fibers and switches

A record holds a fiber exactly while its lifecycle is `Mounted`, the flag it shows is
the one its switch or its manifest asks for, and only `shutdown` takes the fiber of a
required plugin away.  Mounting and unmounting one plugin are described once, each by
one lemma; startup and the other operations are put together from these.
-/

namespace YunXi
namespace Runtime

open Fallible
open CordisCore

variable {σ π : Type}

/-- A record holds a fiber exactly while it is mounted, and only while it is enabled. -/
structure PluginRecord.Settled (record : PluginRecord) : Prop where
  mounted : record.fiber.isSome = true ↔ record.lifecycle = .mounted
  enabled : record.fiber.isSome = true → record.enabled = true

variable {record : PluginRecord}

namespace PluginRecord

theorem settled_new (manifest : PluginManifest) : (new manifest).Settled := by
  constructor
  · unfold new
    cases manifest.defaultEnabled <;> simp
  · simp [new]

/-- A record without a fiber is settled in every lifecycle but `Mounted`. -/
theorem settled_of_none (empty : record.fiber = none)
    (unmounted : record.lifecycle ≠ .mounted) :
    record.Settled := by
  constructor <;> simp [empty, unmounted]

theorem settled_deactivate (empty : record.fiber = none) :
    record.deactivateWithoutMount.Settled :=
  settled_of_none empty (by simp [deactivateWithoutMount])

theorem settled_enableBeforeStart (record : PluginRecord) :
    record.enableBeforeStart.Settled := by
  constructor
  · cases held : record.fiber <;> simp [enableBeforeStart, held]
  · simp [enableBeforeStart]

end PluginRecord

variable {definition : PluginDefinition}

variable (runtime : CordisRuntime σ)

namespace CordisRuntime

@[simp] theorem records_update_self
    (definition : PluginDefinition) (change : PluginRecord → PluginRecord) :
    (runtime.update definition change).records definition =
      change (runtime.records definition) := by
  simp [update]

@[simp] theorem records_update_of_ne {other : PluginDefinition} (different : other ≠ definition)
    (change : PluginRecord → PluginRecord) :
    (runtime.update definition change).records other = runtime.records other := by
  simp [update, different]

@[simp] theorem root_update
    (definition : PluginDefinition) (change : PluginRecord → PluginRecord) :
    (runtime.update definition change).root = runtime.root := rfl

end CordisRuntime

variable {α : Type}

@[simp] theorem wp_onRoot (call : Root σ → α × Root σ)
    (post : Except RuntimeError α → CordisRuntime σ → Prop) (runtime : CordisRuntime σ) :
    (onRoot call).wp post runtime ↔
      post (.ok (call runtime.root).1) { runtime with root := (call runtime.root).2 } :=
  Iff.rfl

@[simp] theorem wp_changeRecord (definition : PluginDefinition)
    (change : PluginRecord → PluginRecord)
    (post : Except RuntimeError Unit → CordisRuntime σ → Prop) (runtime : CordisRuntime σ) :
    (changeRecord definition change).wp post runtime ↔
      post (.ok ()) (runtime.update definition change) :=
  Iff.rfl

@[simp] theorem wp_caught (program : RuntimeM σ α)
    (post : Except RuntimeError (Except RuntimeError α) → CordisRuntime σ → Prop)
    (runtime : CordisRuntime σ) :
    (caught program).wp post runtime ↔
      program.wp (fun result final => post (.ok result) final) runtime :=
  Iff.rfl

@[simp] theorem wp_failMount (definition : PluginDefinition)
    (phase : FailurePhase) (error : RuntimeError)
    (post : Except RuntimeError α → CordisRuntime σ → Prop) (runtime : CordisRuntime σ) :
    (failMount definition phase error).wp post runtime ↔
      post (.error error)
        (runtime.update definition (PluginRecord.recordFailure phase error.display)) := by
  simp [failMount, wp_bind]

@[simp] theorem wp_discard (program : RuntimeM σ α)
    (post : Except RuntimeError Unit → CordisRuntime σ → Prop) (runtime : CordisRuntime σ) :
    (discard program).wp post runtime ↔
      program.wp (fun result final => post (result.map fun _ => ()) final) runtime := by
  change (program >>= fun _ => pure ()).wp post runtime ↔ _
  rw [wp_bind]
  constructor
  all_goals
    intro holds
    refine wp_mono holds ?_
    intro result final reached
    cases result with
    | ok value => exact reached
    | error error => exact reached

/-- Nothing but the root and the record of one definition may have changed. -/
structure Tended (definition : PluginDefinition) (before after : CordisRuntime σ) : Prop where
  others : ∀ other, other ≠ definition → after.records other = before.records other
  overrides : after.overrides = before.overrides
  started : after.started = before.started
  closed : after.closed = before.closed

variable {before after middle : CordisRuntime σ}

namespace Tended

theorem refl (definition : PluginDefinition) (runtime : CordisRuntime σ) :
    Tended definition runtime runtime :=
  ⟨fun _ _ => rfl, rfl, rfl, rfl⟩

theorem trans
    (first : Tended definition before middle) (second : Tended definition middle after) :
    Tended definition before after where
  others other different := (second.others other different).trans
    (first.others other different)
  overrides := second.overrides.trans first.overrides
  started := second.started.trans first.started
  closed := second.closed.trans first.closed

theorem update (definition : PluginDefinition) (runtime : CordisRuntime σ)
    (change : PluginRecord → PluginRecord) :
    Tended definition runtime (runtime.update definition change) where
  others _ different := CordisRuntime.records_update_of_ne runtime different change
  overrides := rfl
  started := rfl
  closed := rfl

theorem root (definition : PluginDefinition) (runtime : CordisRuntime σ) (root : Root σ) :
    Tended definition runtime { runtime with root := root } :=
  ⟨fun _ _ => rfl, rfl, rfl, rfl⟩

/-- What a plugin is asked to be depends on the switches alone. -/
theorem effectiveEnabled (tended : Tended definition before after) (manifest : PluginManifest) :
    after.effectiveEnabled manifest = before.effectiveEnabled manifest := by
  unfold CordisRuntime.effectiveEnabled
  rw [tended.overrides]

end Tended

/-- How `mount_index` leaves a record that held no fiber. -/
def MountEnd : Except RuntimeError FiberId → PluginRecord → Prop
  | .ok fiber, record =>
      record.fiber = some fiber ∧ record.lifecycle = .mounted ∧ record.enabled = true
  | .error _, record =>
      record.fiber = none ∧ record.lifecycle = .failed ∧ record.enabled = true

namespace MountEnd

theorem settled {result : Except RuntimeError FiberId}
    (ended : MountEnd result record) :
    record.Settled := by
  cases result with
  | ok fiber =>
      obtain ⟨held, mounted, enabled⟩ := ended
      constructor <;> simp [held, mounted, enabled]
  | error error =>
      obtain ⟨empty, failed, enabled⟩ := ended
      exact PluginRecord.settled_of_none empty (by simp [failed])

theorem enabled {result : Except RuntimeError FiberId}
    (ended : MountEnd result record) :
    record.enabled = true := by
  cases result with
  | ok fiber => exact ended.2.2
  | error error => exact ended.2.2

theorem recordFailure (phase : FailurePhase) (message : String) (error : RuntimeError)
    (empty : record.fiber = none) (enabled : record.enabled = true) :
    MountEnd (.error error) (record.recordFailure phase message) :=
  ⟨empty, rfl, enabled⟩

end MountEnd

/-- `mount_index` in one statement.  A record that holds a fiber is left alone; any other
ends mounted or failed, in the way the result says. -/
structure MountSpec (definition : PluginDefinition) (before : CordisRuntime σ)
    (result : Except RuntimeError FiberId) (after : CordisRuntime σ) : Prop where
  tended : Tended definition before after
  held : before.hasFiber definition = true →
    after = before ∧ ∃ error, result = .error error ∧ isMissingDependency error = false
  ended : before.hasFiber definition = false → MountEnd result (after.records definition)

/-- A mount that has begun ends mounted or failed. -/
theorem endMount_spec (definition : PluginDefinition) (before : CordisRuntime σ)
    (called : Except CordisError FiberId) (runtime : CordisRuntime σ)
    (tended : Tended definition before runtime)
    (empty : (runtime.records definition).fiber = none)
    (enabled : (runtime.records definition).enabled = true) :
    (endMount definition called).wp (fun result final => Tended definition before final ∧
      MountEnd result (final.records definition)) runtime := by
  cases called with
  | ok fiber =>
      simp only [endMount, wp_bind, wp_changeRecord, andThen_ok,
        wp_pure, CordisRuntime.records_update_self]
      exact ⟨tended.trans (Tended.update _ _ _), rfl, rfl, enabled⟩
  | error cause =>
      simp only [endMount, wp_failMount, CordisRuntime.records_update_self]
      exact ⟨tended.trans (Tended.update _ _ _),
        MountEnd.recordFailure _ _ _ empty enabled⟩

variable (host : PluginHost σ π)

theorem mountIdentified_spec (definition : PluginDefinition)
    (plugin : π) (actualId : Option String) (before runtime : CordisRuntime σ)
    (tended : Tended definition before runtime)
    (empty : (runtime.records definition).fiber = none)
    (enabled : (runtime.records definition).enabled = true) :
    (mountIdentified host definition plugin actualId).wp (fun result final =>
      Tended definition before final ∧ MountEnd result (final.records definition))
      runtime := by
  have failed : ∀ phase error, Tended definition before
      (runtime.update definition (PluginRecord.recordFailure phase
        (RuntimeError.display error))) ∧
      MountEnd (.error error) ((runtime.update definition (PluginRecord.recordFailure phase
        error.display)).records definition) := by
    intro phase error
    rw [CordisRuntime.records_update_self]
    exact ⟨tended.trans (Tended.update _ _ _),
      MountEnd.recordFailure _ _ _ empty enabled⟩
  cases actualId with
  | none =>
      simp only [mountIdentified, wp_failMount]
      exact failed _ _
  | some actualId =>
      by_cases same : actualId = definition.id
      · simp only [mountIdentified, ne_eq, same, not_true_eq_false, if_false,
          wp_bind, wp_onRoot, andThen_ok]
        exact endMount_spec definition before _ _ (tended.trans (Tended.root _ _ _))
          empty enabled
      · simp only [mountIdentified, ne_eq, same, not_false_eq_true, if_true, wp_failMount]
        exact failed _ _

theorem mountIndex_spec (definition : PluginDefinition)
    (before : CordisRuntime σ) :
    (mountIndex host definition).wp (MountSpec definition before) before := by
  simp only [mountIndex, wp_bind, wp_get, andThen_ok,
    wp_throwIf]
  constructor
  · intro held
    refine ⟨Tended.refl _ _, ?_, ?_⟩
    · intro _
      exact ⟨rfl, _, rfl, rfl⟩
    · simp [held]
  · intro free
    have empty : (before.records definition).fiber = none := by
      simpa [CordisRuntime.hasFiber] using free
    have begun : Tended definition before
        (before.update definition PluginRecord.beginMount) := Tended.update _ _ _
    have spec : ∀ result (final : CordisRuntime σ), Tended definition before final ∧
        MountEnd result (final.records definition) →
        MountSpec definition before result final := by
      rintro result final ⟨tended, ended⟩
      exact ⟨tended, fun held => absurd held free, fun _ => ended⟩
    simp only [andThen_ok, wp_bind, wp_changeRecord, wp_onRoot]
    cases (host.instantiate definition.factory
        (before.update definition PluginRecord.beginMount).root).1 with
    | none =>
        simp only [mountInstance, wp_failMount]
        apply spec
        refine ⟨(begun.trans (Tended.root _ _ _)).trans (Tended.update _ _ _), ?_⟩
        rw [CordisRuntime.records_update_self]
        apply MountEnd.recordFailure
        · simpa [PluginRecord.beginMount] using empty
        · simp [PluginRecord.beginMount]
    | some plugin =>
        simp only [mountInstance, wp_bind, wp_onRoot, andThen_ok]
        refine wp_mono (mountIdentified_spec host definition plugin _ before _
          ((begun.trans (Tended.root _ _ _)).trans (Tended.root _ _ _)) ?_ ?_) spec
        · simpa [PluginRecord.beginMount] using empty
        · simp [PluginRecord.beginMount]

/-- `unmount_index` in one statement.  A required plugin that may not be unmounted is
left alone; any other record ends disabled and without a fiber. -/
structure UnmountSpec (definition : PluginDefinition) (allowRequired : Bool)
    (before after : CordisRuntime σ) : Prop where
  tended : Tended definition before after
  kept : allowRequired = false → definition.manifest.role.isRequired = true →
    after = before
  ended : allowRequired = true ∨ definition.manifest.role.isRequired = false →
    (after.records definition).fiber = none ∧
      (after.records definition).lifecycle = .disabled ∧
      (after.records definition).enabled = false

theorem unmountFiber_spec (definition : PluginDefinition)
    (fiber : FiberId) (before : CordisRuntime σ) :
    (unmountFiber host definition fiber).wp (fun _ final => Tended definition before final ∧
      (final.records definition).fiber = none ∧
      (final.records definition).lifecycle = .disabled ∧
      (final.records definition).enabled = false) before := by
  simp only [unmountFiber, wp_bind, wp_changeRecord, wp_onRoot,
    andThen_ok, wp_ofExcept, CordisRuntime.records_update_self]
  refine ⟨?_, rfl, rfl, rfl⟩
  have begun : Tended definition before
      (before.update definition PluginRecord.beginUnmount) := Tended.update _ _ _
  exact ((begun.trans (Tended.root _ _ _)).trans (Tended.update _ _ _)).trans
    (Tended.root _ _ _)

theorem unmountIndex_spec (definition : PluginDefinition)
    (allowRequired : Bool) (before : CordisRuntime σ) :
    (unmountIndex host definition allowRequired).wp (fun _ final =>
      UnmountSpec definition allowRequired before final) before := by
  simp only [unmountIndex, wp_bind, wp_throwIf]
  constructor
  · rintro ⟨notAllowed, required⟩
    refine ⟨Tended.refl _ _, fun _ _ => rfl, ?_⟩
    simp [notAllowed, required]
  · intro mayUnmount
    have spec : ∀ final : CordisRuntime σ, Tended definition before final ∧
        (final.records definition).fiber = none ∧
        (final.records definition).lifecycle = .disabled ∧
        (final.records definition).enabled = false →
        UnmountSpec definition allowRequired before final := by
      rintro final ⟨tended, ended⟩
      exact ⟨tended, fun notAllowed required => absurd ⟨notAllowed, required⟩ mayUnmount,
        fun _ => ended⟩
    simp only [andThen_ok, wp_bind, wp_get]
    cases held : (before.records definition).fiber with
    | none =>
        simp only [wp_changeRecord]
        apply spec
        rw [CordisRuntime.records_update_self]
        exact ⟨Tended.update _ _ _, held, rfl, rfl⟩
    | some fiber =>
        exact wp_mono (unmountFiber_spec host definition fiber before)
          (fun _ final reached => spec final reached)

/-- The flag of a record is the one its switch or its manifest asks for. -/
def CordisRuntime.Switched (definition : PluginDefinition) :
    Prop :=
  (runtime.records definition).enabled = runtime.effectiveEnabled definition.manifest

/-- What no step of startup undoes. -/
structure Kept (before after : CordisRuntime σ) : Prop where
  overrides : after.overrides = before.overrides
  closed : after.closed = before.closed
  settled : ∀ definition, (before.records definition).Settled →
    (after.records definition).Settled
  switched : ∀ definition, before.Switched definition → after.Switched definition
  required : ∀ definition, definition.manifest.role.isRequired = true → ∀ fiber,
    (before.records definition).fiber = some fiber →
    (after.records definition).fiber = some fiber

namespace Kept

theorem refl : Kept runtime runtime :=
  ⟨rfl, rfl, fun _ settled => settled, fun _ switched => switched, fun _ _ _ held => held⟩

theorem trans (first : Kept before middle) (second : Kept middle after) :
    Kept before after where
  overrides := second.overrides.trans first.overrides
  closed := second.closed.trans first.closed
  settled definition settled := second.settled definition (first.settled definition settled)
  switched definition switched :=
    second.switched definition (first.switched definition switched)
  required definition required fiber held :=
    second.required definition required fiber (first.required definition required fiber held)

theorem effectiveEnabled (kept : Kept before after)
    (manifest : PluginManifest) :
    after.effectiveEnabled manifest = before.effectiveEnabled manifest := by
  unfold CordisRuntime.effectiveEnabled
  rw [kept.overrides]

/-- A step that tends one plugin has to keep what is kept for that plugin only. -/
theorem of_tended (tended : Tended definition before after)
    (settled : (after.records definition).Settled)
    (switched : before.Switched definition → after.Switched definition)
    (required : definition.manifest.role.isRequired = true →
      (before.records definition).fiber = none) :
    Kept before after where
  overrides := tended.overrides
  closed := tended.closed
  settled other settledBefore := by
    by_cases same : other = definition
    · rwa [same]
    · rwa [tended.others other same]
  switched other switchedBefore := by
    by_cases same : other = definition
    · rw [same] at switchedBefore ⊢
      exact switched switchedBefore
    · unfold CordisRuntime.Switched at switchedBefore ⊢
      rw [tended.others other same, tended.effectiveEnabled]
      exact switchedBefore
  required other isRequired fiber held := by
    by_cases same : other = definition
    · rw [same] at isRequired held
      rw [required isRequired] at held
      cases held
    · rwa [tended.others other same]

end Kept

/-- Mounting a plugin that is switched on. -/
theorem mountIndex_kept (desired : before.effectiveEnabled definition.manifest = true) :
    (mountIndex host definition).wp (fun _ final => Kept before final) before := by
  refine wp_mono (mountIndex_spec host definition before) ?_
  intro result final spec
  cases free : before.hasFiber definition with
  | true =>
      rw [(spec.held free).1]
      exact Kept.refl before
  | false =>
      have ended := spec.ended free
      apply Kept.of_tended spec.tended ended.settled
      · intro _
        unfold CordisRuntime.Switched
        rw [spec.tended.effectiveEnabled, ended.enabled, desired]
      · intro _
        simpa [CordisRuntime.hasFiber] using free

variable {runtime : CordisRuntime σ}

/-- A plugin that is switched off is not required. -/
theorem optional_of_effectiveEnabled {manifest : PluginManifest}
    (off : runtime.effectiveEnabled manifest = false) :
    manifest.role.isRequired = false := by
  unfold CordisRuntime.effectiveEnabled at off
  split at off
  · cases off
  · simp_all

/-- A record without a fiber that is set to its switch. -/
theorem Kept.update_of_none {change : PluginRecord → PluginRecord}
    (empty : (before.records definition).fiber = none)
    (settled : (change (before.records definition)).Settled)
    (enabled : (change (before.records definition)).enabled =
        (before.records definition).enabled ∨
      (change (before.records definition)).enabled =
        before.effectiveEnabled definition.manifest) :
    Kept before (before.update definition change) := by
  have tended := Tended.update definition before change
  apply Kept.of_tended tended
  · simpa using settled
  · intro switched
    unfold CordisRuntime.Switched at switched ⊢
    rw [tended.effectiveEnabled, CordisRuntime.records_update_self]
    rcases enabled with same | asked
    · rw [same, switched]
    · exact asked
  · intro _
    exact empty

/-- Startup on a plugin that is switched off. -/
theorem switchOff_kept (startup : Startup)
    (off : before.effectiveEnabled definition.manifest = false) :
    (switchOff host definition startup).wp (fun _ final => Tended definition before final ∧
      Kept before final) before := by
  have optional := optional_of_effectiveEnabled off
  have ends : ∀ middle : CordisRuntime σ, Tended definition before middle →
      Kept before middle → (middle.records definition).fiber = none →
      Tended definition before
          (middle.update definition PluginRecord.deactivateWithoutMount) ∧
        Kept before (middle.update definition PluginRecord.deactivateWithoutMount) := by
    intro middle tended kept empty
    refine ⟨tended.trans (Tended.update _ _ _), kept.trans ?_⟩
    apply Kept.update_of_none empty (PluginRecord.settled_deactivate empty)
    right
    rw [kept.effectiveEnabled, off]
    rfl
  simp only [switchOff, wp_bind, wp_get, andThen_ok]
  cases held : before.hasFiber definition with
  | false =>
      simp only [Bool.false_eq_true, if_false, wp_pure, andThen_ok,
        wp_bind, wp_changeRecord]
      apply ends before (Tended.refl _ _) (Kept.refl _)
      simpa [CordisRuntime.hasFiber] using held
  | true =>
      simp only [if_true, wp_bind, wp_caught]
      refine wp_mono (unmountIndex_spec host definition false before) ?_
      intro result middle spec
      obtain ⟨empty, disabled, switchedOff⟩ := spec.ended (.inr optional)
      have kept : Kept before middle := by
        apply Kept.of_tended spec.tended
        · exact PluginRecord.settled_of_none empty (by simp [disabled])
        · intro _
          unfold CordisRuntime.Switched
          rw [spec.tended.effectiveEnabled, off, switchedOff]
        · intro required
          rw [optional] at required
          cases required
      cases result with
      | error error => exact ⟨spec.tended, kept⟩
      | ok _ => exact ends middle spec.tended kept empty

/-- Plugins that wait to be mounted: switched on, without a fiber, no one twice. -/
structure Waiting (runtime : CordisRuntime σ) (definitions : List PluginDefinition) :
    Prop where
  distinct : definitions.Nodup
  empty : ∀ definition ∈ definitions, (runtime.records definition).fiber = none
  desired : ∀ definition ∈ definitions,
    runtime.effectiveEnabled definition.manifest = true

variable {rest : List PluginDefinition}

namespace Waiting

/-- One more plugin may wait. -/
theorem cons {definitions : List PluginDefinition}
    (waiting : Waiting runtime definitions)
    (fresh : definition ∉ definitions)
    (empty : (runtime.records definition).fiber = none)
    (desired : runtime.effectiveEnabled definition.manifest = true) :
    Waiting runtime (definition :: definitions) := by
  refine ⟨List.nodup_cons.mpr ⟨fresh, waiting.distinct⟩, ?_, ?_⟩
  · intro other member
    rcases List.mem_cons.mp member with same | later
    · rwa [same]
    · exact waiting.empty other later
  · intro other member
    rcases List.mem_cons.mp member with same | later
    · rwa [same]
    · exact waiting.desired other later

/-- Tending one of the waiting plugins leaves the others waiting. -/
theorem of_tended {earlier : List PluginDefinition}
    (waiting : Waiting before (earlier ++ definition :: rest))
    (tended : Tended definition before after) :
    Waiting after (earlier ++ rest) := by
  have distinct := waiting.distinct
  rw [List.nodup_middle, List.nodup_cons] at distinct
  have still : ∀ other ∈ earlier ++ rest, other ∈ earlier ++ definition :: rest := by
    intro other member
    simp only [List.mem_append, List.mem_cons] at member ⊢
    tauto
  refine ⟨distinct.2, ?_, ?_⟩
  · intro other member
    rw [tended.others other (fun same => distinct.1 (same ▸ member))]
    exact waiting.empty other (still other member)
  · intro other member
    rw [tended.effectiveEnabled]
    exact waiting.desired other (still other member)

/-- Tending the first of the waiting plugins leaves the others waiting. -/
theorem of_tended_cons (waiting : Waiting before (definition :: rest))
    (tended : Tended definition before after) :
    Waiting after rest :=
  of_tended (show Waiting before ([] ++ definition :: rest) from waiting) tended

/-- Tending a waiting plugin that stays without a fiber leaves all of them waiting. -/
theorem of_tended_self {definitions : List PluginDefinition}
    (waiting : Waiting before definitions)
    (tended : Tended definition before after)
    (empty : (after.records definition).fiber = none) :
    Waiting after definitions := by
  refine ⟨waiting.distinct, ?_, ?_⟩
  · intro other member
    by_cases same : other = definition
    · rwa [same]
    · rw [tended.others other same]
      exact waiting.empty other member
  · intro other member
    rw [tended.effectiveEnabled]
    exact waiting.desired other member

end Waiting

variable (definitions : List PluginDefinition)

/-- The first loop of startup keeps what is kept and leaves plugins waiting. -/
theorem sortOut_kept
    (distinct : definitions.Nodup) (startup : Startup) (before : CordisRuntime σ) :
    (sortOut host definitions startup).wp (fun result final => Kept before final ∧
      (∀ other, other ∉ definitions → final.records other = before.records other) ∧
      ∀ startup' pending, result = .ok (startup', pending) →
        pending.Sublist definitions ∧ Waiting final pending) before := by
  induction definitions generalizing startup before with
  | nil =>
      refine ⟨Kept.refl before, fun _ _ => rfl, ?_⟩
      rintro startup' pending ⟨⟩
      exact ⟨List.Sublist.refl [], List.nodup_nil, by simp, by simp⟩
  | cons definition rest ih =>
      obtain ⟨fresh, distinctRest⟩ := List.nodup_cons.mp distinct
      simp only [sortOut, wp_bind, wp_get, andThen_ok]
      cases asked : before.effectiveEnabled definition.manifest with
      | false =>
          simp only [if_true, wp_bind]
          refine wp_mono (switchOff_kept host startup asked) ?_
          rintro result middle ⟨tended, kept⟩
          have others : ∀ other, other ∉ definition :: rest →
              middle.records other = before.records other := by
            intro other absent
            exact tended.others other (fun same => absent (by simp [same]))
          cases result with
          | error error => exact ⟨kept, others, (fun _ _ impossible => by cases impossible)⟩
          | ok startup =>
              rw [andThen_ok]
              refine wp_mono (ih distinctRest startup middle) ?_
              rintro result final ⟨keptRest, othersRest, pendingRest⟩
              refine ⟨kept.trans keptRest, ?_, ?_⟩
              · intro other absent
                rw [othersRest other (fun member => absent (List.mem_cons_of_mem _ member)),
                  others other absent]
              · intro startup' pending returned
                obtain ⟨sublist, waiting⟩ := pendingRest startup' pending returned
                exact ⟨sublist.cons _, waiting⟩
      | true =>
          simp only [Bool.true_eq_false, if_false]
          cases held : before.hasFiber definition with
          | true =>
              simp only [if_true]
              refine wp_mono
                (ih distinctRest (startup.activate definition) before) ?_
              rintro result final ⟨kept, others, pendingRest⟩
              refine ⟨kept, ?_, ?_⟩
              · intro other absent
                exact others other (fun member => absent (List.mem_cons_of_mem _ member))
              · intro startup' pending returned
                obtain ⟨sublist, waiting⟩ := pendingRest startup' pending returned
                exact ⟨sublist.cons _, waiting⟩
          | false =>
              simp only [Bool.false_eq_true, if_false, wp_bind]
              refine wp_mono (ih distinctRest startup before) ?_
              rintro result final ⟨kept, others, pendingRest⟩
              have othersAll : ∀ other, other ∉ definition :: rest →
                  final.records other = before.records other := by
                intro other absent
                exact others other (fun member => absent (List.mem_cons_of_mem _ member))
              cases result with
              | error error => exact
                  ⟨kept, othersAll, (fun _ _ impossible => by cases impossible)⟩
              | ok value =>
                  obtain ⟨startup, pending⟩ := value
                  obtain ⟨sublist, waiting⟩ := pendingRest startup pending rfl
                  have waitingAll : Waiting final (definition :: pending) := by
                    apply waiting.cons (fun member => fresh (sublist.subset member))
                    · rw [others definition fresh]
                      simpa [CordisRuntime.hasFiber] using held
                    · rw [kept.effectiveEnabled, asked]
                  refine ⟨kept, othersAll, ?_⟩
                  rintro startup' pending' ⟨⟩
                  exact ⟨sublist.cons_cons _, waitingAll⟩

/-- What follows one mount of a pass keeps what is kept, and the plugins that still
wait are those that waited, less the one if it is not deferred. -/
theorem afterMount_kept {pass : Pass}
    {called : Except RuntimeError FiberId}
    (waiting : Waiting before (pass.next.map Prod.fst ++ definition :: rest))
    (spec : MountSpec definition before called middle) :
    (afterMount definition pass called).wp (fun result final => Kept middle final ∧
      ∀ pass', result = .ok pass' →
        Waiting final (pass'.next.map Prod.fst ++ rest)) middle := by
  have free : before.hasFiber definition = false := by
    have empty := waiting.empty definition (by simp)
    simp [CordisRuntime.hasFiber, empty]
  have ended := spec.ended free
  have left := waiting.of_tended spec.tended
  cases called with
  | ok fiber =>
      refine ⟨Kept.refl middle, ?_⟩
      rintro pass' ⟨⟩
      exact left
  | error error =>
      obtain ⟨empty, failed, enabled⟩ := ended
      simp only [afterMount]
      cases isMissingDependency error with
      | false =>
          simp only [Bool.false_eq_true, if_false, wp_bind, wp_get,
            andThen_ok, wp_pure]
          refine ⟨Kept.refl middle, ?_⟩
          rintro pass' ⟨⟩
          exact left
      | true =>
          simp only [if_true, wp_bind, wp_changeRecord, andThen_ok,
            wp_pure]
          constructor
          · apply Kept.update_of_none empty
            · exact PluginRecord.settled_of_none empty
                (by simp [PluginRecord.deferMissingDependency])
            · exact .inl rfl
          · rintro pass' ⟨⟩
            simp only [List.map_append, List.map_cons, List.map_nil, List.append_assoc,
              List.cons_append, List.nil_append]
            have stillWaiting := (waiting.of_tended_self spec.tended empty).of_tended_self
              (Tended.update definition middle PluginRecord.deferMissingDependency)
            exact stillWaiting (by simpa [PluginRecord.deferMissingDependency] using empty)

theorem mountPass_kept (pass : Pass) (before : CordisRuntime σ)
    (waiting : Waiting before (pass.next.map Prod.fst ++ definitions)) :
    (mountPass host definitions pass).wp (fun result final => Kept before final ∧
      ∀ pass', result = .ok pass' → Waiting final (pass'.next.map Prod.fst)) before := by
  induction definitions generalizing pass before with
  | nil =>
      refine ⟨Kept.refl before, ?_⟩
      rintro pass' ⟨⟩
      rw [List.append_nil] at waiting
      exact waiting
  | cons definition rest ih =>
      simp only [mountPass, wp_bind, wp_caught, andThen_ok]
      have mounts := wp_and (mountIndex_spec host definition before)
        (mountIndex_kept host (waiting.desired definition (by simp)))
      refine wp_mono mounts ?_
      rintro called middle ⟨spec, kept⟩
      refine wp_mono (afterMount_kept waiting spec) ?_
      rintro result later ⟨keptLater, waitingLater⟩
      cases result with
      | error error =>
          exact ⟨kept.trans keptLater, (fun _ impossible => by cases impossible)⟩
      | ok pass' =>
          rw [andThen_ok]
          refine wp_mono (ih pass' later (waitingLater pass' rfl)) ?_
          rintro result final ⟨keptRest, waitingRest⟩
          exact ⟨(kept.trans keptLater).trans keptRest, waitingRest⟩

theorem abandon_kept (waiting : List (PluginDefinition × RuntimeError)) (startup : Startup)
    (before : CordisRuntime σ) (stillWaiting : Waiting before (waiting.map Prod.fst)) :
    (abandon waiting startup).wp (fun _ final => Kept before final) before := by
  induction waiting generalizing startup before with
  | nil => exact Kept.refl before
  | cons entry rest ih =>
      obtain ⟨definition, error⟩ := entry
      simp only [abandon, wp_bind, wp_changeRecord, andThen_ok,
        wp_get]
      have empty := stillWaiting.empty definition (by simp)
      have kept : Kept before (before.update definition
          (PluginRecord.recordFailure .mount error.display)) := by
        apply Kept.update_of_none empty
        · exact PluginRecord.settled_of_none empty (by simp [PluginRecord.recordFailure])
        · exact .inl rfl
      have restWaiting := Waiting.of_tended_cons stillWaiting
        (Tended.update definition before (PluginRecord.recordFailure .mount error.display))
      refine wp_mono (ih _ _ restWaiting) ?_
      intro result final keptRest
      exact kept.trans keptRest

theorem mountRounds_kept (rounds : Nat)
    (pending : List PluginDefinition) (startup : Startup) (before : CordisRuntime σ)
    (waiting : Waiting before pending) :
    (mountRounds host rounds pending startup).wp (fun _ final => Kept before final)
      before := by
  induction rounds generalizing pending startup before with
  | zero => exact Kept.refl before
  | succ rounds ih =>
      simp only [mountRounds, wp_bind]
      refine wp_mono (mountPass_kept host pending ⟨startup, [], false⟩ before
        (by simpa using waiting)) ?_
      rintro result middle ⟨kept, waitingNext⟩
      cases result with
      | error error => exact kept
      | ok pass =>
          rw [andThen_ok]
          cases pass.mounted with
          | true =>
              simp only [if_true]
              refine wp_mono (ih _ pass.startup middle
                (waitingNext pass rfl)) ?_
              intro result final keptRest
              exact kept.trans keptRest
          | false =>
              simp only [Bool.false_eq_true, if_false]
              refine wp_mono (abandon_kept pass.next pass.startup middle
                (waitingNext pass rfl)) ?_
              intro result final keptRest
              exact kept.trans keptRest

variable (registry : PluginRegistry)

/-- What holds of the runtime between two operations. -/
structure CordisRuntime.Sound (runtime : CordisRuntime σ) :
    Prop where
  settled : ∀ definition, (runtime.records definition).Settled
  switched : runtime.closed = false → ∀ definition ∈ registry.definitions,
    runtime.Switched definition
  shut : runtime.closed = true → runtime.root.state = .disposed ∧
    ∀ definition ∈ registry.definitions, (runtime.records definition).fiber = none

/-- What an operation other than `shutdown` leaves behind when the runtime is open. -/
structure OpenStep (before after : CordisRuntime σ) : Prop where
  closed : after.closed = false
  settled : ∀ definition, (after.records definition).Settled
  switched : ∀ definition ∈ registry.definitions, after.Switched definition
  required : ∀ definition ∈ registry.definitions,
    definition.manifest.role.isRequired = true → ∀ fiber,
    (before.records definition).fiber = some fiber →
    (after.records definition).fiber = some fiber

namespace OpenStep

variable {registry : PluginRegistry} {before after : CordisRuntime σ}

theorem sound (opened : OpenStep registry before after) : after.Sound registry where
  settled := opened.settled
  switched _ := opened.switched
  shut closed := by
    rw [opened.closed] at closed
    cases closed

theorem of_kept (sound : before.Sound registry) (opened : before.closed = false)
    (kept : Kept before after) :
    OpenStep registry before after where
  closed := kept.closed.trans opened
  settled definition := kept.settled definition (sound.settled definition)
  switched definition member :=
    kept.switched definition (sound.switched opened definition member)
  required definition _ := kept.required definition

end OpenStep

/-- Nothing but the root and the record and the switch of one definition may have
changed. -/
structure Retuned (definition : PluginDefinition) (before after : CordisRuntime σ) :
    Prop where
  others : ∀ other, other ≠ definition → after.records other = before.records other
  overrides : ∀ pluginId, pluginId ≠ definition.id →
    after.overrides pluginId = before.overrides pluginId
  closed : after.closed = before.closed

namespace Retuned

variable {definition : PluginDefinition} {before middle after : CordisRuntime σ}

theorem override (definition : PluginDefinition) (runtime : CordisRuntime σ)
    (value : Option Bool) :
    Retuned definition runtime (runtime.override definition.id value) where
  others _ _ := rfl
  overrides _ different := Function.update_of_ne different _ _
  closed := rfl

theorem trans_tended (first : Retuned definition before middle)
    (second : Tended definition middle after) :
    Retuned definition before after where
  others other different := (second.others other different).trans
    (first.others other different)
  overrides pluginId different := by
    rw [second.overrides]
    exact first.overrides pluginId different
  closed := second.closed.trans first.closed

/-- An operation on one plugin has to end well for that plugin only. -/
theorem openStep {registry : PluginRegistry} (retuned : Retuned definition before after)
    (sound : before.Sound registry) (opened : before.closed = false)
    (member : definition ∈ registry.definitions)
    (settled : (after.records definition).Settled)
    (switched : after.Switched definition)
    (required : definition.manifest.role.isRequired = true → ∀ fiber,
      (before.records definition).fiber = some fiber →
      (after.records definition).fiber = some fiber) :
    OpenStep registry before after where
  closed := retuned.closed.trans opened
  settled other := by
    by_cases same : other = definition
    · rwa [same]
    · rw [retuned.others other same]
      exact sound.settled other
  switched other otherMember := by
    by_cases same : other = definition
    · rwa [same]
    · have differs : other.manifest.id ≠ definition.id := fun sameId =>
        same (registry.eq_of_id_eq otherMember member sameId)
      have switchedBefore := sound.switched opened other otherMember
      unfold CordisRuntime.Switched CordisRuntime.effectiveEnabled at switchedBefore ⊢
      rwa [retuned.others other same, retuned.overrides _ differs]
  required other _ isRequired fiber held := by
    by_cases same : other = definition
    · rw [same] at isRequired held ⊢
      exact required isRequired fiber held
    · rwa [retuned.others other same]

end Retuned

/-- What the switch of an optional plugin asks for. -/
theorem effectiveEnabled_override (runtime : CordisRuntime σ)
    (value : Option Bool)
    (optional : definition.manifest.role.isRequired = false) :
    (runtime.override definition.id value).effectiveEnabled definition.manifest =
      value.getD definition.manifest.defaultEnabled := by
  simp [CordisRuntime.effectiveEnabled, CordisRuntime.override, optional,
    PluginDefinition.id]

theorem effectiveEnabled_of_required (runtime : CordisRuntime σ)
    {manifest : PluginManifest} (required : manifest.role.isRequired = true) :
    runtime.effectiveEnabled manifest = true := by
  simp [CordisRuntime.effectiveEnabled, required]

section Operations

variable {registry : PluginRegistry} {host : PluginHost σ π}
  {definition : PluginDefinition} {before middle : CordisRuntime σ}

/-- Mounting a plugin whose switch was just set. -/
theorem mountIndex_openStep (sound : before.Sound registry) (opened : before.closed = false)
    (member : definition ∈ registry.definitions)
    (retuned : Retuned definition before middle)
    (desired : middle.effectiveEnabled definition.manifest = true)
    (sameFiber : (middle.records definition).fiber = (before.records definition).fiber)
    (keptRecord : middle.hasFiber definition = true →
      middle.records definition = before.records definition) :
    (mountIndex host definition).wp (fun _ final => OpenStep registry before final)
      middle := by
  refine wp_mono (mountIndex_spec host definition middle) ?_
  intro result final spec
  have tuned := retuned.trans_tended spec.tended
  cases held : middle.hasFiber definition with
  | true =>
      have unchanged := (spec.held held).1
      have settled := sound.settled definition
      rw [unchanged] at tuned ⊢
      rw [← keptRecord held] at settled
      apply tuned.openStep sound opened member settled
      · unfold CordisRuntime.Switched
        rw [desired]
        exact settled.enabled held
      · intro _ fiber holds
        rwa [sameFiber]
  | false =>
      have ended := spec.ended held
      apply tuned.openStep sound opened member ended.settled
      · unfold CordisRuntime.Switched
        rw [spec.tended.effectiveEnabled, desired]
        exact ended.enabled
      · intro _ fiber holds
        rw [CordisRuntime.hasFiber, sameFiber, holds] at held
        cases held

/-- Unmounting an optional plugin whose switch was just cleared. -/
theorem unmountIndex_openStep (sound : before.Sound registry)
    (opened : before.closed = false) (member : definition ∈ registry.definitions)
    (retuned : Retuned definition before middle)
    (optional : definition.manifest.role.isRequired = false)
    (off : middle.effectiveEnabled definition.manifest = false) :
    (unmountIndex host definition false).wp
      (fun _ final => OpenStep registry before final) middle := by
  refine wp_mono (unmountIndex_spec host definition false middle) ?_
  intro result final spec
  obtain ⟨empty, disabled, switchedOff⟩ := spec.ended (.inr optional)
  apply (retuned.trans_tended spec.tended).openStep sound opened member
  · exact PluginRecord.settled_of_none empty (by simp [disabled])
  · unfold CordisRuntime.Switched
    rw [spec.tended.effectiveEnabled, off, switchedOff]
  · intro required
    rw [optional] at required
    cases required

/-- Changing the record of a plugin whose switch was just set. -/
theorem changeRecord_openStep {change : PluginRecord → PluginRecord}
    (sound : before.Sound registry) (opened : before.closed = false)
    (member : definition ∈ registry.definitions)
    (retuned : Retuned definition before middle)
    (settled : (change (middle.records definition)).Settled)
    (switched : (change (middle.records definition)).enabled =
      middle.effectiveEnabled definition.manifest)
    (sameFiber : (change (middle.records definition)).fiber =
      (before.records definition).fiber) :
    OpenStep registry before (middle.update definition change) := by
  have tended := Tended.update definition middle change
  apply (retuned.trans_tended tended).openStep sound opened member
  · simpa using settled
  · unfold CordisRuntime.Switched
    rw [tended.effectiveEnabled, CordisRuntime.records_update_self, switched]
  · intro _ fiber holds
    rw [CordisRuntime.records_update_self, sameFiber, holds]

/-- The two ways a switch acts before startup. -/
theorem applyBeforeStart_openStep (sound : before.Sound registry)
    (opened : before.closed = false) (member : definition ∈ registry.definitions)
    (value : Option Bool) (enabled : Bool)
    (asked : (before.override definition.id value).effectiveEnabled definition.manifest =
      enabled) :
    (applyBeforeStart host definition enabled).wp
      (fun _ final => OpenStep registry before final)
      (before.override definition.id value) := by
  have retuned := Retuned.override definition before value
  cases enabled with
  | true =>
      simp only [applyBeforeStart, if_true, wp_changeRecord]
      apply changeRecord_openStep sound opened member retuned
      · exact PluginRecord.settled_enableBeforeStart _
      · rw [asked]
        rfl
      · rfl
  | false =>
      simp only [applyBeforeStart, Bool.false_eq_true, if_false, wp_bind,
        wp_get, andThen_ok]
      have optional := optional_of_effectiveEnabled asked
      split
      · exact unmountIndex_openStep sound opened member retuned optional asked
      · case isFalse free =>
          rw [wp_changeRecord]
          apply changeRecord_openStep sound opened member retuned
          · exact PluginRecord.settled_deactivate
              (by simpa [CordisRuntime.hasFiber] using free)
          · rw [asked]
            rfl
          · rfl

/-- Mounting a plugin that holds no fiber and is asked for. -/
theorem resetAndMount_openStep (sound : before.Sound registry)
    (opened : before.closed = false) (member : definition ∈ registry.definitions)
    (retuned : Retuned definition before middle)
    (desired : middle.effectiveEnabled definition.manifest = true)
    (sameFiber : (middle.records definition).fiber = (before.records definition).fiber)
    (free : middle.hasFiber definition = false) :
    (mountIndex host definition).wp (fun _ final => OpenStep registry before final)
      (middle.update definition PluginRecord.resetForManualMount) := by
  have tended := Tended.update definition middle PluginRecord.resetForManualMount
  apply mountIndex_openStep sound opened member (retuned.trans_tended tended)
  · rw [tended.effectiveEnabled, desired]
  · rw [CordisRuntime.records_update_self]
    exact sameFiber
  · intro held
    have sameHeld : (middle.update definition
        PluginRecord.resetForManualMount).hasFiber definition = middle.hasFiber definition := by
      simp [CordisRuntime.hasFiber, PluginRecord.resetForManualMount]
    rw [sameHeld, free] at held
    cases held

/-- What an operation other than `shutdown` does: nothing to a closed runtime. -/
structure OperationSpec (registry : PluginRegistry) (before after : CordisRuntime σ) :
    Prop where
  closed : before.closed = true → after = before
  opened : before.closed = false → OpenStep registry before after

/-- An operation that checks first that the runtime is open. -/
theorem afterOpen_spec {operation : String} {next : RuntimeM σ α}
    (body : before.closed = false →
      next.wp (fun _ final => OpenStep registry before final) before) :
    (ensureOpen operation >>= fun _ => next).wp
      (fun _ final => OperationSpec registry before final) before := by
  simp only [ensureOpen, wp_bind, wp_get, andThen_ok,
    wp_throwIf, andThen_error]
  constructor
  · intro closed
    exact ⟨fun _ => rfl, fun opened => by rw [closed] at opened; cases opened⟩
  · intro notClosed
    have opened : before.closed = false := by simpa using notClosed
    refine wp_mono (body opened) ?_
    intro result final reached
    exact ⟨fun closed => absurd closed notClosed, fun _ => reached⟩

/-- An operation on a plugin that is looked up by its id. -/
theorem afterLookup_openStep {pluginId : String}
    {next : PluginDefinition → RuntimeM σ α}
    (sound : before.Sound registry) (opened : before.closed = false)
    (body : ∀ definition ∈ registry.definitions, definition.id = pluginId →
      (next definition).wp (fun _ final => OpenStep registry before final) before) :
    (ofExcept (registry.definitionOf pluginId) >>= next).wp
      (fun _ final => OpenStep registry before final) before := by
  rw [wp_bind, wp_ofExcept]
  cases found : registry.definitionOf pluginId with
  | error error => exact OpenStep.of_kept sound opened (Kept.refl before)
  | ok definition =>
      obtain ⟨member, same⟩ := PluginRegistry.definitionOf_eq_ok found
      exact body definition member same

theorem startDefault_spec (sound : before.Sound registry) :
    (startDefault registry host).wp (fun _ final => OperationSpec registry before final)
      before := by
  unfold startDefault
  apply afterOpen_spec
  intro opened
  have distinct : registry.definitions.Nodup := List.Nodup.of_map _ registry.nodup_ids
  have started : Kept before { before with started := true } :=
    ⟨rfl, rfl, fun _ settled => settled, fun _ switched => switched, fun _ _ _ held => held⟩
  have ends : ∀ final : CordisRuntime σ, Kept before final →
      OpenStep registry before final := fun final kept =>
    OpenStep.of_kept sound opened kept
  simp only [wp_bind, wp_modify, andThen_ok]
  refine wp_mono (sortOut_kept host registry.definitions distinct _ _) ?_
  rintro result middle ⟨kept, -, waiting⟩
  cases result with
  | error error => exact ends middle (started.trans kept)
  | ok value =>
      obtain ⟨startup, pending⟩ := value
      simp only [andThen_ok, wp_bind]
      refine wp_mono (mountRounds_kept host pending.length pending startup middle
        (waiting startup pending rfl).2) ?_
      intro result final keptRounds
      cases result with
      | error error => exact ends final ((started.trans kept).trans keptRounds)
      | ok startup => exact ends final ((started.trans kept).trans keptRounds)

theorem mount_spec (sound : before.Sound registry) (pluginId : String) :
    (mount registry host pluginId).wp (fun _ final => OperationSpec registry before final)
      before := by
  unfold mount
  apply afterOpen_spec
  intro opened
  apply afterLookup_openStep sound opened
  rintro definition member rfl
  have mounts : ∀ middle : CordisRuntime σ, Retuned definition before middle →
      middle.records = before.records →
      middle.effectiveEnabled definition.manifest = true →
      (do
        let runtime ← get
        if runtime.hasFiber definition = false then
          changeRecord definition PluginRecord.resetForManualMount
        mountIndex host definition : RuntimeM σ FiberId).wp
        (fun _ final => OpenStep registry before final) middle := by
    intro middle retuned sameRecords desired
    simp only [wp_bind, wp_get, andThen_ok]
    cases held : middle.hasFiber definition with
    | false =>
        simp only [if_true, wp_bind, wp_changeRecord, andThen_ok]
        exact resetAndMount_openStep sound opened member retuned desired
          (by rw [sameRecords]) held
    | true =>
        simp only [Bool.true_eq_false, if_false]
        exact mountIndex_openStep sound opened member retuned desired
          (by rw [sameRecords]) (fun _ => by rw [sameRecords])
  cases required : definition.manifest.role.isRequired with
  | false =>
      simp only [if_true, wp_bind, wp_modify, andThen_ok]
      refine mounts _ (Retuned.override definition before (some true)) rfl ?_
      rw [effectiveEnabled_override before (some true) required]
      rfl
  | true =>
      simp only [Bool.true_eq_false, if_false]
      refine mounts before ⟨fun _ _ => rfl, fun _ _ => rfl, rfl⟩ rfl ?_
      exact effectiveEnabled_of_required before required

theorem setEnabled_spec (sound : before.Sound registry) (pluginId : String)
    (enabled : Bool) :
    (setEnabled registry host pluginId enabled).wp
      (fun _ final => OperationSpec registry before final) before := by
  unfold setEnabled
  apply afterOpen_spec
  intro opened
  apply afterLookup_openStep sound opened
  rintro definition member rfl
  simp only [wp_bind, wp_throwIf, andThen_ok,
    andThen_error, wp_modify, wp_get]
  refine ⟨fun _ => OpenStep.of_kept sound opened (Kept.refl before), ?_⟩
  intro allowed
  have retuned := Retuned.override definition before (some enabled)
  have asked : (before.override definition.id (some enabled)).effectiveEnabled
      definition.manifest = enabled := by
    cases required : definition.manifest.role.isRequired with
    | false =>
        rw [effectiveEnabled_override before (some enabled) required]
        rfl
    | true =>
        rw [effectiveEnabled_of_required _ required]
        cases enabled with
        | true => rfl
        | false => exact absurd ⟨rfl, required⟩ allowed
  split
  · exact applyBeforeStart_openStep sound opened member (some enabled) enabled asked
  · cases enabled with
    | false =>
        simp only [Bool.false_eq_true, if_false]
        have optional : definition.manifest.role.isRequired = false := by
          simpa using allowed
        exact unmountIndex_openStep sound opened member retuned optional asked
    | true =>
        simp only [if_true]
        cases held : (before.override definition.id (some true)).hasFiber definition with
        | true =>
            simp only [if_true, wp_pure]
            apply retuned.openStep sound opened member (sound.settled definition)
            · unfold CordisRuntime.Switched
              rw [asked]
              exact (sound.settled definition).enabled held
            · exact fun _ _ holds => holds
        | false =>
            simp only [Bool.false_eq_true, if_false, wp_bind, wp_changeRecord,
              andThen_ok, wp_discard]
            exact resetAndMount_openStep sound opened member retuned asked rfl held

theorem clearOverride_spec (sound : before.Sound registry) (pluginId : String) :
    (clearOverride registry host pluginId).wp
      (fun _ final => OperationSpec registry before final) before := by
  unfold clearOverride
  apply afterOpen_spec
  intro opened
  apply afterLookup_openStep sound opened
  rintro definition member rfl
  have retuned := Retuned.override definition before none
  simp only [wp_bind, wp_modify, andThen_ok]
  cases required : definition.manifest.role.isRequired with
  | true =>
      simp only [if_true, wp_pure]
      apply retuned.openStep sound opened member (sound.settled definition)
      · have switched := sound.switched opened definition member
        unfold CordisRuntime.Switched at switched ⊢
        rw [effectiveEnabled_of_required _ required] at switched ⊢
        exact switched
      · exact fun _ _ holds => holds
  | false =>
      have asked := effectiveEnabled_override before none required
      rw [Option.getD_none] at asked
      simp only [Bool.false_eq_true, if_false, wp_bind, wp_get,
        andThen_ok]
      split
      · exact applyBeforeStart_openStep sound opened member none _ asked
      · cases desired : definition.manifest.defaultEnabled with
        | false =>
            simp only [Bool.false_eq_true, if_false]
            rw [desired] at asked
            exact unmountIndex_openStep sound opened member retuned required asked
        | true =>
            rw [desired] at asked
            simp only [if_true]
            cases held : (before.override definition.id none).hasFiber definition with
            | true =>
                simp only [if_true, wp_pure]
                apply retuned.openStep sound opened member (sound.settled definition)
                · unfold CordisRuntime.Switched
                  rw [asked]
                  exact (sound.settled definition).enabled held
                · exact fun _ _ holds => holds
            | false =>
                simp only [Bool.false_eq_true, if_false, wp_discard]
                exact mountIndex_openStep sound opened member retuned asked rfl
                  (fun _ => rfl)

end Operations

/-- The loop of `shutdown` takes every fiber. -/
theorem stopAll_spec (first : Option RuntimeError) (before : CordisRuntime σ)
    (settled : ∀ definition, (before.records definition).Settled) :
    (stopAll host definitions first).wp (fun result final => result.isOk = true ∧
      (∀ definition, (final.records definition).Settled) ∧
      (∀ definition, (before.records definition).fiber = none →
        (final.records definition).fiber = none) ∧
      ∀ definition ∈ definitions, (final.records definition).fiber = none) before := by
  induction definitions generalizing first before with
  | nil => exact ⟨rfl, settled, fun _ empty => empty, by simp⟩
  | cons definition rest ih =>
      have goesOn : ∀ (first : Option RuntimeError) (middle : CordisRuntime σ),
          Tended definition before middle →
          (middle.records definition).fiber = none →
          (middle.records definition).Settled →
          (stopAll host rest first).wp (fun result final => result.isOk = true ∧
            (∀ definition, (final.records definition).Settled) ∧
            (∀ definition, (before.records definition).fiber = none →
              (final.records definition).fiber = none) ∧
            ∀ other ∈ definition :: rest, (final.records other).fiber = none) middle := by
        intro first middle tended empty settledOne
        have settledAll : ∀ other, (middle.records other).Settled := by
          intro other
          by_cases same : other = definition
          · rwa [same]
          · rw [tended.others other same]
            exact settled other
        refine wp_mono (ih first middle settledAll) ?_
        rintro result final ⟨returned, settledFinal, stays, emptied⟩
        refine ⟨returned, settledFinal, ?_, ?_⟩
        · intro other emptyBefore
          apply stays
          by_cases same : other = definition
          · rwa [same]
          · rwa [tended.others other same]
        · intro other member
          rcases List.mem_cons.mp member with same | later
          · rw [same]
            exact stays definition empty
          · exact emptied other later
      simp only [stopAll, wp_bind, wp_get, andThen_ok]
      cases held : before.hasFiber definition with
      | false =>
          have empty : (before.records definition).fiber = none := by
            simpa [CordisRuntime.hasFiber] using held
          simp only [Bool.false_eq_true, if_false, wp_bind, wp_changeRecord,
            andThen_ok]
          apply goesOn first _ (Tended.update _ _ _)
          · rw [CordisRuntime.records_update_self]
            exact empty
          · rw [CordisRuntime.records_update_self]
            exact PluginRecord.settled_deactivate empty
      | true =>
          simp only [if_true, wp_bind, wp_caught, andThen_ok]
          refine wp_mono (unmountIndex_spec host definition true before) ?_
          intro result middle spec
          obtain ⟨empty, disabled, -⟩ := spec.ended (.inl rfl)
          have settledOne := PluginRecord.settled_of_none empty (by simp [disabled])
          cases result with
          | ok _ => exact goesOn first middle spec.tended empty settledOne
          | error error => exact goesOn _ middle spec.tended empty settledOne

theorem Root.dispose_state (root : Root σ) :
    (root.dispose host).2.state = .disposed := by
  have settled := root.settled
  unfold Root.dispose
  split
  · rfl
  · case h_2 disposing => exact absurd disposing settled
  · case h_3 disposed => exact disposed

/-- What `shutdown` leaves behind. -/
structure Stopped (after : CordisRuntime σ) : Prop where
  closed : after.closed = true
  root : after.root.state = .disposed
  empty : ∀ definition ∈ registry.definitions, (after.records definition).fiber = none

theorem shutdown_spec {registry : PluginRegistry}
    (sound : before.Sound registry) :
    (shutdown registry host).wp (fun _ final => final.Sound registry ∧
      Stopped registry final) before := by
  simp only [shutdown, wp_bind, wp_get, andThen_ok]
  cases closed : before.closed with
  | true =>
      simp only [if_true, wp_pure]
      exact ⟨sound, closed, (sound.shut closed).1, (sound.shut closed).2⟩
  | false =>
      simp only [Bool.false_eq_true, if_false, wp_bind]
      refine wp_mono (stopAll_spec host _ none before sound.settled) ?_
      rintro result middle ⟨returned, settled, -, emptied⟩
      have empty : ∀ definition ∈ registry.definitions,
          (middle.records definition).fiber = none := fun definition member =>
        emptied definition (List.mem_reverse.mpr member)
      cases result with
      | error error => cases returned
      | ok first =>
          simp only [andThen_ok, wp_bind, wp_onRoot, wp_modify,
            wp_ofExcept]
          have disposed := Root.dispose_state host middle.root
          exact ⟨⟨settled, (fun opened => by cases opened), fun _ => ⟨disposed, empty⟩⟩,
            rfl, disposed, empty⟩

theorem sound_new (outside : σ) :
    (CordisRuntime.new outside).Sound registry where
  settled definition := PluginRecord.settled_new definition.manifest
  switched _ definition _ := by
    unfold CordisRuntime.Switched CordisRuntime.effectiveEnabled
    split
    · case isTrue required =>
        change definition.manifest.defaultEnabled = true
        unfold PluginManifest.defaultEnabled DefaultEnablement.resolvesToEnabled
        cases role : definition.manifest.role with
        | core => rfl
        | agentSpine => rfl
        | optional =>
            rw [role] at required
            cases required
    · rfl
  shut closed := by cases closed

variable {registry : PluginRegistry}

/-- Every operation but `shutdown` leaves a closed runtime alone and an open one open. -/
theorem step_spec (sound : before.Sound registry) {operation : Operation}
    (notShutdown : operation ≠ .shutdown) :
    OperationSpec registry before (step registry host before operation) := by
  cases operation with
  | startDefault =>
      exact (wp_discard (startDefault registry host)
        (fun _ final => OperationSpec registry before final) before).mpr
        (startDefault_spec sound)
  | mount pluginId =>
      exact (wp_discard (mount registry host pluginId)
        (fun _ final => OperationSpec registry before final) before).mpr
        (mount_spec sound pluginId)
  | enable pluginId => exact setEnabled_spec sound pluginId true
  | disable pluginId => exact setEnabled_spec sound pluginId false
  | setEnabled pluginId enabled => exact setEnabled_spec sound pluginId enabled
  | unmount pluginId => exact setEnabled_spec sound pluginId false
  | clearOverride pluginId => exact clearOverride_spec sound pluginId
  | shutdown => exact absurd rfl notShutdown

theorem sound_step (sound : before.Sound registry) (operation : Operation) :
    (step registry host before operation).Sound registry := by
  by_cases stops : operation = .shutdown
  · rw [stops]
    exact (shutdown_spec host sound).1
  · have spec := step_spec host sound stops
    cases closed : before.closed with
    | true =>
        rw [spec.closed closed]
        exact sound
    | false => exact (spec.opened closed).sound

theorem sound_finalState (sound : before.Sound registry) (operations : List Operation) :
    (finalState (step registry host) before operations).Sound registry :=
  (throughout_of_invariant (CordisRuntime.Sound registry)
    (fun _ operation sound => sound_step host sound operation) sound operations).last

/-- A required plugin keeps its fiber through operations that do not shut down. -/
theorem required_finalState (member : definition ∈ registry.definitions)
    (required : definition.manifest.role.isRequired = true) {fiber : FiberId}
    (operations : List Operation) (notShutdown : Operation.shutdown ∉ operations)
    (sound : before.Sound registry)
    (held : (before.records definition).fiber = some fiber) :
    ((finalState (step registry host) before operations).records definition).fiber =
      some fiber := by
  induction operations generalizing before with
  | nil => exact held
  | cons operation operations ih =>
      simp only [List.mem_cons, not_or] at notShutdown
      obtain ⟨notFirst, notLater⟩ := notShutdown
      rw [finalState_cons]
      apply ih notLater (sound_step host sound operation)
      have spec := step_spec host sound (Ne.symm notFirst)
      cases closed : before.closed with
      | true => rwa [spec.closed closed]
      | false => exact (spec.opened closed).required definition member required fiber held

/-- A runtime that was shut down stays so. -/
theorem stopped_finalState (operations : List Operation)
    (sound : before.Sound registry)
    (stopped : Stopped registry before) :
    Stopped registry (finalState (step registry host) before operations) := by
  induction operations generalizing before with
  | nil => exact stopped
  | cons operation operations ih =>
      rw [finalState_cons]
      apply ih (sound_step host sound operation)
      by_cases stops : operation = .shutdown
      · rw [stops]
        exact (shutdown_spec host sound).2
      · rw [(step_spec host sound stops).closed stopped.closed]
        exact stopped

/-- What a user is shown is right: a fiber is held exactly while the plugin is mounted,
and an optional plugin is enabled as its switch or its manifest says. -/
structure CordisRuntime.Consistent (registry : PluginRegistry) (runtime : CordisRuntime σ) :
    Prop where
  mounted : ∀ definition ∈ registry.definitions,
    ((runtime.records definition).fiber.isSome = true ↔
      (runtime.records definition).lifecycle = .mounted)
  switched : runtime.closed = false → ∀ definition ∈ registry.definitions,
    definition.manifest.role.isRequired = false →
    (runtime.records definition).enabled =
      (runtime.overrides definition.id).getD definition.manifest.defaultEnabled

theorem CordisRuntime.Sound.consistent (sound : runtime.Sound registry) :
    runtime.Consistent registry where
  mounted definition _ := (sound.settled definition).mounted
  switched opened definition member optional := by
    have switched := sound.switched opened definition member
    unfold CordisRuntime.Switched CordisRuntime.effectiveEnabled at switched
    rw [optional] at switched
    exact switched

/-- In every state a runtime can reach, fibers and lifecycles agree and the flags of
optional plugins are those of their switches; the fiber of a required plugin stays until
the runtime is shut down; and after that no plugin holds one and the root is disposed. -/
theorem runtime_keeps_switches (registry : PluginRegistry) (host : PluginHost σ π)
    (outside : σ) :
    (∀ operations, (finalState (step registry host) (CordisRuntime.new outside)
      operations).Consistent registry) ∧
    (∀ earlier later, Operation.shutdown ∉ later → ∀ definition ∈ registry.definitions,
      definition.manifest.role.isRequired = true → ∀ fiber,
      ((finalState (step registry host) (CordisRuntime.new outside)
        earlier).records definition).fiber = some fiber →
      ((finalState (step registry host) (CordisRuntime.new outside)
        (earlier ++ later)).records definition).fiber = some fiber) ∧
    ∀ earlier later, Stopped registry (finalState (step registry host)
      (CordisRuntime.new outside) (earlier ++ .shutdown :: later)) := by
  have sound := sound_finalState host (sound_new registry outside)
  refine ⟨fun operations => (sound operations).consistent, ?_, ?_⟩
  · intro earlier later notShutdown definition member required fiber held
    rw [finalState_append]
    exact required_finalState host member required later notShutdown (sound earlier) held
  · intro earlier later
    rw [finalState_append, finalState_cons]
    obtain ⟨soundAfter, stopped⟩ := shutdown_spec host (sound earlier)
    exact stopped_finalState host later soundAfter stopped

end Runtime
end YunXi
