import YunXi.CordisRuntime.Switch
import YunXi.Program.Supply

/-!
# What startup activates

When a mount depends only on the services that are visible at the root and on the plugin
itself, startup mounts exactly the plugins that can ever be supplied.  Passes go on while
one mounts something, so there are at most as many as plugins, and the order of the
definitions does not matter.
-/

namespace YunXi
namespace Runtime

open Fallible
open CordisCore

variable {σ π : Type}

/-- The calls `mount_index` makes on a plugin and on the root. -/
def mountCalls (host : PluginHost σ π) (definition : PluginDefinition) (root : Root σ) :
    Except RuntimeError FiberId × Root σ :=
  match host.instantiate definition.factory root with
  | (none, root) => (.error (.pluginFactoryPanicked definition.id), root)
  | (some plugin, root) =>
      match host.identity plugin root with
      | (none, root) => (.error (.pluginIdentityPanicked definition.id), root)
      | (some actualId, root) =>
          if actualId ≠ definition.id then
            (.error (.pluginIdentityMismatch definition.id (boundedMessage actualId)), root)
          else
            ((host.mount definition.id plugin root).1.mapError
              (.pluginMountFailed definition.id), (host.mount definition.id plugin root).2)

/-- The services plugins need and provide, which plugins work at all, and which services
are visible at a root. -/
structure Wiring (σ : Type) where
  supply : Supply PluginDefinition String
  usual : Root σ → Prop
  visible : Root σ → Set String

/-- How a mount ends that depends only on visible services and on the plugin.  A plugin
that works is refused only for a missing service; one that does not work may fail before
its services are looked at. -/
structure Wiring.Mounts (wiring : Wiring σ) (definition : PluginDefinition) (root : Root σ)
    (result : Except RuntimeError FiberId) (after : Root σ) : Prop where
  usual : wiring.usual after
  succeeds : definition ∈ wiring.supply.works →
    wiring.supply.needs definition ⊆ wiring.visible root → ∃ fiber, result = .ok fiber
  misses : definition ∈ wiring.supply.works →
    ¬ wiring.supply.needs definition ⊆ wiring.visible root →
      ∃ error, result = .error error ∧ isMissingDependency error = true
  adds : ∀ fiber, result = .ok fiber → definition ∈ wiring.supply.works ∧
    wiring.supply.needs definition ⊆ wiring.visible root ∧
    wiring.visible after = wiring.visible root ∪ wiring.supply.provides definition
  keeps : ∀ error, result = .error error → wiring.visible after = wiring.visible root ∧
    (isMissingDependency error = true →
      ¬ wiring.supply.needs definition ⊆ wiring.visible root)

/-- The wiring says how every plugin of the registry mounts. -/
def Wiring.Describes (wiring : Wiring σ) (registry : PluginRegistry) (host : PluginHost σ π) :
    Prop :=
  ∀ definition ∈ registry.definitions, ∀ root, wiring.usual root →
    wiring.Mounts definition root (mountCalls host definition root).1
      (mountCalls host definition root).2

/-- A plugin without a fiber is mounted by these calls. -/
theorem mountIndex_calls (host : PluginHost σ π) {definition : PluginDefinition}
    {before : CordisRuntime σ} (free : before.hasFiber definition = false) :
    (mountIndex host definition).wp (fun result final =>
      result = (mountCalls host definition before.root).1 ∧
      final.root = (mountCalls host definition before.root).2) before := by
  simp only [mountIndex, wp_bind, wp_get, andThen_ok,
    wp_throwIf, free, Bool.false_eq_true, false_implies, true_and, not_false_eq_true,
    true_implies, wp_changeRecord, wp_onRoot, CordisRuntime.root_update]
  unfold mountCalls
  cases made : host.instantiate definition.factory before.root with
  | mk plugin root =>
      cases plugin with
      | none =>
          simp only [mountInstance, wp_failMount]
          exact ⟨trivial, rfl⟩
      | some plugin =>
          simp only [mountInstance, wp_bind, wp_onRoot, andThen_ok]
          cases named : host.identity plugin root with
          | mk actualId root =>
              cases actualId with
              | none =>
                  simp only [mountIdentified, wp_failMount]
                  exact ⟨trivial, rfl⟩
              | some actualId =>
                  by_cases same : actualId = definition.id
                  · simp only [mountIdentified, ne_eq, same, not_true_eq_false, if_false,
                      wp_bind, wp_onRoot, andThen_ok]
                    cases mounts : host.mount definition.id plugin root with
                    | mk result root =>
                        cases result with
                        | ok fiber =>
                            simp only [endMount, wp_bind, wp_changeRecord,
                              andThen_ok, wp_pure]
                            exact ⟨rfl, rfl⟩
                        | error cause =>
                            simp only [endMount, wp_failMount]
                            exact ⟨rfl, rfl⟩
                  · simp only [mountIdentified, ne_eq, same, not_false_eq_true, if_true,
                      wp_failMount]
                    exact ⟨trivial, rfl⟩

/-- How far startup has come: the plugins it was offered have been mounted, have failed
or still wait. -/
structure Underway (wiring : Wiring σ) (offered : List PluginDefinition)
    (before : CordisRuntime σ) (initial : Startup) (unable : Set PluginDefinition)
    (mounted failed waiting : List PluginDefinition) (startup : Startup)
    (runtime : CordisRuntime σ) : Prop where
  usual : wiring.usual runtime.root
  visible : wiring.visible runtime.root =
    wiring.supply.available (wiring.visible before.root) {plugin | plugin ∈ mounted}
  split : (mounted ++ failed ++ waiting).Perm offered
  reached : ∀ plugin ∈ mounted, plugin ∈
    wiring.supply.closure (wiring.visible before.root) {plugin | plugin ∈ offered}
  unable : ∀ plugin ∈ failed, plugin ∈ unable
  held : ∀ plugin ∈ mounted, runtime.hasFiber plugin = true
  free : ∀ plugin ∈ failed ++ waiting, runtime.hasFiber plugin = false
  given : ∀ plugin ∈ failed, (runtime.records plugin).lifecycle = .failed
  others : ∀ plugin, plugin ∉ offered → runtime.records plugin = before.records plugin
  activated : startup.report.activated =
    initial.report.activated ++ mounted.map PluginDefinition.id
  failures : startup.report.failures.map StartupFailure.pluginId =
    initial.report.failures.map StartupFailure.pluginId ++ failed.map PluginDefinition.id
  required : startup.requiredError.isSome = true ↔
    initial.requiredError.isSome = true ∨
      ∃ plugin ∈ failed, plugin.manifest.role.isRequired = true

namespace Underway

variable {wiring : Wiring σ} {offered : List PluginDefinition} {before : CordisRuntime σ}
  {initial : Startup} {unable : Set PluginDefinition}
  {mounted failed earlier later : List PluginDefinition} {startup : Startup}
  {definition : PluginDefinition} {runtime middle : CordisRuntime σ}

theorem start (usual : wiring.usual before.root)
    (free : ∀ plugin ∈ offered, before.hasFiber plugin = false) :
    Underway wiring offered before initial unable [] [] offered initial before where
  usual := usual
  visible := by simp [Supply.available]
  split := by simp
  reached := by simp
  unable := by simp
  held := by simp
  free := by simpa using free
  given := by simp
  others _ _ := rfl
  activated := by simp
  failures := by simp
  required := by simp

/-- The waiting plugin that is tended is none of the others. -/
theorem other_of_ne (distinct : offered.Nodup)
    (underway : Underway wiring offered before initial unable mounted failed
      (earlier ++ definition :: later) startup runtime) :
    definition ∉ mounted ++ failed ++ (earlier ++ later) := by
  have all := (underway.split.nodup_iff).mpr distinct
  have moved : (mounted ++ failed ++ (earlier ++ definition :: later)).Perm
      (definition :: (mounted ++ failed ++ (earlier ++ later))) := by
    rw [← List.append_assoc, ← List.append_assoc]
    exact List.perm_middle
  exact (List.nodup_cons.mp ((moved.nodup_iff).mp all)).1

theorem fiber_of_tended (tended : Tended definition runtime middle)
    {plugin : PluginDefinition} (different : plugin ≠ definition) :
    middle.hasFiber plugin = runtime.hasFiber plugin := by
  unfold CordisRuntime.hasFiber
  rw [tended.others plugin different]

/-- What holds of the plugins that are not tended holds still. -/
theorem keep (distinct : offered.Nodup)
    (underway : Underway wiring offered before initial unable mounted failed
      (earlier ++ definition :: later) startup runtime)
    (tended : Tended definition runtime middle) :
    (∀ plugin ∈ mounted, middle.hasFiber plugin = true) ∧
      (∀ plugin ∈ failed ++ (earlier ++ later), middle.hasFiber plugin = false) ∧
      (∀ plugin ∈ failed, (middle.records plugin).lifecycle = .failed) ∧
      ∀ plugin, plugin ∉ offered → middle.records plugin = before.records plugin := by
  have apart := underway.other_of_ne distinct
  simp only [List.mem_append, not_or] at apart
  have waits : definition ∈ offered := by
    rw [← underway.split.mem_iff]
    simp
  refine ⟨?_, ?_, ?_, ?_⟩
  · intro plugin member
    rw [fiber_of_tended tended (fun same => apart.1.1 (same ▸ member))]
    exact underway.held plugin member
  · intro plugin member
    have different : plugin ≠ definition := by
      rintro rfl
      rcases List.mem_append.mp member with inFailed | inWaiting
      · exact apart.1.2 inFailed
      · rcases List.mem_append.mp inWaiting with inEarlier | inLater
        · exact apart.2.1 inEarlier
        · exact apart.2.2 inLater
    rw [fiber_of_tended tended different]
    apply underway.free
    simp only [List.mem_append, List.mem_cons] at member ⊢
    tauto
  · intro plugin member
    rw [tended.others plugin (fun same => apart.1.2 (same ▸ member))]
    exact underway.given plugin member
  · intro plugin absent
    rw [tended.others plugin (fun same => absent (same ▸ waits))]
    exact underway.others plugin absent

/-- A waiting plugin has mounted. -/
theorem mount (distinct : offered.Nodup)
    (underway : Underway wiring offered before initial unable mounted failed
      (earlier ++ definition :: later) startup runtime)
    (tended : Tended definition runtime middle) (usual : wiring.usual middle.root)
    (holds : middle.hasFiber definition = true) (works : definition ∈ wiring.supply.works)
    (supplied : wiring.supply.needs definition ⊆ wiring.visible runtime.root)
    (adds : wiring.visible middle.root =
      wiring.visible runtime.root ∪ wiring.supply.provides definition) :
    Underway wiring offered before initial unable (mounted ++ [definition]) failed
      (earlier ++ later) (startup.activate definition) middle := by
  obtain ⟨held, free, given, others⟩ := underway.keep distinct tended
  have moved : (mounted ++ [definition] ++ failed ++ (earlier ++ later)).Perm
      (mounted ++ failed ++ (earlier ++ definition :: later)) := by
    simp only [List.append_assoc, List.singleton_append]
    apply List.Perm.append_left
    rw [← List.append_assoc, ← List.append_assoc]
    exact List.perm_middle.symm
  constructor
  · exact usual
  · have sameSet : {plugin | plugin ∈ mounted ++ [definition]} =
        insert definition {plugin | plugin ∈ mounted} := by
      ext plugin
      simp [or_comm]
    rw [adds, underway.visible, sameSet, Supply.available_insert]
  · exact moved.trans underway.split
  · intro plugin member
    rcases List.mem_append.mp member with old | new
    · exact underway.reached plugin old
    · rw [List.mem_singleton.mp new]
      rw [underway.visible] at supplied
      refine Supply.mem_closure ?_ works supplied underway.reached
      change definition ∈ offered
      rw [← underway.split.mem_iff]
      simp
  · exact underway.unable
  · intro plugin member
    rcases List.mem_append.mp member with old | new
    · exact held plugin old
    · rw [List.mem_singleton.mp new]
      exact holds
  · exact free
  · exact given
  · exact others
  · change startup.report.activated ++ [definition.id] = _
    rw [underway.activated, List.map_append, List.append_assoc]
    rfl
  · exact underway.failures
  · exact underway.required

/-- A waiting plugin was tended and goes on waiting. -/
theorem defer (distinct : offered.Nodup)
    (underway : Underway wiring offered before initial unable mounted failed
      (earlier ++ definition :: later) startup runtime)
    (tended : Tended definition runtime middle) (usual : wiring.usual middle.root)
    (empty : middle.hasFiber definition = false)
    (keeps : wiring.visible middle.root = wiring.visible runtime.root) :
    Underway wiring offered before initial unable mounted failed
      (earlier ++ definition :: later) startup middle := by
  obtain ⟨held, free, given, others⟩ := underway.keep distinct tended
  refine ⟨usual, keeps.trans underway.visible, underway.split, underway.reached,
    underway.unable, held, ?_, given, others, underway.activated, underway.failures,
    underway.required⟩
  intro plugin member
  by_cases same : plugin = definition
  · rw [same]
    exact empty
  · apply free
    simp only [List.mem_append, List.mem_cons] at member ⊢
    tauto

/-- A waiting plugin has failed. -/
theorem fail (distinct : offered.Nodup)
    (underway : Underway wiring offered before initial unable mounted failed
      (earlier ++ definition :: later) startup runtime)
    (tended : Tended definition runtime middle) (usual : wiring.usual middle.root)
    (empty : middle.hasFiber definition = false)
    (ended : (middle.records definition).lifecycle = .failed)
    (keeps : wiring.visible middle.root = wiring.visible runtime.root)
    (cannot : definition ∈ unable) (phase : FailurePhase) (error : RuntimeError)
    (record : PluginRecord) :
    Underway wiring offered before initial unable mounted (failed ++ [definition])
      (earlier ++ later) ((startup.require definition error).fail definition phase error
        record) middle := by
  obtain ⟨held, free, given, others⟩ := underway.keep distinct tended
  have moved : (mounted ++ (failed ++ [definition]) ++ (earlier ++ later)).Perm
      (mounted ++ failed ++ (earlier ++ definition :: later)) := by
    simp only [List.append_assoc, List.singleton_append]
    apply List.Perm.append_left
    apply List.Perm.append_left
    exact List.perm_middle.symm
  constructor
  · exact usual
  · exact keeps.trans underway.visible
  · exact moved.trans underway.split
  · exact underway.reached
  · intro plugin member
    rcases List.mem_append.mp member with old | new
    · exact underway.unable plugin old
    · rw [List.mem_singleton.mp new]
      exact cannot
  · exact held
  · intro plugin member
    by_cases same : plugin = definition
    · rw [same]
      exact empty
    · apply free
      simp only [List.mem_append, List.mem_singleton] at member ⊢
      tauto
  · intro plugin member
    rcases List.mem_append.mp member with old | new
    · exact given plugin old
    · rw [List.mem_singleton.mp new]
      exact ended
  · exact others
  · exact underway.activated
  · change (startup.report.failures ++ [_]).map StartupFailure.pluginId = _
    rw [List.map_append, underway.failures, List.map_append, List.append_assoc]
    rfl
  · change (startup.requiredError.or
      (if definition.manifest.role.isRequired then some error else none)).isSome = true ↔ _
    have listed : (∃ plugin ∈ failed ++ [definition],
        plugin.manifest.role.isRequired = true) ↔
        (∃ plugin ∈ failed, plugin.manifest.role.isRequired = true) ∨
          definition.manifest.role.isRequired = true := by
      constructor
      · rintro ⟨plugin, member, required⟩
        rcases List.mem_append.mp member with old | new
        · exact .inl ⟨plugin, old, required⟩
        · exact .inr (List.mem_singleton.mp new ▸ required)
      · rintro (⟨plugin, member, required⟩ | required)
        · exact ⟨plugin, List.mem_append_left _ member, required⟩
        · exact ⟨definition, by simp, required⟩
    rw [listed, ← or_assoc, ← underway.required]
    cases definition.manifest.role.isRequired <;> simp

/-- What plugins were unable to do may be said in weaker words. -/
theorem weaken {weaker : Set PluginDefinition}
    (underway : Underway wiring offered before initial unable mounted failed earlier startup
      runtime) (implies : unable ⊆ weaker) :
    Underway wiring offered before initial weaker mounted failed earlier startup runtime :=
  { underway with unable := fun plugin member => implies (underway.unable plugin member) }

end Underway

/-- The plugins that can not mount at all. -/
def Wiring.broken (wiring : Wiring σ) : Set PluginDefinition :=
  {plugin | plugin ∉ wiring.supply.works}

variable {unable : Set PluginDefinition} {startup : Startup} {runtime : CordisRuntime σ}
  {mounted failed : List PluginDefinition}

section Rounds

variable {registry : PluginRegistry} {host : PluginHost σ π} {wiring : Wiring σ}
  {offered : List PluginDefinition} {before : CordisRuntime σ} {initial : Startup}

/-- How a pass over some waiting plugins ends. -/
structure PassEnd (wiring : Wiring σ) (offered : List PluginDefinition)
    (before : CordisRuntime σ) (initial : Startup)
    (mounted failed earlier pending : List PluginDefinition) (pass : Pass)
    (runtime : CordisRuntime σ) (pass' : Pass) (final : CordisRuntime σ)
    (newMounted newFailed still : List PluginDefinition) : Prop where
  underway : Underway wiring offered before initial wiring.broken (mounted ++ newMounted)
    (failed ++ newFailed) (earlier ++ still) pass'.startup final
  next : pass'.next.map Prod.fst = earlier ++ still
  progress : pass'.mounted = true ↔ pass.mounted = true ∨ newMounted ≠ []
  stuck : newMounted = [] → wiring.visible final.root = wiring.visible runtime.root ∧
    ∀ plugin ∈ still, ¬ wiring.supply.needs plugin ⊆ wiring.visible runtime.root

theorem mountPass_spec (describes : wiring.Describes registry host)
    (distinct : offered.Nodup) (listed : offered ⊆ registry.definitions)
    (pending : List PluginDefinition) (pass : Pass) (runtime : CordisRuntime σ)
    (mounted failed earlier : List PluginDefinition)
    (underway : Underway wiring offered before initial wiring.broken mounted failed
      (earlier ++ pending) pass.startup runtime)
    (next : pass.next.map Prod.fst = earlier) :
    (mountPass host pending pass).wp (fun result final =>
      ∃ pass' newMounted newFailed still, result = .ok pass' ∧
        PassEnd wiring offered before initial mounted failed earlier pending pass runtime
          pass' final newMounted newFailed still) runtime := by
  induction pending generalizing pass runtime mounted failed earlier with
  | nil =>
      rw [mountPass, wp_pure]
      refine ⟨pass, [], [], [], rfl, ?_, ?_, ?_, ?_⟩
      · simpa using underway
      · simpa using next
      · simp
      · intro _
        simp
  | cons definition rest ih =>
      have waits : definition ∈ offered := by
        rw [← underway.split.mem_iff]
        simp
      have free : runtime.hasFiber definition = false := by
        apply underway.free
        simp
      simp only [mountPass, wp_bind, wp_caught, andThen_ok]
      refine wp_mono (wp_and (mountIndex_spec host definition runtime)
        (mountIndex_calls host free)) ?_
      rintro called middle ⟨spec, result, root⟩
      have mounts := describes definition (listed waits) runtime.root underway.usual
      rw [← result, ← root] at mounts
      have ended := spec.ended free
      cases called with
      | ok fiber =>
          obtain ⟨works, supplied, adds⟩ := mounts.adds fiber rfl
          have holds : middle.hasFiber definition = true := by
            simp [CordisRuntime.hasFiber, ended.1]
          simp only [afterMount, wp_pure, andThen_ok]
          refine wp_mono (ih _ middle (mounted ++ [definition])
            failed earlier (underway.mount distinct spec.tended mounts.usual holds works
              supplied adds) next) ?_
          rintro result final ⟨pass', newMounted, newFailed, still, returned, ends⟩
          refine ⟨pass', definition :: newMounted, newFailed, still, returned, ?_, ends.next,
            ?_, ?_⟩
          · simpa using ends.underway
          · simp [ends.progress]
          · intro impossible
            cases impossible
      | error error =>
          have empty : middle.hasFiber definition = false := by
            simp [CordisRuntime.hasFiber, ended.1]
          obtain ⟨keeps, missing⟩ := mounts.keeps error rfl
          by_cases waitsOn : isMissingDependency error = true
          · have deferred : Tended definition runtime
                (middle.update definition PluginRecord.deferMissingDependency) :=
              spec.tended.trans (Tended.update _ _ _)
            have emptyStill : (middle.update definition
                PluginRecord.deferMissingDependency).hasFiber definition = false := by
              simpa [CordisRuntime.hasFiber, PluginRecord.deferMissingDependency] using empty
            simp only [afterMount, waitsOn, if_true, wp_bind, wp_changeRecord,
              andThen_ok, wp_pure]
            refine wp_mono (ih _ _ mounted failed
              (earlier ++ [definition]) ?_ (by simp [next])) ?_
            · simpa using underway.defer distinct deferred mounts.usual emptyStill keeps
            · rintro result final ⟨pass', newMounted, newFailed, still, returned, ends⟩
              refine ⟨pass', newMounted, newFailed, definition :: still, returned, ?_, ?_,
                ends.progress, ?_⟩
              · simpa using ends.underway
              · simpa using ends.next
              · intro none
                obtain ⟨same, stuck⟩ := ends.stuck none
                change wiring.visible final.root = wiring.visible middle.root at same
                change ∀ plugin ∈ still, ¬ wiring.supply.needs plugin ⊆
                  wiring.visible middle.root at stuck
                rw [keeps] at same stuck
                refine ⟨same, ?_⟩
                intro plugin member
                rcases List.mem_cons.mp member with rfl | later
                · exact missing waitsOn
                · exact stuck plugin later
          · have cannot : definition ∈ wiring.broken := by
              intro works
              by_cases supplied :
                  wiring.supply.needs definition ⊆ wiring.visible runtime.root
              · obtain ⟨fiber, impossible⟩ := mounts.succeeds works supplied
                cases impossible
              · obtain ⟨other, same, isMissing⟩ := mounts.misses works supplied
                cases same
                exact waitsOn isMissing
            simp only [afterMount, waitsOn, Bool.false_eq_true, if_false, wp_bind,
              wp_get, andThen_ok, wp_pure]
            refine wp_mono (ih _ middle mounted
              (failed ++ [definition]) earlier (underway.fail distinct spec.tended
                mounts.usual empty ended.2.1 keeps cannot _ _ _) next) ?_
            rintro result final ⟨pass', newMounted, newFailed, still, returned, ends⟩
            refine ⟨pass', newMounted, definition :: newFailed, still, returned, ?_, ends.next,
              ends.progress, ?_⟩
            · simpa using ends.underway
            · intro none
              obtain ⟨same, stuck⟩ := ends.stuck none
              rw [keeps] at same stuck
              exact ⟨same, stuck⟩

/-- Giving up on plugins that wait for something they will not get. -/
theorem abandon_spec (distinct : offered.Nodup)
    (waiting : List (PluginDefinition × RuntimeError)) (startup : Startup)
    (runtime : CordisRuntime σ) (mounted failed : List PluginDefinition)
    (underway : Underway wiring offered before initial unable mounted failed
      (waiting.map Prod.fst) startup runtime)
    (cannot : ∀ entry ∈ waiting, entry.1 ∈ unable) :
    (abandon waiting startup).wp (fun result final => ∃ startup', result = .ok startup' ∧
      Underway wiring offered before initial unable mounted
        (failed ++ waiting.map Prod.fst) [] startup' final) runtime := by
  induction waiting generalizing startup runtime failed with
  | nil =>
      rw [abandon, wp_pure]
      exact ⟨startup, rfl, by simpa using underway⟩
  | cons entry rest ih =>
      obtain ⟨definition, error⟩ := entry
      have free : runtime.hasFiber definition = false := by
        apply underway.free
        simp
      have failing : Underway wiring offered before initial unable mounted failed
          ([] ++ definition :: rest.map Prod.fst) startup runtime := underway
      simp only [abandon, wp_bind, wp_changeRecord, andThen_ok,
        wp_get]
      refine wp_mono (ih _ _ (failed ++ [definition])
        (failing.fail distinct (Tended.update definition runtime _) underway.usual ?_ ?_ rfl
          (cannot (definition, error) (by simp)) _ _ _)
        (fun other member => cannot other (List.mem_cons_of_mem _ member))) ?_
      · simpa [CordisRuntime.hasFiber, PluginRecord.recordFailure] using free
      · rw [CordisRuntime.records_update_self]
        rfl
      · rintro result final ⟨startup', returned, ends⟩
        exact ⟨startup', returned, by simpa using ends⟩

/-- The `while` loop of `start_default`, with the number of its passes. -/
inductive Loop (host : PluginHost σ π) : Nat → List PluginDefinition → Startup →
    CordisRuntime σ → Startup → CordisRuntime σ → Prop
  | done (startup : Startup) (runtime : CordisRuntime σ) :
      Loop host 0 [] startup runtime startup runtime
  | last {pending : List PluginDefinition} {startup : Startup} {pass : Pass}
      {runtime middle : CordisRuntime σ} (some : pending ≠ [])
      (passed : (mountPass host pending ⟨startup, [], false⟩).exec runtime = (.ok pass, middle))
      (nobody : pass.next = []) :
      Loop host 1 pending startup runtime pass.startup middle
  | again {pending : List PluginDefinition} {startup startup' : Startup} {pass : Pass}
      {runtime middle final : CordisRuntime σ} {passes : Nat} (some : pending ≠ [])
      (passed : (mountPass host pending ⟨startup, [], false⟩).exec runtime = (.ok pass, middle))
      (somebody : pass.next ≠ []) (mounted : pass.mounted = true)
      (rest : Loop host passes (pass.next.map Prod.fst) pass.startup middle startup' final) :
      Loop host (passes + 1) pending startup runtime startup' final
  | stuck {pending : List PluginDefinition} {startup startup' : Startup} {pass : Pass}
      {runtime middle final : CordisRuntime σ} (some : pending ≠ [])
      (passed : (mountPass host pending ⟨startup, [], false⟩).exec runtime = (.ok pass, middle))
      (somebody : pass.next ≠ []) (idle : pass.mounted = false)
      (givesUp : (abandon pass.next pass.startup).exec middle = (.ok startup', final)) :
      Loop host 1 pending startup runtime startup' final

/-- Over no plugins the loop does nothing. -/
theorem Loop.nil_inv {passes : Nat} {startup' : Startup}
    {final : CordisRuntime σ}
    (loop : Loop host passes [] startup runtime startup' final) :
    passes = 0 ∧ startup' = startup ∧ final = runtime := by
  cases loop with
  | done => exact ⟨rfl, rfl, rfl⟩
  | last some => exact absurd rfl some
  | again some => exact absurd rfl some
  | stuck some => exact absurd rfl some

/-- The plugins that can not mount at a root. -/
def Wiring.unsupplied (wiring : Wiring σ) (root : Root σ) : Set PluginDefinition :=
  {plugin | plugin ∈ wiring.broken ∨
    ¬ wiring.supply.needs plugin ⊆ wiring.visible root}

/-- How the loop over the pending plugins ends. -/
structure RoundsEnd (host : PluginHost σ π) (wiring : Wiring σ)
    (offered : List PluginDefinition) (before : CordisRuntime σ) (initial : Startup)
    (pending : List PluginDefinition) (startup : Startup) (runtime : CordisRuntime σ)
    (startup' : Startup) (final : CordisRuntime σ) (passes : Nat)
    (mounted failed : List PluginDefinition) : Prop where
  few : passes ≤ pending.length
  loop : Loop host passes pending startup runtime startup' final
  underway : Underway wiring offered before initial (wiring.unsupplied final.root) mounted
    failed [] startup' final

theorem RoundsEnd.nil
    (underway : Underway wiring offered before initial wiring.broken mounted failed []
      startup runtime) :
    RoundsEnd host wiring offered before initial [] startup runtime startup runtime 0 mounted
      failed :=
  ⟨Nat.zero_le _, .done startup runtime, underway.weaken fun _ cannot => .inl cannot⟩

theorem mountRounds_spec (describes : wiring.Describes registry host)
    (distinct : offered.Nodup) (listed : offered ⊆ registry.definitions)
    (rounds : Nat) (pending : List PluginDefinition) (startup : Startup)
    (runtime : CordisRuntime σ) (mounted failed : List PluginDefinition)
    (enough : pending.length ≤ rounds)
    (underway : Underway wiring offered before initial wiring.broken mounted failed pending
      startup runtime) :
    ∃ startup' final passes allMounted allFailed,
      (mountRounds host rounds pending startup).exec runtime = (.ok startup', final) ∧
      RoundsEnd host wiring offered before initial pending startup runtime startup' final
        passes allMounted allFailed := by
  induction rounds generalizing pending startup runtime mounted failed with
  | zero =>
      obtain rfl : pending = [] := List.eq_nil_of_length_eq_zero (Nat.le_zero.mp enough)
      exact ⟨startup, runtime, 0, mounted, failed, rfl, .nil underway⟩
  | succ rounds ih =>
      by_cases some : pending = []
      · subst some
        exact ⟨startup, runtime, 0, mounted, failed, rfl, .nil underway⟩
      · obtain ⟨pass, newMounted, newFailed, still, returned, ends⟩ :=
          mountPass_spec describes distinct listed pending ⟨startup, [], false⟩ runtime
            mounted failed [] underway rfl
        generalize ran : (mountPass host pending ⟨startup, [], false⟩).exec runtime = outcome
          at returned ends
        obtain ⟨result, middle⟩ := outcome
        change result = .ok pass at returned
        subst returned
        have lengths : newMounted.length + newFailed.length + still.length =
            pending.length := by
          have afterwards := ends.underway.split.length_eq
          have beforehand := underway.split.length_eq
          simp only [List.length_append, List.length_nil] at afterwards beforehand
          omega
        have next : pass.next.map Prod.fst = still := ends.next
        rw [mountRounds, exec_bind, ran]
        dsimp only
        cases progress : pass.mounted with
        | true =>
            have someMounted : newMounted ≠ [] := by
              rcases ends.progress.mp progress with impossible | some
              · cases impossible
              · exact some
            have shorter : still.length < pending.length := by
              have positive := List.length_pos_iff.mpr someMounted
              omega
            obtain ⟨startup', final, passes, allMounted, allFailed, goesOn, rest⟩ :=
              ih still pass.startup middle (mounted ++ newMounted)
                (failed ++ newFailed) (by omega) ends.underway
            rw [if_pos rfl, next]
            by_cases nobodyWaits : pass.next = []
            · have stillNone : still = [] := by
                rw [← next, nobodyWaits]
                rfl
              subst stillNone
              obtain ⟨-, rfl, rfl⟩ := rest.loop.nil_inv
              exact ⟨_, _, 1, allMounted, allFailed, goesOn,
                List.length_pos_iff.mpr some, .last some ran nobodyWaits, rest.underway⟩
            · rw [← next] at rest
              have few := rest.few
              rw [next] at few
              exact ⟨startup', final, passes + 1, allMounted, allFailed, goesOn, by omega,
                .again some ran nobodyWaits progress rest.loop, rest.underway⟩
        | false =>
            have noneMounted : newMounted = [] := by
              by_contra some
              rw [ends.progress.mpr (.inr some)] at progress
              cases progress
            obtain ⟨same, stuck⟩ := ends.stuck noneMounted
            have cannot : ∀ entry ∈ pass.next, entry.1 ∈ wiring.unsupplied middle.root := by
              intro entry member
              right
              rw [same]
              apply stuck
              rw [← next]
              exact List.mem_map_of_mem member
            have waiting : Underway wiring offered before initial
                (wiring.unsupplied middle.root) (mounted ++ newMounted)
                (failed ++ newFailed) (pass.next.map Prod.fst) pass.startup middle := by
              rw [next]
              exact ends.underway.weaken fun _ broken => .inl broken
            obtain ⟨startup', returned, ended⟩ := abandon_spec distinct pass.next pass.startup
              middle _ _ waiting cannot
            generalize gaveUp : (abandon pass.next pass.startup).exec middle = outcome
              at returned ended
            obtain ⟨result, final⟩ := outcome
            change result = .ok startup' at returned
            subst returned
            have sameRoot : wiring.unsupplied middle.root = wiring.unsupplied final.root := by
              unfold Wiring.unsupplied
              rw [ends.underway.visible, ended.visible]
            rw [sameRoot] at ended
            rw [if_neg (by simp), gaveUp]
            by_cases nobodyWaits : pass.next = []
            · rw [nobodyWaits] at gaveUp
              cases gaveUp
              exact ⟨pass.startup, middle, 1, _, _, rfl, List.length_pos_iff.mpr some,
                .last some ran nobodyWaits, ended⟩
            · exact ⟨startup', final, 1, _, _, rfl, List.length_pos_iff.mpr some,
                .stuck some ran nobodyWaits progress gaveUp, ended⟩

end Rounds

/-- The plugin is to run. -/
def CordisRuntime.desires (runtime : CordisRuntime σ) (plugin : PluginDefinition) : Bool :=
  runtime.effectiveEnabled plugin.manifest

/-- What the first loop of `start_default` does when no plugin that is switched off holds
a fiber. -/
structure SortedOut (definitions : List PluginDefinition) (startup : Startup)
    (before : CordisRuntime σ) (startup' : Startup) (pending : List PluginDefinition)
    (final : CordisRuntime σ) : Prop where
  root : final.root = before.root
  desires : ∀ plugin, final.desires plugin = before.desires plugin
  fibers : ∀ plugin, final.hasFiber plugin = before.hasFiber plugin
  pending : pending = definitions.filter fun plugin =>
    before.desires plugin && !before.hasFiber plugin
  activated : startup'.report.activated = startup.report.activated ++
    (definitions.filter fun plugin =>
      before.desires plugin && before.hasFiber plugin).map PluginDefinition.id
  failures : startup'.report.failures = startup.report.failures
  required : startup'.requiredError = startup.requiredError

theorem sortOut_spec (host : PluginHost σ π) (definitions : List PluginDefinition)
    (startup : Startup) (before : CordisRuntime σ)
    (idle : ∀ plugin ∈ definitions, before.desires plugin = false →
      before.hasFiber plugin = false) :
    (sortOut host definitions startup).wp (fun result final => ∃ startup' pending,
      result = .ok (startup', pending) ∧
        SortedOut definitions startup before startup' pending final) before := by
  induction definitions generalizing startup before with
  | nil =>
      rw [sortOut, wp_pure]
      refine ⟨startup, [], rfl, rfl, fun _ => rfl, fun _ => rfl, ?_, ?_, rfl, rfl⟩ <;> simp
  | cons definition rest ih =>
      have idleRest : ∀ plugin ∈ rest, before.desires plugin = false →
          before.hasFiber plugin = false :=
        fun plugin member => idle plugin (List.mem_cons_of_mem _ member)
      simp only [sortOut, wp_bind, wp_get, andThen_ok]
      cases wanted : before.effectiveEnabled definition.manifest with
      | false =>
          have free := idle definition (by simp) wanted
          have sameFibers : ∀ plugin,
              (before.update definition PluginRecord.deactivateWithoutMount).hasFiber plugin =
                before.hasFiber plugin := by
            intro plugin
            by_cases same : plugin = definition
            · rw [same]
              simp [CordisRuntime.hasFiber, PluginRecord.deactivateWithoutMount]
            · simp [CordisRuntime.hasFiber, same]
          simp only [if_true, wp_bind, switchOff, wp_get,
            andThen_ok, free, Bool.false_eq_true, if_false, wp_pure,
            wp_changeRecord]
          refine wp_mono (ih (startup.skip definition)
            (before.update definition PluginRecord.deactivateWithoutMount) ?_) ?_
          · intro plugin member unwanted
            rw [sameFibers]
            exact idleRest plugin member unwanted
          · rintro result final ⟨startup', pending, returned, sorted⟩
            refine ⟨startup', pending, returned, sorted.root, sorted.desires, ?_, ?_, ?_,
              sorted.failures, sorted.required⟩
            · intro plugin
              rw [sorted.fibers, sameFibers]
            · rw [sorted.pending, List.filter_cons_of_neg (by simp [wanted,
                CordisRuntime.desires])]
              simp only [sameFibers]
              rfl
            · rw [sorted.activated, List.filter_cons_of_neg (by simp [wanted,
                CordisRuntime.desires])]
              simp only [sameFibers]
              rfl
      | true =>
          simp only [Bool.true_eq_false, if_false]
          cases held : before.hasFiber definition with
          | true =>
              simp only [if_true]
              refine wp_mono (ih (startup.activate definition)
                before idleRest) ?_
              rintro result final ⟨startup', pending, returned, sorted⟩
              refine ⟨startup', pending, returned, sorted.root, sorted.desires,
                sorted.fibers, ?_, ?_, sorted.failures, sorted.required⟩
              · rw [sorted.pending, List.filter_cons_of_neg (by simp [held])]
              · rw [sorted.activated, List.filter_cons_of_pos (by simp [wanted, held,
                  CordisRuntime.desires]), List.map_cons]
                simp [Startup.activate]
          | false =>
              simp only [Bool.false_eq_true, if_false, wp_bind]
              refine wp_mono (ih startup before idleRest) ?_
              rintro result final ⟨startup', pending, rfl, sorted⟩
              simp only [andThen_ok, wp_pure]
              refine ⟨startup', definition :: pending, rfl, sorted.root, sorted.desires,
                sorted.fibers, ?_, ?_, sorted.failures, sorted.required⟩
              · rw [sorted.pending, List.filter_cons_of_pos (by simp [wanted, held,
                  CordisRuntime.desires])]
              · rw [sorted.activated, List.filter_cons_of_neg (by simp [held])]

section Outcome

variable {registry : PluginRegistry} {host : PluginHost σ π} {wiring : Wiring σ}
  {before : CordisRuntime σ}

/-- The plugins startup has to mount. -/
def PluginRegistry.pending (registry : PluginRegistry) (runtime : CordisRuntime σ) :
    List PluginDefinition :=
  registry.definitions.filter fun plugin =>
    runtime.desires plugin && !runtime.hasFiber plugin

/-- The plugins to mount that can be supplied: a least fixed point. -/
def Wiring.reachable (wiring : Wiring σ) (registry : PluginRegistry)
    (runtime : CordisRuntime σ) : Set PluginDefinition :=
  wiring.supply.closure (wiring.visible runtime.root)
    {plugin | plugin ∈ registry.pending runtime}

/-- What a startup report told. -/
structure Reported (registry : PluginRegistry) (before after : CordisRuntime σ)
    (report : StartupReport) : Prop where
  activatedOnce : report.activated.Nodup
  activated : ∀ id, id ∈ report.activated ↔ ∃ plugin ∈ registry.definitions,
    plugin.id = id ∧ before.desires plugin = true ∧ after.hasFiber plugin = true
  failedOnce : (report.failures.map StartupFailure.pluginId).Nodup
  failed : ∀ id, id ∈ report.failures.map StartupFailure.pluginId ↔
    ∃ plugin ∈ registry.definitions,
      plugin.id = id ∧ before.desires plugin = true ∧ after.hasFiber plugin = false

/-- What startup leaves behind. -/
structure StartupEnd (registry : PluginRegistry) (host : PluginHost σ π)
    (wiring : Wiring σ) (before : CordisRuntime σ)
    (result : Except RuntimeError StartupReport) (after : CordisRuntime σ) : Prop where
  passes : ∃ sorted startup middle passes, Loop host passes (registry.pending before) sorted
    middle startup after ∧ passes ≤ (registry.pending before).length + 1 ∧
    result = startup.requiredError.elim (.ok startup.report) .error
  mounted : ∀ plugin ∈ registry.definitions, before.desires plugin = true →
    (after.hasFiber plugin = true ↔
      before.hasFiber plugin = true ∨ plugin ∈ wiring.reachable registry before)
  unwanted : ∀ plugin ∈ registry.definitions, before.desires plugin = false →
    after.hasFiber plugin = false
  failed : ∀ plugin ∈ registry.definitions, before.desires plugin = true →
    after.hasFiber plugin = false → (after.records plugin).lifecycle = .failed
  refused : (∃ error, result = .error error) ↔ ∃ plugin ∈ registry.definitions,
    plugin.manifest.role.isRequired = true ∧ after.hasFiber plugin = false
  reported : ∀ report, result = .ok report → Reported registry before after report

variable {middle after : CordisRuntime σ}

/-- When every waiting plugin has mounted or failed, those mounted are the reachable ones. -/
theorem Underway.mounted_iff {initial : Startup}
    (underway : Underway wiring (registry.pending before) middle initial
      (wiring.unsupplied after.root) mounted failed [] startup after)
    (sameRoot : middle.root = before.root) (plugin : PluginDefinition) :
    plugin ∈ mounted ↔ plugin ∈ wiring.reachable registry before := by
  rw [Wiring.reachable, ← sameRoot]
  constructor
  · exact underway.reached plugin
  · intro member
    have closed : wiring.supply.closure (wiring.visible middle.root)
        {plugin | plugin ∈ registry.pending before} ⊆ {plugin | plugin ∈ mounted} := by
      apply Supply.closure_subset
      intro other offered works supplied
      rw [← underway.visible] at supplied
      have decided := underway.split.mem_iff.mpr offered
      simp only [List.mem_append, List.not_mem_nil, or_false] at decided
      rcases decided with isMounted | hasFailed
      · exact isMounted
      · rcases underway.unable other hasFailed with broken | unsupplied
        · exact absurd works broken
        · exact absurd supplied unsupplied
    exact closed member

/-- Which desired plugins hold a fiber in the end. -/
theorem Underway.outcome {initial : Startup}
    (underway : Underway wiring (registry.pending before) middle initial unable mounted failed
      [] startup after)
    (sameFibers : ∀ plugin, middle.hasFiber plugin = before.hasFiber plugin)
    (plugin : PluginDefinition) (member : plugin ∈ registry.definitions)
    (desired : before.desires plugin = true) :
    (after.hasFiber plugin = true ↔ before.hasFiber plugin = true ∨ plugin ∈ mounted) ∧
      (after.hasFiber plugin = false ↔ plugin ∈ failed) := by
  have offered : plugin ∈ registry.pending before ↔ before.hasFiber plugin = false := by
    simp [PluginRegistry.pending, member, desired]
  have decided : plugin ∈ registry.pending before ↔ plugin ∈ mounted ∨ plugin ∈ failed := by
    rw [← underway.split.mem_iff]
    simp
  cases held : before.hasFiber plugin with
  | true =>
      have absent : plugin ∉ registry.pending before := by
        rw [offered, held]
        simp
      have stays : after.hasFiber plugin = true := by
        rw [← held, ← sameFibers]
        unfold CordisRuntime.hasFiber
        rw [underway.others plugin absent]
      have notFailed : plugin ∉ failed := fun inFailed => absent (decided.mpr (.inr inFailed))
      simp [stays, notFailed]
  | false =>
      rcases decided.mp (offered.mpr held) with isMounted | hasFailed
      · have holds := underway.held plugin isMounted
        have notFailed : plugin ∉ failed := by
          intro inFailed
          rw [underway.free plugin (by simp [inFailed])] at holds
          cases holds
        simp [holds, isMounted, notFailed]
      · have empty := underway.free plugin (by simp [hasFailed])
        have notMounted : plugin ∉ mounted := by
          intro inMounted
          rw [underway.held plugin inMounted] at empty
          cases empty
        simp [empty, hasFailed, notMounted]

/-- Plugins of a registry are listed once by their ids. -/
theorem PluginRegistry.nodup_map_id (registry : PluginRegistry)
    {plugins : List PluginDefinition} (distinct : plugins.Nodup)
    (listed : ∀ plugin ∈ plugins, plugin ∈ registry.definitions) :
    (plugins.map PluginDefinition.id).Nodup :=
  distinct.map_on fun _ left _ right same =>
    registry.eq_of_id_eq (listed _ left) (listed _ right) same

theorem Underway.reported {initial : Startup}
    (underway : Underway wiring (registry.pending before) middle initial unable mounted failed
      [] startup after)
    (sameFibers : ∀ plugin, middle.hasFiber plugin = before.hasFiber plugin)
    (activated : initial.report.activated = (registry.definitions.filter fun plugin =>
      before.desires plugin && before.hasFiber plugin).map PluginDefinition.id)
    (failures : initial.report.failures = []) :
    Reported registry before after startup.report := by
  have outcome := underway.outcome sameFibers
  have distinctAll : registry.definitions.Nodup := List.Nodup.of_map _ registry.nodup_ids
  have distinct : (mounted ++ failed).Nodup := by
    have split := underway.split
    rw [List.append_nil] at split
    exact (split.nodup_iff).mpr (distinctAll.filter _)
  obtain ⟨distinctMounted, distinctFailed, -⟩ := List.nodup_append.mp distinct
  have offered : ∀ plugin ∈ mounted ++ failed, plugin ∈ registry.definitions ∧
      before.desires plugin = true ∧ before.hasFiber plugin = false := by
    intro plugin member
    have listed : plugin ∈ registry.pending before := by
      rw [← underway.split.mem_iff]
      simpa using member
    obtain ⟨present, chosen⟩ := List.mem_filter.mp listed
    exact ⟨present, by simpa using chosen⟩
  have names : startup.report.activated = (registry.definitions.filter (fun plugin =>
      before.desires plugin && before.hasFiber plugin) ++ mounted).map PluginDefinition.id := by
    rw [underway.activated, activated, List.map_append]
  have failedNames : startup.report.failures.map StartupFailure.pluginId =
      failed.map PluginDefinition.id := by
    rw [underway.failures, failures]
    rfl
  constructor
  · rw [names]
    apply registry.nodup_map_id
    · refine (distinctAll.filter _).append distinctMounted ?_
      intro plugin held isMounted
      have free := (offered plugin (List.mem_append_left _ isMounted)).2.2
      have chosen := (List.mem_filter.mp held).2
      simp [free] at chosen
    · intro plugin member
      rcases List.mem_append.mp member with held | isMounted
      · exact (List.mem_filter.mp held).1
      · exact (offered plugin (List.mem_append_left _ isMounted)).1
  · intro id
    rw [names]
    constructor
    · intro listed
      obtain ⟨plugin, member, rfl⟩ := List.mem_map.mp listed
      rcases List.mem_append.mp member with held | isMounted
      · obtain ⟨present, chosen⟩ := List.mem_filter.mp held
        obtain ⟨desired, holds⟩ := Bool.and_eq_true_iff.mp chosen
        exact ⟨plugin, present, rfl, desired, (outcome plugin present desired).1.mpr
          (.inl holds)⟩
      · obtain ⟨present, desired, -⟩ := offered plugin (List.mem_append_left _ isMounted)
        exact ⟨plugin, present, rfl, desired, (outcome plugin present desired).1.mpr
          (.inr isMounted)⟩
    · rintro ⟨plugin, present, rfl, desired, holds⟩
      apply List.mem_map_of_mem
      rcases (outcome plugin present desired).1.mp holds with held | isMounted
      · exact List.mem_append_left _ (List.mem_filter.mpr ⟨present, by simp [desired, held]⟩)
      · exact List.mem_append_right _ isMounted
  · rw [failedNames]
    exact registry.nodup_map_id distinctFailed fun plugin inFailed =>
      (offered plugin (List.mem_append_right _ inFailed)).1
  · intro id
    rw [failedNames]
    constructor
    · intro listed
      obtain ⟨plugin, inFailed, rfl⟩ := List.mem_map.mp listed
      obtain ⟨present, desired, -⟩ := offered plugin (List.mem_append_right _ inFailed)
      exact ⟨plugin, present, rfl, desired, (outcome plugin present desired).2.mpr inFailed⟩
    · rintro ⟨plugin, present, rfl, desired, empty⟩
      exact List.mem_map_of_mem ((outcome plugin present desired).2.mp empty)

theorem CordisRuntime.Sound.idle (sound : before.Sound registry)
    (opened : before.closed = false) :
    ∀ plugin ∈ registry.definitions, before.desires plugin = false →
      before.hasFiber plugin = false := by
  intro plugin member unwanted
  cases held : before.hasFiber plugin with
  | false => rfl
  | true =>
      have switched := sound.switched opened plugin member
      have enabled := (sound.settled plugin).enabled held
      unfold CordisRuntime.Switched at switched
      rw [enabled] at switched
      unfold CordisRuntime.desires at unwanted
      rw [unwanted] at switched
      cases switched

theorem startDefault_end (describes : wiring.Describes registry host)
    (sound : before.Sound registry) (opened : before.closed = false)
    (usual : wiring.usual before.root) :
    StartupEnd registry host wiring before ((startDefault registry host).exec before).1
      ((startDefault registry host).exec before).2 := by
  have distinctAll : registry.definitions.Nodup := List.Nodup.of_map _ registry.nodup_ids
  obtain ⟨sorted, pending, returned, sortedOut⟩ := sortOut_spec host registry.definitions
    ⟨⟨[], [], []⟩, none⟩ { before with started := true } (sound.idle opened)
  generalize ran : (sortOut host registry.definitions ⟨⟨[], [], []⟩, none⟩).exec
    { before with started := true } = outcome at returned sortedOut
  obtain ⟨result, middle⟩ := outcome
  change result = .ok (sorted, pending) at returned
  subst returned
  obtain rfl : pending = registry.pending before := sortedOut.pending
  have sameRoot : middle.root = before.root := sortedOut.root
  have sameFibers : ∀ plugin, middle.hasFiber plugin = before.hasFiber plugin :=
    sortedOut.fibers
  have listed : registry.pending before ⊆ registry.definitions := List.filter_subset_self _
  have distinct : (registry.pending before).Nodup := distinctAll.filter _
  have initially : Underway wiring (registry.pending before) middle sorted wiring.broken [] []
      (registry.pending before) sorted middle := by
    apply Underway.start
    · rw [sameRoot]
      exact usual
    · intro plugin member
      have chosen := (List.mem_filter.mp member).2
      rw [sameFibers]
      simpa using (Bool.and_eq_true_iff.mp chosen).2
  obtain ⟨startup, final, passes, mounted, failed, loops, ends⟩ := mountRounds_spec describes
    distinct listed (registry.pending before).length (registry.pending before) sorted middle
    [] [] (Nat.le_refl _) initially
  have execution : (startDefault registry host).exec before =
      (startup.requiredError.elim (.ok startup.report) .error, final) := by
    have isOpen : (ensureOpen "start" : RuntimeM σ Unit).exec before = (.ok (), before) := by
      simp [ensureOpen, exec_bind, throwIf, opened]
    rw [startDefault, exec_bind, isOpen]
    simp only [exec_bind, exec_modify, ran, loops, exec_ofExcept]
  rw [execution]
  have underway := ends.underway
  have sortedInto : ∀ plugin, plugin ∈ registry.pending before ↔
      plugin ∈ mounted ∨ plugin ∈ failed := by
    intro plugin
    rw [← underway.split.mem_iff]
    simp
  have outcome := underway.outcome sameFibers
  constructor
  · exact ⟨sorted, startup, middle, passes, ends.loop, Nat.le_succ_of_le ends.few, rfl⟩
  · intro plugin member desired
    rw [(outcome plugin member desired).1, underway.mounted_iff sameRoot]
  · intro plugin member unwanted
    have absent : plugin ∉ registry.pending before := by
      simp [PluginRegistry.pending, unwanted]
    unfold CordisRuntime.hasFiber
    rw [underway.others plugin absent]
    exact (sameFibers plugin).trans (sound.idle opened plugin member unwanted)
  · intro plugin member desired empty
    exact underway.given plugin (((outcome plugin member desired).2).mp empty)
  · have noneBefore : sorted.requiredError.isSome = false := by
      rw [sortedOut.required]
      rfl
    have required : startup.requiredError.isSome = true ↔
        ∃ plugin ∈ failed, plugin.manifest.role.isRequired = true := by
      rw [underway.required, noneBefore]
      simp
    have isError : (∃ error, (startup.requiredError.elim (.ok startup.report) .error :
        Except RuntimeError StartupReport) = .error error) ↔
        startup.requiredError.isSome = true := by
      cases startup.requiredError <;> simp
    rw [isError, required]
    constructor
    · rintro ⟨plugin, inFailed, isRequired⟩
      have offered : plugin ∈ registry.pending before := (sortedInto plugin).mpr (.inr inFailed)
      obtain ⟨member, chosen⟩ := List.mem_filter.mp offered
      have desired := (Bool.and_eq_true_iff.mp chosen).1
      exact ⟨plugin, member, isRequired, ((outcome plugin member desired).2).mpr inFailed⟩
    · rintro ⟨plugin, member, isRequired, empty⟩
      have desired : before.desires plugin = true := by
        simp [CordisRuntime.desires, CordisRuntime.effectiveEnabled, isRequired]
      exact ⟨plugin, ((outcome plugin member desired).2).mp empty, isRequired⟩
  · intro report reported
    have isReport : startup.report = report := by
      cases failing : startup.requiredError with
      | none =>
          rw [failing] at reported
          exact Except.ok.inj reported
      | some error =>
          rw [failing] at reported
          cases reported
    rw [← isReport]
    apply underway.reported sameFibers
    · exact sortedOut.activated
    · exact sortedOut.failures

end Outcome

/-- A smaller registry asks for less. -/
theorem CordisRuntime.Sound.of_subset {registry other : PluginRegistry}
    (sound : runtime.Sound registry)
    (within : ∀ plugin ∈ other.definitions, plugin ∈ registry.definitions) :
    runtime.Sound other where
  settled := sound.settled
  switched opened plugin member := sound.switched opened plugin (within plugin member)
  shut closed := ⟨(sound.shut closed).1,
    fun plugin member => (sound.shut closed).2 plugin (within plugin member)⟩

/-- The runtime after startup. -/
def afterStart (registry : PluginRegistry) (host : PluginHost σ π)
    (before : CordisRuntime σ) : CordisRuntime σ :=
  ((startDefault registry host).exec before).2

/-- What startup returns. -/
def startResult (registry : PluginRegistry) (host : PluginHost σ π)
    (before : CordisRuntime σ) : Except RuntimeError StartupReport :=
  ((startDefault registry host).exec before).1

/-- Startup of an open runtime ends after few passes, mounts exactly the plugins that can
ever be supplied and reports the others; the same plugins mount and fail when the
definitions are listed in another order.  Every runtime that is reached by operations is
sound. -/
theorem startDefault_reaches_closure (registry : PluginRegistry) (host : PluginHost σ π)
    (wiring : Wiring σ) (before : CordisRuntime σ)
    (describes : wiring.Describes registry host) (usual : wiring.usual before.root)
    (sound : before.Sound registry) (opened : before.closed = false) :
    StartupEnd registry host wiring before (startResult registry host before)
      (afterStart registry host before) ∧
    ∀ other : PluginRegistry, other.definitions.Perm registry.definitions →
      (∀ plugin ∈ registry.definitions, (afterStart other host before).hasFiber plugin =
        (afterStart registry host before).hasFiber plugin) ∧
      ((∃ error, startResult other host before = .error error) ↔
        ∃ error, startResult registry host before = .error error) ∧
      ∀ report report', startResult registry host before = .ok report →
        startResult other host before = .ok report' →
        report'.activated.Perm report.activated ∧
        (report'.failures.map StartupFailure.pluginId).Perm
          (report.failures.map StartupFailure.pluginId) := by
  have ended := startDefault_end describes sound opened usual
  refine ⟨ended, ?_⟩
  intro other permuted
  have sameMembers : ∀ plugin, plugin ∈ other.definitions ↔ plugin ∈ registry.definitions :=
    fun plugin => permuted.mem_iff
  have endedOther : StartupEnd other host wiring before
      ((startDefault other host).exec before).1 ((startDefault other host).exec before).2 :=
    startDefault_end (fun plugin member => describes plugin ((sameMembers plugin).mp member))
      (sound.of_subset fun plugin member => (sameMembers plugin).mp member) opened usual
  have sameReachable : wiring.reachable other before = wiring.reachable registry before := by
    have samePending : {plugin | plugin ∈ other.pending before} =
        {plugin | plugin ∈ registry.pending before} := by
      ext plugin
      simp [PluginRegistry.pending, sameMembers]
    rw [Wiring.reachable, Wiring.reachable, samePending]
  have sameFibers : ∀ plugin ∈ registry.definitions,
      (afterStart other host before).hasFiber plugin =
        (afterStart registry host before).hasFiber plugin := by
    intro plugin member
    have otherMember := (sameMembers plugin).mpr member
    cases desired : before.desires plugin with
    | true =>
        rw [Bool.eq_iff_iff]
        exact (endedOther.mounted plugin otherMember desired).trans
          (sameReachable ▸ (ended.mounted plugin member desired).symm)
    | false =>
        exact (endedOther.unwanted plugin otherMember desired).trans
          (ended.unwanted plugin member desired).symm
  refine ⟨sameFibers, ?_, ?_⟩
  · refine endedOther.refused.trans (Iff.trans ?_ ended.refused.symm)
    constructor
    · rintro ⟨plugin, member, required, empty⟩
      have listed := (sameMembers plugin).mp member
      exact ⟨plugin, listed, required, (sameFibers plugin listed).symm.trans empty⟩
    · rintro ⟨plugin, member, required, empty⟩
      exact ⟨plugin, (sameMembers plugin).mpr member, required,
        (sameFibers plugin member).trans empty⟩
  · intro report report' returned returnedOther
    have told := ended.reported report returned
    have toldOther := endedOther.reported report' returnedOther
    constructor
    · rw [List.perm_ext_iff_of_nodup toldOther.activatedOnce told.activatedOnce]
      intro id
      rw [toldOther.activated, told.activated]
      constructor
      · rintro ⟨plugin, member, named, desired, holds⟩
        have listed := (sameMembers plugin).mp member
        exact ⟨plugin, listed, named, desired, (sameFibers plugin listed).symm.trans holds⟩
      · rintro ⟨plugin, member, named, desired, holds⟩
        exact ⟨plugin, (sameMembers plugin).mpr member, named, desired,
          (sameFibers plugin member).trans holds⟩
    · rw [List.perm_ext_iff_of_nodup toldOther.failedOnce told.failedOnce]
      intro id
      rw [toldOther.failed, told.failed]
      constructor
      · rintro ⟨plugin, member, named, desired, empty⟩
        have listed := (sameMembers plugin).mp member
        exact ⟨plugin, listed, named, desired, (sameFibers plugin listed).symm.trans empty⟩
      · rintro ⟨plugin, member, named, desired, empty⟩
        exact ⟨plugin, (sameMembers plugin).mpr member, named, desired,
          (sameFibers plugin member).trans empty⟩

/-- An optional plugin. -/
def optionalPlugin (id : String) (factory : PluginFactory) : PluginDefinition :=
  ⟨⟨id, id, .optional, .safe, .safe⟩, factory⟩

def lateConsumer : PluginDefinition := optionalPlugin "late.consumer" 0
def lateProvider : PluginDefinition := optionalPlugin "late.provider" 1

/-- The consumer stands before the provider. -/
def lateRegistry : PluginRegistry where
  definitions := [lateConsumer, lateProvider]
  fits := by decide
  checked := by decide

/-- The id it is mounted under. -/
def lateConsumerId : PluginId := ⟨"late.consumer", by decide⟩

/-- The first plugin needs the service that the second provides. -/
def lateHost : PluginHost (List String) Nat where
  instantiate factory root := (some factory, root)
  identity plugin root :=
    (some (if plugin = 0 then lateConsumer.id else lateProvider.id), root)
  mount _ plugin root :=
    if plugin = 0 then
      if "late" ∈ root.outside then (.ok 1, root)
      else (.error (.missingDependency lateConsumerId "late"), root)
    else (.ok 2, { root with outside := "late" :: root.outside })
  unmount _ root := (.ok (), root)
  dropFiber _ root := root
  runDisposers services := (none, services)

/-- What is said of these plugins. -/
def lateWiring : Wiring (List String) where
  supply :=
    { needs := fun plugin => if plugin.factory = 0 then {"late"} else ∅
      provides := fun plugin => if plugin.factory = 0 then ∅ else {"late"}
      works := Set.univ }
  usual _ := True
  visible root := {service | service ∈ root.outside}

theorem lateWiring_describes : lateWiring.Describes lateRegistry lateHost := by
  intro definition member root _
  have cases : definition = lateConsumer ∨ definition = lateProvider := by
    simpa [lateRegistry] using member
  rcases cases with rfl | rfl
  · by_cases visible : "late" ∈ root.outside
    · have called : mountCalls lateHost lateConsumer root = (.ok 1, root) := by
        simp [mountCalls, lateHost, lateConsumer, optionalPlugin, visible, PluginDefinition.id,
          Except.mapError]
      rw [called]
      constructor <;>
        simp [lateWiring, lateConsumer, optionalPlugin, visible]
    · have called : mountCalls lateHost lateConsumer root =
          (.error (.pluginMountFailed lateConsumer.id
            (.missingDependency lateConsumerId "late")), root) := by
        simp [mountCalls, lateHost, lateConsumer, optionalPlugin, visible, PluginDefinition.id,
          Except.mapError]
      rw [called]
      constructor <;>
        simp [lateWiring, lateConsumer, optionalPlugin, visible, isMissingDependency]
  · have called : mountCalls lateHost lateProvider root =
        (.ok 2, { root with outside := "late" :: root.outside }) := by
      simp [mountCalls, lateHost, lateProvider, optionalPlugin, PluginDefinition.id,
        Except.mapError]
    rw [called]
    have needs : lateWiring.supply.needs lateProvider = ∅ := rfl
    have provides : lateWiring.supply.provides lateProvider = {"late"} := rfl
    constructor
    · trivial
    · exact fun _ _ => ⟨2, rfl⟩
    · simp [needs]
    · intro fiber _
      refine ⟨trivial, by simp [needs], ?_⟩
      rw [provides]
      ext service
      simp [lateWiring]
    · exact fun _ impossible => by cases impossible

theorem startDefault_reaches_lateConsumer :
    StartupEnd lateRegistry lateHost lateWiring (CordisRuntime.new [])
      (startResult lateRegistry lateHost (CordisRuntime.new []))
      (afterStart lateRegistry lateHost (CordisRuntime.new [])) :=
  (startDefault_reaches_closure lateRegistry lateHost lateWiring (CordisRuntime.new [])
    lateWiring_describes trivial (sound_new lateRegistry []) rfl).1

end Runtime
end YunXi
