import YunXi.Kernel.States

/-!
# Generations of the kernel

What the operations of the kernel do to the generations of plugins, in any world: a start begins
the next generation of its plugin, a registration adds a plugin, and nothing else changes a
generation.
-/

namespace YunXi
namespace Kernel

open Fallible
open YunxiKernel World

/-- The id that a slot was registered under, and its generation. -/
def PluginSlot.mark (slot : PluginSlot) : PluginId × Nat :=
  (slot.spec.id, slot.generation)

/-- The mark of a plugin that the kernel knows. -/
def World.mark (world : World) (id : PluginId) : Option (PluginId × Nat) :=
  (world.kernel.plugins.lookup? id).map PluginSlot.mark

theorem World.mark_eq_some {world : World} {id : PluginId} {slot : PluginSlot}
    (found : world.kernel.plugins.lookup? id = some slot) :
    world.mark id = some slot.mark := by
  unfold World.mark
  rw [found]
  rfl

theorem World.mark_put_self (world : World) (id : PluginId) (slot : PluginSlot) :
    (world.put id slot).mark id = some slot.mark :=
  World.mark_eq_some (lookup?_put_self world.kernel id slot)

theorem World.mark_put_of_ne (world : World) {id other : PluginId} (differ : other ≠ id)
    (slot : PluginSlot) : (world.put id slot).mark other = world.mark other :=
  congrArg (Option.map PluginSlot.mark) (lookup?_put_of_ne world.kernel differ slot)

/-- The kernel is in the same state, with the same generations. -/
structure Steady (before after : World) : Prop where
  state : after.kernel.state = before.kernel.state
  marks : ∀ id, after.mark id = before.mark id

instance steadyRefl : Std.Refl Steady where
  refl _ := ⟨rfl, fun _ => rfl⟩

instance steadyTrans : IsTrans World Steady where
  trans _ _ _ early late :=
    ⟨late.state.trans early.state,
      fun id => (late.marks id).trans (early.marks id)⟩

theorem Steady.of_kernel {before after : World} (same : after.kernel = before.kernel) :
    Steady before after := by
  refine ⟨congrArg YunxiKernel.state same, fun id => ?_⟩
  unfold World.mark
  rw [same]

theorem steady_superviseAll (world : World) (steps : List SupervisorStep) :
    Steady world (steps.foldl World.supervise world) :=
  .of_kernel (superviseAll_kernel world steps)

theorem steady_refresh (world : World) : Steady world world.refresh.2 := by
  refine ⟨applyEvents_state world.kernel world.queue, fun id => ?_⟩
  unfold World.mark
  cases found : world.kernel.plugins.lookup? id with
  | none => rw [refresh_missing found]
  | some slot =>
      obtain ⟨next, nextFound, spec, generation, -⟩ := refresh_slot found
      unfold PluginSlot.mark
      rw [nextFound, Option.map_some, Option.map_some, spec, generation]

/-- A slot may be replaced by one of its mark. -/
theorem steady_put {world : World} {id : PluginId} {slot next : PluginSlot}
    (found : world.kernel.plugins.lookup? id = some slot)
    (same : next.mark = slot.mark) : Steady world (world.put id next) := by
  refine ⟨rfl, fun other => ?_⟩
  by_cases own : other = id
  · rw [own, world.mark_put_self, World.mark_eq_some found, same]
  · exact world.mark_put_of_ne own next

section Operations

variable {world : World}

/-- What is steady after a refresh is steady. -/
theorem Steady.after_refresh {final : World} (steady : Steady world.refresh.2 final) :
    Steady world final :=
  steadyTrans.trans _ _ _ (steady_refresh world) steady

/-- A stop changes no generation. -/
theorem preserves_stop (id : PluginId) (meanwhile : List SupervisorStep) (returned : Bool) :
    Preserves Steady (YunxiKernel.stop id meanwhile returned) := by
  intro world
  change (YunxiKernel.stop id meanwhile returned).wp (fun _ final => Steady world final) world
  unfold YunxiKernel.stop putSlot
  refine wp_ensureRunning_bind (fun _ => steadyRefl.refl _) fun _ => wp_refresh_bind ?_
  refine wp_mono ?_ fun _ _ steady => Steady.after_refresh steady
  refine wp_slot_bind (fun _ => steadyRefl.refl _) fun slot found => ?_
  have active : wp (do
      modify (·.put id { slot with state := .stopping })
      throwIf (slot.commands = false) (.supervisorUnavailable id)
      modify fun world => meanwhile.foldl World.supervise world
      let world ← get
      throwIf (world.live id = none ∧ returned = true) (.supervisorUnavailable id) :
        KernelProgram Unit) (fun _ final => Steady world.refresh.2 final) world.refresh.2 := by
    have stopping : Steady world.refresh.2
        (world.refresh.2.put id { slot with state := .stopping }) := steady_put found rfl
    have stopped := steadyTrans.trans _ _ _ stopping (steady_superviseAll _ meanwhile)
    rw [wp_bind, wp_modify, andThen_ok, wp_bind,
      wp_throwIf]
    refine ⟨fun _ => stopping, fun _ => ?_⟩
    rw [andThen_ok, wp_bind, wp_modify, andThen_ok,
      wp_bind, wp_get, andThen_ok, wp_throwIf]
    exact ⟨fun _ => stopped, fun _ => stopped⟩
  cases state : slot.state with
  | registered => exact steady_put found rfl
  | starting => exact active
  | running _ => exact active
  | stopping => exact active
  | stopped => exact steadyRefl.refl _
  | failed _ => exact steadyRefl.refl _

/-- A failure that is forced changes no generation. -/
theorem preserves_fail (id : PluginId) (failure : PluginFailure) :
    Preserves Steady (YunxiKernel.fail id failure) := by
  intro world
  change (YunxiKernel.fail id failure).wp (fun _ final => Steady world final) world
  unfold YunxiKernel.fail putSlot
  refine wp_ensureRunning_bind (fun _ => steadyRefl.refl _) fun _ => wp_refresh_bind ?_
  refine wp_mono ?_ fun _ _ steady => Steady.after_refresh steady
  refine wp_slot_bind (fun _ => steadyRefl.refl _) fun slot found => ?_
  exact steady_put found rfl

/-- A registration adds a plugin that was not known, at generation zero. -/
structure Registered (id : PluginId) (before after : World) : Prop where
  state : after.kernel.state = before.kernel.state
  running : before.kernel.state = .running
  missing : before.mark id = none
  own : after.mark id = some (id, 0)
  others : ∀ other, other ≠ id → after.mark other = before.mark other

theorem wp_register_cases (spec : PluginSpec) :
    (register spec).wp (fun result final =>
      (result = .ok () ∧ Registered spec.id world final) ∨
        (∃ error, result = .error error) ∧ final = world) world := by
  unfold register putSlot
  refine wp_ensureRunning_bind (fun _ => .inr ⟨⟨_, rfl⟩, rfl⟩) fun running => ?_
  rw [wp_bind, wp_get, andThen_ok]
  cases known : world.kernel.plugins.lookup? spec.id with
  | some slot => exact .inr ⟨⟨_, rfl⟩, rfl⟩
  | none =>
      refine .inl ⟨rfl, rfl, running, ?_, world.mark_put_self spec.id (.new spec),
        fun other differ => world.mark_put_of_ne differ _⟩
      unfold World.mark
      rw [known]
      rfl

/-- A start begins the next generation of its plugin, or fails before or after that. -/
structure Begun (id : PluginId) (before : World) (result : Except KernelError Unit)
    (after : World) : Prop where
  state : after.kernel.state = before.kernel.state
  others : ∀ other, other ≠ id → after.mark other = before.mark other
  own : (∃ error, result = .error error) ∧ after.mark id = before.mark id ∨
    ∃ name generation, before.mark id = some (name, generation) ∧
      after.mark id = some (name, min (generation + 1) maxGeneration)

theorem Begun.after_refresh {id : PluginId} {result : Except KernelError Unit} {final : World}
    (begun : Begun id world.refresh.2 result final) : Begun id world result final := by
  obtain ⟨state, others, own⟩ := begun
  have steady := steady_refresh world
  rw [steady.marks id] at own
  exact ⟨state.trans steady.state,
    fun other differ => (others other differ).trans (steady.marks other), own⟩

theorem wp_start_begun (id : PluginId) (ending : World.Ending) (spawnError : Option String) :
    (start id ending spawnError).wp (Begun id world) world := by
  have fails {world : World} {error : KernelError} : Begun id world (.error error) world :=
    ⟨rfl, fun _ _ => rfl, .inl ⟨⟨error, rfl⟩, rfl⟩⟩
  unfold start putSlot
  refine wp_ensureRunning_bind (fun _ => fails) fun _ => wp_refresh_bind ?_
  refine wp_mono ?_ fun _ _ begun => Begun.after_refresh begun
  refine wp_slot_bind (fun _ => fails) fun old found => ?_
  rw [wp_bind, wp_throwIf]
  refine ⟨fun _ => fails, fun idle => ?_⟩
  rw [andThen_ok, wp_bind, wp_modify, andThen_ok,
    wp_bind, wp_modify, andThen_ok]
  have waits : (if old.worker then (world.refresh.2.put id (nextGeneration old)).join id ending
      else world.refresh.2.put id (nextGeneration old)).kernel =
        world.refresh.2.kernel.put id (nextGeneration old) := by
    split
    · exact (joined_join _ id ending).kernel
    · rfl
  generalize (if old.worker then (world.refresh.2.put id (nextGeneration old)).join id ending
    else world.refresh.2.put id (nextGeneration old)) = after at waits
  have next {result : Except KernelError Unit} {final : World} {slot : PluginSlot}
      (kernel : final.kernel = after.kernel.put id slot)
      (same : slot.mark = (nextGeneration old).mark) :
      Begun id world.refresh.2 result final := by
    have put : Steady (world.refresh.2.put id slot) final := by
      refine .of_kernel (kernel.trans ?_)
      rw [waits]
      unfold World.put YunxiKernel.put
      dsimp only
      rw [SortedMap.insert_insert]
    refine ⟨put.state, fun other differ => ?_, .inr ⟨old.spec.id, old.generation, ?_, ?_⟩⟩
    · exact (put.marks other).trans (World.mark_put_of_ne _ differ _)
    · exact World.mark_eq_some found
    · rw [put.marks id, World.mark_put_self, same]
      rfl
  cases spawnError with
  | some message =>
      rw [wp_bind, wp_modify, andThen_ok, wp_throw]
      exact next rfl rfl
  | none =>
      rw [wp_bind, wp_modify, andThen_ok, wp_modify]
      exact next rfl rfl

/-- A change of all slots that leaves their marks. -/
theorem mark_map {world : World} {state : KernelState} {plugins : SortedMap PluginId PluginSlot}
    {queue : List SupervisorEvent} {live : PluginId → Option Supervisor}
    (change : PluginId → PluginSlot → PluginSlot)
    (same : ∀ id slot, (change id slot).mark = slot.mark)
    (known : ∀ id, (plugins.lookup? id).map PluginSlot.mark = world.mark id)
    (id : PluginId) :
    World.mark ⟨⟨state, plugins.map change⟩, queue, live⟩ id = world.mark id := by
  rw [← known id]
  unfold World.mark
  dsimp only
  rw [SortedMap.lookup?_map]
  cases plugins.lookup? id with
  | none => rfl
  | some slot => exact congrArg some (same id slot)

/-- A shutdown keeps the generations. -/
theorem mark_shutDown (endings : PluginId → World.Ending) (id : PluginId) :
    (shutDownWorld endings world).mark id = world.mark id := by
  have begins (id : PluginId) : World.mark { world.refresh.2 with
      kernel := { state := .shuttingDown, plugins := world.refresh.2.kernel.plugins.map fun _ =>
        shuttingDown } } id = world.mark id :=
    mark_map _ (fun _ slot => Prod.ext (congrArg PluginSpec.id (shuttingDown_spec slot))
      (shuttingDown_generation slot)) (steady_refresh world).marks id
  have joined (id : PluginId) :
      (allJoined endings world.refresh.2).mark id = world.mark id := by
    unfold allJoined joinWorkers
    refine mark_map (fun _ slot => { slot with worker := false }) (fun _ _ => rfl)
      (fun other => ?_) id
    rw [(joined_all endings _ _).1]
    exact begins other
  unfold shutDownWorld
  exact mark_map (fun _ => shutDown) (fun _ _ => rfl)
    (fun other => ((steady_refresh _).marks other).trans (joined other)) id

end Operations

end Kernel
end YunXi
