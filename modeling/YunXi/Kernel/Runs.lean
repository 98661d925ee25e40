import YunXi.Kernel.Order

/-!
# Runs of the kernel

Every operation of the kernel keeps its slots sound and moves none of them back, as long as no
process is announced after a stop of its plugin was accepted.
-/

namespace YunXi
namespace Kernel

open Fallible
open YunxiKernel World

/-- What is left of a supervisor that was waited for. -/
structure Joined (world after : World) (id : PluginId) : Prop where
  kernel : after.kernel = world.kernel
  dead : after.live id = none
  others : ∀ other, other ≠ id → after.live other = world.live other
  reports : ∃ reports, after.queue = world.queue ++ reports ∧
    ∀ event ∈ reports, event.id = id ∧ event.state ≠ .registered ∧
      ∃ live, world.live id = some live ∧ event.generation = live.generation

theorem TerminalState.ne_registered (state : TerminalState) : state.1 ≠ .registered := by
  intro registered
  have terminal := state.2
  rw [registered] at terminal
  cases terminal

/-- A supervisor that ends reports it. -/
theorem joined_finish (world : World) (id : PluginId) (state : TerminalState) :
    Joined world (world.supervise (.finish id state)) id := by
  unfold supervise
  dsimp only
  cases isLive : world.live id with
  | none =>
      exact ⟨rfl, isLive, fun _ _ => rfl, [], (List.append_nil _).symm, nofun⟩
  | some live =>
      refine ⟨rfl, Function.update_self _ _ _, fun other differ =>
        Function.update_of_ne differ _ _, _, rfl, ?_⟩
      exact List.forall_mem_singleton.mpr
        ⟨rfl, TerminalState.ne_registered state, live, isLive, rfl⟩

/-- A supervisor announces its process, or has nothing to announce. -/
theorem supervise_announce (world : World) (id : PluginId) (pid : Nat) :
    (∃ generation, world.live id = some ⟨generation, .spawning⟩ ∧
        world.supervise (.announce id pid) =
          { world with
            queue := world.queue ++ [⟨id, generation, .running pid⟩]
            live := Function.update world.live id (some ⟨generation, .announced⟩) }) ∨
      world.supervise (.announce id pid) = world := by
  unfold supervise
  dsimp only
  split
  case h_1 generation isLive => exact .inl ⟨generation, isLive, rfl⟩
  case h_2 => exact .inr rfl

theorem joined_join (world : World) (id : PluginId) (ending : World.Ending) :
    Joined world (world.join id ending) id := by
  unfold join
  dsimp only
  cases ending.announces with
  | none => exact joined_finish world id ending.last
  | some pid =>
      dsimp only
      rcases supervise_announce world id pid with ⟨generation, isLive, announced⟩ | silent
      · -- the announcement comes before the end
        rw [announced]
        obtain ⟨kernel, dead, others, reports, queue, ends⟩ := joined_finish
          { world with
            queue := world.queue ++ [⟨id, generation, .running pid⟩]
            live := Function.update world.live id (some ⟨generation, .announced⟩) } id ending.last
        refine ⟨kernel, dead, fun other differ =>
          (others other differ).trans (Function.update_of_ne differ _ _),
          ⟨id, generation, .running pid⟩ :: reports, ?_, ?_⟩
        · refine queue.trans ?_
          dsimp only
          rw [List.append_assoc]
          rfl
        · refine List.forall_mem_cons.mpr ⟨⟨rfl, nofun, _, isLive, rfl⟩, fun event member => ?_⟩
          obtain ⟨own, unregistered, live, wasLive, same⟩ := ends event member
          dsimp only at wasLive
          rw [Function.update_self] at wasLive
          refine ⟨own, unregistered, _, isLive, ?_⟩
          rw [same, ← Option.some_inj.mp wasLive]
      · rw [silent]
        exact joined_finish world id ending.last

section Starting

variable {world : World} {id : PluginId} {old : PluginSlot}

/-- After the wait for an old worker nothing is to come for the generation that starts. -/
theorem Sound.joinOld (sound : Sound world) (empty : world.queue = [])
    (found : world.kernel.plugins.lookup? id = some old) (room : old.generation < maxGeneration)
    (next : PluginSlot) (ending : World.Ending) :
    let waited := if old.worker then (world.put id next).join id ending else world.put id next
    waited.kernel = world.kernel.put id next ∧ waited.live id = none ∧
      (∀ other, other ≠ id → waited.live other = world.live other) ∧
      ∀ event ∈ waited.queue, event.id = id ∧ event.generation < (nextGeneration old).generation := by
  have advances : old.generation < (nextGeneration old).generation := by
    unfold nextGeneration
    dsimp only
    omega
  intro waited
  cases worker : old.worker with
  | true =>
      have same : waited = (world.put id next).join id ending := by
        change (if old.worker then _ else _) = _
        rw [worker]
        rfl
      obtain ⟨kernel, dead, others, reports, queue, ends⟩ :=
        joined_join (world.put id next) id ending
      rw [same]
      refine ⟨kernel, dead, others, fun event member => ?_⟩
      rw [queue] at member
      change event ∈ world.queue ++ reports at member
      rw [empty] at member
      obtain ⟨own, -, live, isLive, sameGeneration⟩ := ends event member
      subst own
      obtain ⟨-, generation⟩ := (sound.known event.id old found).worker live isLive
      exact ⟨rfl, by omega⟩
  | false =>
      have same : waited = world.put id next := by
        change (if old.worker then _ else _) = _
        rw [worker]
        rfl
      rw [same]
      refine ⟨rfl, ?_, fun _ _ => rfl, ?_⟩
      · cases isLive : world.live id with
        | none => exact isLive
        | some live =>
            have held := ((sound.known id old found).worker live isLive).1
            exact nomatch worker.symm.trans held
      · intro event member
        change event ∈ world.queue at member
        rw [empty] at member
        cases member

/-- A world in which a new generation of a plugin has started, or failed to. -/
theorem Sound.begin (sound : Sound world) (empty : world.queue = [])
    (found : world.kernel.plugins.lookup? id = some old)
    (slot : PluginSlot) {queue : List SupervisorEvent} {live : PluginId → Option Supervisor}
    {supervisor : Option Supervisor}
    (others : ∀ other, other ≠ id → live other = world.live other)
    (past : ∀ event ∈ queue, event.id = id ∧ event.generation < slot.generation)
    (named : slot.spec = old.spec) (free : slot.forcedFailure = none)
    (starts : (slot.state = .starting ∧ slot.worker = true ∧
        supervisor = some ⟨slot.generation, .spawning⟩) ∨
      (slot.state.rank = 4 ∧ supervisor = none)) :
    Sound ⟨world.kernel.put id slot, queue, Function.update live id supervisor⟩ := by
  constructor
  · intro other otherSlot otherFound
    dsimp only
    by_cases same : other = id
    · subst same
      change (world.kernel.put other slot).plugins.lookup? other = some otherSlot at otherFound
      rw [lookup?_put_self, Option.some_inj] at otherFound
      subst otherFound
      have silent : pending queue other slot.generation = [] :=
        pending_eq_nil fun event member own => (past event member).2.ne own.2
      rw [Function.update_self]
      have name := (congrArg PluginSpec.id named).trans (sound.known other old found).named
      have earlier : ∀ event ∈ queue, event.id = other →
          event.generation ≤ slot.generation :=
        fun event member _ => Nat.le_of_lt (past event member).2
      have unforced : ∀ {property : PluginFailure → Prop} (failure : PluginFailure),
          slot.forcedFailure = some failure → property failure :=
        fun failure impossible => nomatch free.symm.trans impossible
      rcases starts with ⟨starting, worker, rfl⟩ | ⟨rank, rfl⟩
      · refine ⟨name, ?_, earlier, ⟨.silent, ?_, ?_, ?_⟩, ?_, unforced⟩
        · rintro _ ⟨⟩
          exact ⟨worker, rfl⟩
        · rw [silent]
          rfl
        · rw [starting]
          rintro - (impossible | impossible) <;> cases impossible
        · rw [starting]
          nofun
        · rw [starting]
          nofun
      · refine ⟨name, nofun, earlier, ⟨.ended, ?_, fun _ _ => rfl, ?_⟩, ?_, unforced⟩
        · rw [silent]
          rfl
        · intro _ two
          exact absurd (rank.symm.trans two) (by decide)
        · intro _ stopping
          rw [stopping] at rank
          cases rank
    · change (world.kernel.put id slot).plugins.lookup? other = some otherSlot at otherFound
      rw [lookup?_put_of_ne _ same] at otherFound
      rw [Function.update_of_ne same, others other same]
      have kept := (sound.known other otherSlot otherFound)
          |>.send_others fun event member own => same (own.symm.trans (past event member).1)
      rwa [empty] at kept
  · intro other missing
    change (world.kernel.put id slot).plugins.lookup? other = none at missing
    have differ : other ≠ id := by
      rintro rfl
      rw [lookup?_put_self] at missing
      cases missing
    rw [lookup?_put_of_ne _ differ] at missing
    dsimp only
    rw [Function.update_of_ne differ, others other differ]
    exact ⟨(sound.unknown other missing).1,
      fun event member own => differ (own.symm.trans (past event member).1)⟩

end Starting

variable {id : PluginId}

section Rules

variable {α : Type} {world : World} {post : Except KernelError α → World → Prop}

theorem wp_ensureRunning_bind {next : Unit → KernelProgram α}
    (refused : world.kernel.state ≠ .running → post (.error .notRunning) world)
    (runs : world.kernel.state = .running → (next ()).wp post world) :
    (ensureRunning >>= next).wp post world := by
  unfold ensureRunning
  rw [wp_bind, wp_bind, wp_get, andThen_ok,
    wp_throwIf]
  exact ⟨refused, fun running => runs (not_not.mp running)⟩

theorem wp_refresh_bind {next : Unit → KernelProgram α}
    (refreshed : (next ()).wp post world.refresh.2) :
    (YunxiKernel.refresh >>= next).wp post world := by
  unfold YunxiKernel.refresh
  rw [wp_bind]
  exact refreshed

theorem wp_slot_bind {next : PluginSlot → KernelProgram α}
    (missing : world.kernel.plugins.lookup? id = none → post (.error (.unknownPlugin id)) world)
    (found : ∀ slot, world.kernel.plugins.lookup? id = some slot → (next slot).wp post world) :
    (slot id >>= next).wp post world := by
  unfold slot
  rw [wp_bind, wp_bind, wp_get, andThen_ok]
  cases known : world.kernel.plugins.lookup? id with
  | none => exact missing known
  | some slot => exact found slot known

end Rules

/-- What an operation leaves is sound, and no slot is moved back. -/
def Safe (world final : World) : Prop :=
  Sound final ∧ GoesOn world.kernel final.kernel

theorem Safe.refl {world : World} (sound : Sound world) : Safe world world :=
  ⟨sound, .refl _⟩

theorem Safe.after_refresh {world final : World} (sound : Sound world)
    (safe : Safe world.refresh.2 final) : Safe world final :=
  ⟨safe.1, sound.refresh.2.1.trans safe.2⟩

variable {slot : PluginSlot}

section Operations

variable {world : World}

theorem wp_register (sound : Sound world) (spec : PluginSpec) :
    (register spec).wp (fun _ final => Safe world final) world := by
  unfold register putSlot
  refine wp_ensureRunning_bind (fun _ => .refl sound) fun _ => ?_
  rw [wp_bind, wp_get, andThen_ok]
  cases known : world.kernel.plugins.lookup? spec.id with
  | some slot => exact .refl sound
  | none =>
      obtain ⟨dead, silent⟩ := sound.unknown spec.id known
      rw [wp_modify]
      refine ⟨⟨fun id slot found => ?_, fun id missing => ?_⟩, fun id slot found => ?_⟩
      · change (world.kernel.put spec.id (.new spec)).plugins.lookup? id = some slot at found
        by_cases same : id = spec.id
        · subst same
          rw [lookup?_put_self, Option.some_inj] at found
          subst found
          have quiet : pending world.queue spec.id 0 = [] :=
            pending_eq_nil fun event member own => silent event member own.1
          refine ⟨rfl, ?_, fun event member own => absurd own (silent event member),
            ⟨.ended, ?_, fun _ _ => rfl, nofun⟩, nofun, nofun⟩
          · intro live isLive
            exact nomatch dead.symm.trans isLive
          · change Flow .ended (pending world.queue spec.id 0)
              ((world.live spec.id).map Supervisor.phase)
            rw [quiet, dead]
            rfl
        · rw [lookup?_put_of_ne _ same] at found
          exact sound.known id slot found
      · change (world.kernel.put spec.id (.new spec)).plugins.lookup? id = none at missing
        have differ : id ≠ spec.id := by
          rintro rfl
          rw [lookup?_put_self] at missing
          cases missing
        rw [lookup?_put_of_ne _ differ] at missing
        exact sound.unknown id missing
      · have differ : id ≠ spec.id := by
          rintro rfl
          exact nomatch known.symm.trans found
        exact ⟨slot, (lookup?_put_of_ne _ differ _).trans found, .refl slot⟩

theorem wp_start (sound : Sound world) (id : PluginId) (ending : World.Ending)
    (spawnError : Option String)
    (room : ∀ slot, world.kernel.plugins.lookup? id = some slot →
      slot.generation < maxGeneration) :
    (start id ending spawnError).wp (fun _ final => Safe world final) world := by
  unfold start putSlot
  refine wp_ensureRunning_bind (fun _ => .refl sound) fun _ => wp_refresh_bind ?_
  obtain ⟨refreshed, goesOn, empty, -⟩ := sound.refresh
  refine wp_mono ?_ fun _ _ safe => Safe.after_refresh sound safe
  refine wp_slot_bind (fun _ => .refl refreshed) fun old found => ?_
  rw [wp_bind, wp_throwIf]
  refine ⟨fun _ => .refl refreshed, fun idle => ?_⟩
  have roomNow : old.generation < maxGeneration := by
    obtain ⟨before, wasFound, same⟩ := generation_of_refresh found
    exact same ▸ room before wasFound
  have advances : old.generation < (nextGeneration old).generation := by
    unfold nextGeneration
    dsimp only
    omega
  have waits := refreshed.joinOld empty found roomNow (nextGeneration old) ending
  rw [andThen_ok, wp_bind, wp_modify, andThen_ok,
    wp_bind, wp_modify, andThen_ok]
  generalize (if old.worker then (world.refresh.2.put id (nextGeneration old)).join id ending
    else world.refresh.2.put id (nextGeneration old)) = after at waits
  obtain ⟨kernel, dead, others, past⟩ := waits
  obtain ⟨afterKernel, afterQueue, afterLive⟩ := after
  dsimp only at kernel dead others past
  subst kernel
  have later : ∀ slot : PluginSlot, slot.generation = (nextGeneration old).generation →
      Later old slot := by
    intro slot same
    have differ : slot.generation ≠ old.generation := by omega
    exact ⟨by omega, fun equal => absurd equal differ, fun equal => absurd equal differ⟩
  -- the slot is written twice, and the second time counts
  have twice : ∀ slot : PluginSlot,
      (world.refresh.2.kernel.put id (nextGeneration old)).put id slot =
        world.refresh.2.kernel.put id slot := by
    intro slot
    unfold YunxiKernel.put
    dsimp only
    rw [SortedMap.insert_insert]
  cases spawnError with
  | some message =>
      have begun := refreshed.begin empty found
        { nextGeneration old with state := .failed (.supervisor message) } others past rfl rfl
        (.inr ⟨rfl, rfl⟩)
      rw [← dead, Function.update_eq_self] at begun
      rw [wp_bind, wp_modify, andThen_ok, wp_throw]
      unfold World.put
      dsimp only
      rw [twice]
      exact ⟨begun, goesOn_put found (later _ rfl)⟩
  | none =>
      have begun := refreshed.begin empty found
        { nextGeneration old with commands := true, worker := true } others past rfl rfl
        (.inl ⟨rfl, rfl, rfl⟩)
      rw [wp_bind, wp_modify, andThen_ok, wp_modify]
      unfold World.put
      dsimp only
      rw [twice]
      exact ⟨begun, goesOn_put found (later _ rfl)⟩

/-- A slot may be replaced by one that fits what is to come. -/
theorem Sound.put (sound : Sound world) {next : PluginSlot}
    (found : world.kernel.plugins.lookup? id = some slot)
    (own : SlotSound world.queue (world.live id) id next) : Sound (world.put id next) := by
  constructor
  · intro other otherSlot otherFound
    change (world.kernel.put id next).plugins.lookup? other = some otherSlot at otherFound
    by_cases same : other = id
    · subst same
      rw [lookup?_put_self, Option.some_inj] at otherFound
      exact otherFound ▸ own
    · rw [lookup?_put_of_ne _ same] at otherFound
      exact sound.known other otherSlot otherFound
  · intro other missing
    change (world.kernel.put id next).plugins.lookup? other = none at missing
    have differ : other ≠ id := by
      rintro rfl
      rw [lookup?_put_self] at missing
      cases missing
    rw [lookup?_put_of_ne _ differ] at missing
    exact sound.unknown other missing

/-- The world in which the supervisors go on while a stop is under way. -/
def stoppingWorld (world : World) (id : PluginId) (slot : PluginSlot) : World :=
  world.refresh.2.put id { slot with state := .stopping }

theorem safe_put (sound : Sound world) {next : PluginSlot}
    (found : world.kernel.plugins.lookup? id = some slot)
    (own : SlotSound world.queue (world.live id) id next) (later : Later slot next) :
    Safe world (world.put id next) :=
  ⟨sound.put found own, goesOn_put found later⟩

/-- A plugin of which a stop was accepted is stopping, or has ended. -/
def Halted (id : PluginId) (world : World) : Prop :=
  ∃ slot, world.kernel.plugins.lookup? id = some slot ∧ 3 ≤ slot.state.rank

/-- The supervisors go on while a stop is under way, and none of them announces the process of
a plugin that is stopping. -/
def StopTimely (world : World) (id : PluginId) (meanwhile : List SupervisorStep) : Prop :=
  ∀ slot, world.refresh.2.kernel.plugins.lookup? id = some slot → slot.state.isActive = true →
    EachStep World.supervise Timely (stoppingWorld world id slot) meanwhile

theorem wp_stop (sound : Sound world) (id : PluginId) (meanwhile : List SupervisorStep)
    (returned : Bool) (timely : StopTimely world id meanwhile) :
    (stop id meanwhile returned).wp (fun result final =>
      Safe world final ∧ (result = .ok () → Halted id final)) world := by
  unfold stop putSlot
  refine wp_ensureRunning_bind (fun _ => ⟨.refl sound, nofun⟩) fun _ => wp_refresh_bind ?_
  obtain ⟨refreshed, -, empty, -⟩ := sound.refresh
  refine wp_mono ?_ fun _ _ (safe : _ ∧ _) => ⟨Safe.after_refresh sound safe.1, safe.2⟩
  refine wp_slot_bind (fun _ => ⟨.refl refreshed, nofun⟩) fun slot found => ?_
  obtain ⟨named, worker, past, ⟨stage, flow, ended, announced⟩, stopping, forced⟩ :=
    refreshed.known id slot found
  -- a slot whose failure was forced has failed
  have free : slot.state.isFailed = false → slot.forcedFailure = none := by
    intro notFailed
    cases isForced : slot.forcedFailure with
    | none => rfl
    | some failure =>
        rw [forced failure isForced] at notFailed
        cases notFailed
  have active : slot.state.isActive = true →
      wp (do
        modify (·.put id { slot with state := .stopping })
        throwIf (slot.commands = false) (.supervisorUnavailable id)
        modify fun world => meanwhile.foldl World.supervise world
        let world ← get
        throwIf (world.live id = none ∧ returned = true) (.supervisorUnavailable id) :
          KernelProgram Unit) (fun result final =>
            Safe world.refresh.2 final ∧ (result = .ok () → Halted id final)) world.refresh.2 := by
    intro isActive
    have unforced : slot.forcedFailure = none := by
      apply free
      cases state : slot.state <;> first | rfl | (rw [state] at isActive; cases isActive)
    have quiet : pending world.refresh.2.queue id slot.generation = [] := by
      rw [empty]
      rfl
    have own : SlotSound world.refresh.2.queue (world.refresh.2.live id) id
        { slot with state := .stopping } := by
      refine ⟨named, worker, past, ⟨stage, flow, ?_, ?_⟩, ?_, ?_⟩
      · rintro - (impossible | impossible) <;> cases impossible
      · nofun
      · intro _ _ pid member
        change .running pid ∈ pending world.refresh.2.queue id slot.generation at member
        rw [quiet] at member
        cases member
      · intro failure isForced
        exact nomatch unforced.symm.trans isForced
    have later : Later slot { slot with state := .stopping } :=
      ⟨Nat.le_refl _, fun _ => PluginState.rank_of_isActive isActive, fun _ _ same => same⟩
    have stopped := safe_put refreshed found own later
    have halted : Halted id (world.refresh.2.put id { slot with state := .stopping }) :=
      ⟨_, lookup?_put_self _ _ _, Nat.le_refl 3⟩
    obtain ⟨after, same⟩ := stopped.1.superviseAll meanwhile (timely slot found isActive)
    have goesOn := stopped.2
    rw [← same] at goesOn
    unfold Halted at halted
    rw [← same] at halted
    rw [wp_bind, wp_modify, andThen_ok, wp_bind,
      wp_throwIf]
    refine ⟨fun _ => ⟨stopped, nofun⟩, fun _ => ?_⟩
    rw [andThen_ok, wp_bind, wp_modify, andThen_ok,
      wp_bind, wp_get, andThen_ok, wp_throwIf]
    exact ⟨fun _ => ⟨⟨after, goesOn⟩, nofun⟩, fun _ => ⟨⟨after, goesOn⟩, fun _ => halted⟩⟩
  cases state : slot.state with
  | registered =>
      have unforced := free (by rw [state]; rfl)
      have own : SlotSound world.refresh.2.queue (world.refresh.2.live id) id
          { slot with state := .stopped } := by
        refine ⟨named, worker, past, ⟨stage, flow, ?_, nofun⟩, nofun, ?_⟩
        · exact fun _ _ => ended unforced (.inl (congrArg PluginState.rank state))
        · intro failure isForced
          exact nomatch unforced.symm.trans isForced
      have later : Later slot { slot with state := .stopped } := by
        refine ⟨Nat.le_refl _, fun _ => ?_, fun _ _ same => same⟩
        rw [state]
        exact Nat.zero_le _
      exact ⟨safe_put refreshed found own later, fun _ =>
        ⟨_, lookup?_put_self _ _ _, Nat.le_succ 3⟩⟩
  | starting => exact active (by rw [state]; rfl)
  | running pid => exact active (by rw [state]; rfl)
  | stopping => exact active (by rw [state]; rfl)
  | stopped =>
      refine ⟨.refl refreshed, fun _ => ⟨slot, found, ?_⟩⟩
      rw [state]
      exact Nat.le_succ 3
  | failed failure =>
      refine ⟨.refl refreshed, fun _ => ⟨slot, found, ?_⟩⟩
      rw [state]
      exact Nat.le_succ 3

/-- What a forced failure leaves: the plugin has failed with it, and the others go on. -/
structure Failed (world : World) (id : PluginId) (failure : PluginFailure) (final : World) :
    Prop where
  slot : ∃ slot, final.kernel.plugins.lookup? id = some slot ∧ slot.forcedFailure = some failure
  own : ∀ slot, world.kernel.plugins.lookup? id = some slot →
    ∃ next, final.kernel.plugins.lookup? id = some next ∧ Follows slot next
  others : ∀ other slot, other ≠ id → world.kernel.plugins.lookup? other = some slot →
    ∃ next, final.kernel.plugins.lookup? other = some next ∧ Later slot next

theorem wp_fail (sound : Sound world) (id : PluginId) (failure : PluginFailure) :
    (fail id failure).wp (fun result final =>
      Sound final ∧
        ((∃ error, result = .error error ∧ GoesOn world.kernel final.kernel) ∨
          result = .ok () ∧ Failed world id failure final)) world := by
  unfold fail putSlot
  refine wp_ensureRunning_bind (fun _ => ⟨sound, .inl ⟨_, rfl, .refl _⟩⟩) fun _ => wp_refresh_bind ?_
  obtain ⟨refreshed, goesOn, -⟩ := sound.refresh
  refine wp_slot_bind (fun _ => ⟨refreshed, .inl ⟨_, rfl, goesOn⟩⟩) fun slot found => ?_
  rw [wp_modify]
  obtain ⟨named, worker, past, ⟨stage, flow, -⟩, -⟩ := refreshed.known id slot found
  refine ⟨refreshed.put found ?_, .inr ⟨rfl, ?_⟩⟩
  · refine ⟨named, worker, past, ⟨stage, flow, nofun, nofun⟩, nofun, ?_⟩
    rintro _ ⟨⟩
    rfl
  · refine ⟨⟨_, lookup?_put_self _ _ _, rfl⟩, fun before known => ?_,
      fun other before differ known => ?_⟩
    · obtain ⟨next, nextFound, later⟩ := goesOn id before known
      rw [found, Option.some_inj] at nextFound
      subst nextFound
      exact ⟨_, lookup?_put_self _ _ _, later.generation, fun _ => PluginState.rank_le _⟩
    · obtain ⟨next, nextFound, later⟩ := goesOn other before known
      exact ⟨next, (lookup?_put_of_ne _ differ _).trans nextFound, later⟩

end Operations

section ShuttingDown

variable {world : World}

/-- After all workers of a list are waited for, those that had one have none left. -/
theorem joined_all (endings : PluginId → World.Ending) (entries : List (PluginId × PluginSlot)) :
    ∀ world : World,
      let joined := entries.foldl (fun world entry =>
        if entry.2.worker then world.join entry.1 (endings entry.1) else world) world
      joined.kernel = world.kernel ∧
        (∀ id, world.live id = none ∨ (∃ slot, (id, slot) ∈ entries ∧ slot.worker = true) →
          joined.live id = none) ∧
        ∀ event ∈ joined.queue, event ∈ world.queue ∨ event.state ≠ .registered := by
  induction entries with
  | nil => exact fun world => ⟨rfl, fun id gone => gone.resolve_right nofun, fun _ => .inl⟩
  | cons entry rest ih =>
      intro world
      rw [List.foldl_cons]
      obtain ⟨kernel, gone, reports⟩ := ih
        (if entry.2.worker then world.join entry.1 (endings entry.1) else world)
      have first : (if entry.2.worker then world.join entry.1 (endings entry.1)
          else world).kernel = world.kernel ∧
            (∀ id, world.live id = none ∨ (id = entry.1 ∧ entry.2.worker = true) →
              (if entry.2.worker then world.join entry.1 (endings entry.1) else world).live id =
                none) ∧
            ∀ event ∈ (if entry.2.worker then world.join entry.1 (endings entry.1)
              else world).queue, event ∈ world.queue ∨ event.state ≠ .registered := by
        cases worker : entry.2.worker with
        | false => exact ⟨rfl, fun id gone => gone.resolve_right nofun, fun _ => .inl⟩
        | true =>
            obtain ⟨sameKernel, dead, others, sent, queue, ends⟩ :=
              joined_join world entry.1 (endings entry.1)
            refine ⟨sameKernel, fun id gone => ?_, fun event member => ?_⟩
            · by_cases same : id = entry.1
              · exact same ▸ dead
              · exact (others id same).trans (gone.resolve_right fun own => same own.1)
            · rw [if_pos rfl, queue] at member
              exact (List.mem_append.mp member).imp_right fun last => (ends event last).2.1
      refine ⟨kernel.trans first.1, fun id wasGone => gone id ?_, fun event member => ?_⟩
      · rcases wasGone with dead | ⟨slot, member, worker⟩
        · exact .inl (first.2.1 id (.inl dead))
        · rcases List.mem_cons.mp member with rfl | later
          · exact .inl (first.2.1 id (.inr ⟨rfl, worker⟩))
          · exact .inr ⟨slot, later, worker⟩
      · exact (reports event member).elim (first.2.2 event) .inr

/-- Nothing runs any more, and nothing is to come. -/
structure AtRest (world : World) : Prop where
  queue : world.queue = []
  dead : ∀ id, world.live id = none
  ended : ∀ id slot, world.kernel.plugins.lookup? id = some slot → slot.state.rank = 4

theorem rank_of_not_isActive {state : PluginState} (idle : state.isActive = false)
    (known : state ≠ .registered) : state.rank = 4 := by
  cases state with
  | registered => exact absurd rfl known
  | starting => cases idle
  | running _ => cases idle
  | stopping => cases idle
  | stopped => rfl
  | failed _ => rfl

/-- The slot with which a plugin is left by a shutdown. -/
structure Ended (before after : PluginSlot) : Prop where
  spec : after.spec = before.spec
  generation : after.generation = before.generation
  forced : after.forcedFailure = before.forcedFailure
  failed : ∀ failure, before.forcedFailure = some failure → after.state = .failed failure
  rank : after.state.rank = 4

/-- A slot from which the plugin is shut down is left at its end. -/
theorem ended_shutDown {next : PluginSlot}
    (forced : ∀ failure, slot.forcedFailure = some failure → slot.state = .failed failure)
    (spec : next.spec = slot.spec) (generation : next.generation = slot.generation)
    (sameForced : next.forcedFailure = slot.forcedFailure)
    (state : next.state = (shuttingDown slot).state ∨
      ∃ event : SupervisorEvent, event.state ≠ .registered ∧ next.state = reported slot event) :
    Ended slot (shutDown next) := by
  have failed : ∀ failure, slot.forcedFailure = some failure → next.state = .failed failure := by
    intro failure isForced
    rcases state with same | ⟨event, -, same⟩
    · rw [same]
      unfold shuttingDown
      rw [isForced, forced failure isForced]
      split <;> exact forced failure isForced
    · rw [same]
      unfold reported
      rw [isForced]
  have known : next.state ≠ .registered := by
    rcases state with same | ⟨event, known, same⟩
    · rw [same]
      unfold shuttingDown
      split
      · split
        · nofun
        · intro registered
          rename_i active notForced
          obtain ⟨failure, isForced⟩ := Option.ne_none_iff_exists'.mp notForced
          exact nomatch registered.symm.trans (forced failure isForced)
      · split
        · nofun
        · assumption
    · rw [same]
      unfold reported
      split
      · nofun
      · exact known
  unfold shutDown
  refine ⟨spec, generation, sameForced, fun failure isForced => ?_, ?_⟩
  · dsimp only
    rw [failed failure isForced]
    rfl
  · dsimp only
    split
    · rfl
    · rename_i idle
      exact rank_of_not_isActive (Bool.eq_false_of_not_eq_true idle) known

theorem shuttingDown_spec (slot : PluginSlot) : (shuttingDown slot).spec = slot.spec := by
  unfold shuttingDown
  split
  · split <;> rfl
  · split <;> rfl

theorem shuttingDown_generation (slot : PluginSlot) :
    (shuttingDown slot).generation = slot.generation := by
  unfold shuttingDown
  split
  · split <;> rfl
  · split <;> rfl

theorem shuttingDown_forcedFailure (slot : PluginSlot) :
    (shuttingDown slot).forcedFailure = slot.forcedFailure := by
  unfold shuttingDown
  split
  · split <;> rfl
  · split <;> rfl

theorem shuttingDown_worker (slot : PluginSlot) :
    (shuttingDown slot).worker = slot.worker := by
  unfold shuttingDown
  split
  · split <;> rfl
  · split <;> rfl

variable (endings : PluginId → World.Ending)

/-- The world when every worker was waited for. -/
def allJoined (world : World) : World :=
  joinWorkers endings { world with
    kernel := { state := .shuttingDown, plugins := world.kernel.plugins.map fun _ => shuttingDown } }

/-- Every worker is waited for, and what waits in the channel is a report of one of them. -/
theorem Sound.allJoined (sound : Sound world) (empty : world.queue = [])
    (endings : PluginId → World.Ending) :
    (∀ id, (allJoined endings world).kernel.plugins.lookup? id =
      (world.kernel.plugins.lookup? id).map fun slot =>
        { shuttingDown slot with worker := false }) ∧
      (∀ id, (allJoined endings world).live id = none) ∧
      ∀ event ∈ (allJoined endings world).queue, event.state ≠ .registered := by
  obtain ⟨kernel, gone, reports⟩ := joined_all endings
    (world.kernel.plugins.map fun _ => shuttingDown).entries { world with
      kernel := { state := .shuttingDown, plugins := world.kernel.plugins.map fun _ => shuttingDown } }
  unfold Kernel.allJoined joinWorkers
  dsimp only at kernel gone reports ⊢
  refine ⟨fun id => ?_, fun id => gone id ?_, fun event member => ?_⟩
  · rw [SortedMap.lookup?_map, kernel]
    dsimp only
    rw [SortedMap.lookup?_map, Option.map_map]
    rfl
  · cases isLive : world.live id with
    | none => exact .inl rfl
    | some live =>
        obtain ⟨slot, found, -, worker⟩ := sound.slot_of_live isLive
        refine .inr ⟨shuttingDown slot, SortedMap.lookup?_eq_some_iff.mp ?_,
          (shuttingDown_worker slot).trans worker⟩
        rw [SortedMap.lookup?_map, found]
        rfl
  · rcases reports event member with earlier | sent
    · rw [empty] at earlier
      cases earlier
    · exact sent

/-- The world that a shutdown leaves. -/
def shutDownWorld (world : World) : World :=
  let last := (allJoined endings world.refresh.2).refresh.2
  { last with kernel := { state := .stopped, plugins := last.kernel.plugins.map fun _ => shutDown } }

theorem wp_shutdown {post : Except KernelError Unit → World → Prop}
    (stopped : world.kernel.state = .stopped → post (.ok ()) world)
    (shuts : world.kernel.state ≠ .stopped → post (.ok ()) (shutDownWorld endings world)) :
    (shutdown endings).wp post world := by
  unfold shutdown
  rw [wp_bind, wp_get, andThen_ok]
  by_cases already : world.kernel.state = .stopped
  · rw [if_pos already]
    exact stopped already
  · rw [if_neg already]
    exact shuts already

/-- Every plugin that was known when the kernel was shut down has ended. -/
theorem Sound.shutDown_slot (sound : Sound world) (endings : PluginId → World.Ending)
    (found : world.refresh.2.kernel.plugins.lookup? id = some slot) :
    ∃ next, (shutDownWorld endings world).kernel.plugins.lookup? id = some next ∧
      Ended slot next := by
  obtain ⟨refreshed, -, empty, -⟩ := sound.refresh
  obtain ⟨slots, -, reports⟩ := refreshed.allJoined empty endings
  have joined := slots id
  rw [found] at joined
  obtain ⟨next, nextFound, spec, generation, forced, state⟩ := refresh_slot joined
  refine ⟨shutDown next, ?_, ?_⟩
  · unfold shutDownWorld
    dsimp only
    rw [SortedMap.lookup?_map, nextFound]
    rfl
  · refine ended_shutDown (refreshed.known id slot found).forced
      (spec.trans (shuttingDown_spec slot)) (generation.trans (shuttingDown_generation slot))
      (forced.trans (shuttingDown_forcedFailure slot)) (state.imp_right ?_)
    rintro ⟨event, member, same⟩
    refine ⟨event, reports event member, same.trans ?_⟩
    unfold reported
    rw [shuttingDown_forcedFailure]

theorem Sound.shutDown_missing (sound : Sound world) (endings : PluginId → World.Ending)
    (missing : world.refresh.2.kernel.plugins.lookup? id = none) :
    (shutDownWorld endings world).kernel.plugins.lookup? id = none := by
  obtain ⟨refreshed, -, empty, -⟩ := sound.refresh
  obtain ⟨slots, -⟩ := refreshed.allJoined empty endings
  have joined := slots id
  rw [missing] at joined
  unfold shutDownWorld
  dsimp only
  rw [SortedMap.lookup?_map, refresh_missing joined]
  rfl

/-- A shutdown leaves nothing running, and moves no plugin back. -/
theorem Sound.shutDown (sound : Sound world) (endings : PluginId → World.Ending) :
    Safe world (shutDownWorld endings world) ∧ AtRest (shutDownWorld endings world) := by
  obtain ⟨refreshed, goesOn, empty, -⟩ := sound.refresh
  obtain ⟨-, dead, -⟩ := refreshed.allJoined empty endings
  have ended : ∀ id slot, (shutDownWorld endings world).kernel.plugins.lookup? id = some slot →
      ∃ before, world.refresh.2.kernel.plugins.lookup? id = some before ∧ Ended before slot := by
    intro id slot found
    cases known : world.refresh.2.kernel.plugins.lookup? id with
    | none => exact nomatch (sound.shutDown_missing endings known).symm.trans found
    | some before =>
        obtain ⟨next, nextFound, ended⟩ := sound.shutDown_slot endings known
        rw [found, Option.some_inj] at nextFound
        exact ⟨before, rfl, nextFound ▸ ended⟩
  refine ⟨⟨⟨fun id slot found => ?_, fun id _ => ⟨dead id, nofun⟩⟩, ?_⟩, rfl, dead,
    fun id slot found => ?_⟩
  · obtain ⟨before, known, spec, generation, forced, failed, rank⟩ := ended id slot found
    have noWorker : (shutDownWorld endings world).live id = none := dead id
    rw [noWorker]
    refine ⟨?_, nofun, nofun, ⟨.ended, rfl, fun _ _ => rfl, ?_⟩, ?_, ?_⟩
    · rw [spec]
      exact (refreshed.known id before known).named
    · intro _ two
      exact absurd (rank.symm.trans two) (by decide)
    · intro _ stopping
      rw [stopping] at rank
      cases rank
    · intro failure isForced
      exact failed failure (forced.symm.trans isForced)
  · refine goesOn.trans fun id slot found => ?_
    obtain ⟨next, nextFound, -, generation, forced, -, rank⟩ := sound.shutDown_slot endings found
    refine ⟨next, nextFound, Nat.le_of_eq generation.symm, fun _ => ?_, fun _ failure isForced =>
      forced.trans isForced⟩
    rw [rank]
    exact PluginState.rank_le _
  · obtain ⟨-, -, -, -, -, -, rank⟩ := ended id slot found
    exact rank

end ShuttingDown

end Kernel
end YunXi
