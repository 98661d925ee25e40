import YunXi.Kernel.Runs

/-!
# Observed states

A run of calls of the kernel and of steps of the supervisors, and what can be seen of the
plugins on the way.
-/

namespace YunXi
namespace Kernel

open YunxiKernel World

/-- A call of the kernel, with what its supervisors do meanwhile, or a step of a supervisor. -/
inductive KernelCall
  | register (spec : PluginSpec)
  | start (id : PluginId) (ending : World.Ending) (spawnError : Option String)
  | stop (id : PluginId) (meanwhile : List SupervisorStep) (returned : Bool)
  | fail (id : PluginId) (failure : PluginFailure)
  | refresh
  | shutdown (endings : PluginId → World.Ending)
  | supervisor (step : SupervisorStep)

namespace KernelCall

def program : KernelCall → KernelProgram Unit
  | register spec => YunxiKernel.register spec
  | start id ending spawnError => YunxiKernel.start id ending spawnError
  | stop id meanwhile returned => YunxiKernel.stop id meanwhile returned
  | fail id failure => YunxiKernel.fail id failure
  | refresh => YunxiKernel.refresh
  | shutdown endings => YunxiKernel.shutdown endings
  | supervisor step => modify (·.supervise step)

/-- The call forces a failure of the plugin. -/
def Fails (id : PluginId) : KernelCall → Prop
  | fail other _ => other = id
  | _ => False

end KernelCall

variable (world : World)

/-- The world after a call. -/
def perform (call : KernelCall) : World :=
  (call.program.exec world).2

/-- The call is answered without an error. -/
def Accepted (call : KernelCall) : Prop :=
  (call.program.exec world).1 = .ok ()

/-- The changes that a refresh returns. -/
def reports : KernelCall → List PluginSnapshot
  | .refresh => world.refresh.1
  | _ => []

/-- What is seen of the plugins with a call: its reports, and the snapshot after it. -/
def seen (call : KernelCall) : List PluginSnapshot :=
  reports world call ++ (perform world call).kernel.snapshots

/-- Within a generation the states of a plugin come in their order. -/
def Ordered (snapshots : List PluginSnapshot) : Prop :=
  snapshots.Pairwise fun earlier later => earlier.id = later.id →
    earlier.generation ≤ later.generation ∧
      (later.generation = earlier.generation → earlier.state.rank ≤ later.state.rank)

/-- A stop that is accepted leaves the plugin stopping, or at its end. -/
def StopHalts : KernelCall → Prop
  | .stop id meanwhile returned => Accepted world (.stop id meanwhile returned) →
      Halted id (perform world (.stop id meanwhile returned))
  | _ => True

/-- In this generation the plugin has failed with the failure. -/
def FailedWith (id : PluginId) (generation : Nat) (failure : PluginFailure) (world : World) :
    Prop :=
  ∃ slot, world.kernel.plugins.lookup? id = some slot ∧
    (slot.generation = generation → slot.state = .failed failure)

/-- A forced failure stays until the plugin is started again, or failed again. -/
def FailuresStay (start : World) (calls : List KernelCall) : Prop :=
  ∀ earlier id failure later, calls = earlier ++ .fail id failure :: later →
    Accepted (finalState perform start earlier) (.fail id failure) →
    (∀ call ∈ later, ¬ call.Fails id) →
      ∃ generation, (∃ slot, (finalState perform start
          (earlier ++ [.fail id failure])).kernel.plugins.lookup? id = some slot ∧
            slot.generation = generation) ∧
        Throughout perform (FailedWith id generation failure)
          (finalState perform start (earlier ++ [.fail id failure])) later

variable (kernel : YunxiKernel)

/-- The event is about the generation that the kernel knows of its plugin. -/
def Current (event : SupervisorEvent) : Prop :=
  (kernel.plugins.lookup? event.id).map PluginSlot.generation = some event.generation

instance currentDecidable (kernel : YunxiKernel) (event : SupervisorEvent) :
    Decidable (Current kernel event) :=
  inferInstanceAs (Decidable (_ = _))

/-- Events of other generations change nothing. -/
def StaleIgnored : Prop :=
  world.kernel.applyEvents world.queue =
    world.kernel.applyEvents (world.queue.filter fun event => Current world.kernel event)

/-- No plugin is active after the shutdown. -/
def QuietWhenStopped : Prop :=
  world.kernel.state = .stopped →
    ∀ id slot, world.kernel.plugins.lookup? id = some slot → slot.state.isActive = false

/-- What holds of a run of the kernel. -/
structure KeepsOrder (start : World) (calls : List KernelCall) : Prop where
  ordered : Ordered (start.kernel.snapshots ++ givenOff perform seen start calls)
  stops : EachStep perform StopHalts start calls
  failures : FailuresStay start calls
  stale : Throughout perform StaleIgnored start calls
  quiet : Throughout perform QuietWhenStopped start calls

/-- A supervisor announces no process after a stop of its plugin was accepted, and a generation
that starts has a number of its own. -/
def Meets : KernelCall → Prop
  | .supervisor step => Timely world step
  | .stop id meanwhile _ => StopTimely world id meanwhile
  | .start id _ _ => ∀ slot, world.kernel.plugins.lookup? id = some slot →
      slot.generation < maxGeneration
  | _ => True

/-- Every plugin is followed by itself. -/
def AllFollow (before after : YunxiKernel) : Prop :=
  ∀ id slot, before.plugins.lookup? id = some slot →
    ∃ next, after.plugins.lookup? id = some next ∧ Follows slot next

/-- What one call leaves. -/
structure Onward (call : KernelCall) (final : World) : Prop where
  sound : Sound final
  follow : AllFollow world.kernel final.kernel
  forced : ∀ id slot failure, world.kernel.plugins.lookup? id = some slot →
    slot.forcedFailure = some failure → ¬ call.Fails id →
      ∃ next, final.kernel.plugins.lookup? id = some next ∧ slot.generation ≤ next.generation ∧
        (next.generation = slot.generation → next.forcedFailure = some failure)

variable {world : World}

theorem Safe.onward {final : World} {call : KernelCall} (safe : Safe world final) :
    Onward world call final := by
  refine ⟨safe.1, fun id slot found => ?_, fun id slot failure found isForced _ => ?_⟩
  · obtain ⟨next, nextFound, later⟩ := safe.2 id slot found
    exact ⟨next, nextFound, later.follows⟩
  · obtain ⟨next, nextFound, later⟩ := safe.2 id slot found
    exact ⟨next, nextFound, later.generation, fun same => later.forced same failure isForced⟩

variable {failure : PluginFailure}

theorem onward_of_failed {final : World} {id : PluginId}
    (sound : Sound final) (failed : Failed world id failure final) :
    Onward world (.fail id failure) final := by
  refine ⟨sound, fun other slot found => ?_, fun other slot forced found isForced notFailed => ?_⟩
  · by_cases same : other = id
    · subst same
      exact failed.own slot found
    · obtain ⟨next, nextFound, later⟩ := failed.others other slot same found
      exact ⟨next, nextFound, later.follows⟩
  · have differ : other ≠ id := fun same => notFailed same.symm
    obtain ⟨next, nextFound, later⟩ := failed.others other slot differ found
    exact ⟨next, nextFound, later.generation, fun same => later.forced same forced isForced⟩

theorem Sound.onward (sound : Sound world) (call : KernelCall)
    (meets : Meets world call) : Onward world call (perform world call) := by
  cases call with
  | register spec => exact (wp_register sound spec).onward
  | start id ending spawnError => exact (wp_start sound id ending spawnError meets).onward
  | stop id meanwhile returned => exact (wp_stop sound id meanwhile returned meets).1.onward
  | fail id failure =>
      obtain ⟨soundFinal, ⟨-, -, goesOn⟩ | ⟨-, failed⟩⟩ := wp_fail sound id failure
      · exact Safe.onward ⟨soundFinal, goesOn⟩
      · exact onward_of_failed soundFinal failed
  | refresh =>
      obtain ⟨refreshed, goesOn, -⟩ := sound.refresh
      exact Safe.onward ⟨refreshed, goesOn⟩
  | shutdown endings =>
      change (YunxiKernel.shutdown endings).wp
        (fun _ final => Onward world (.shutdown endings) final) world
      refine wp_shutdown endings ?_ ?_
      · exact fun _ => (Safe.refl sound).onward
      · exact fun _ => (sound.shutDown endings).1.onward
  | supervisor step =>
      have kept : GoesOn world.kernel (world.supervise step).kernel := by
        rw [supervise_kernel]
        exact .refl _
      exact Safe.onward ⟨sound.supervise step meets, kept⟩

/-- What has been seen is in order, and the kernel is not behind it. -/
structure Leads (snapshots : List PluginSnapshot) (kernel : YunxiKernel) : Prop where
  ordered : Ordered snapshots
  ahead : ∀ snapshot ∈ snapshots, ∃ slot, kernel.plugins.lookup? snapshot.id = some slot ∧
    snapshot.generation ≤ slot.generation ∧
      (slot.generation = snapshot.generation → snapshot.state.rank ≤ slot.state.rank)

/-- The slots carry the names under which they are found. -/
def Named : Prop :=
  ∀ id slot, kernel.plugins.lookup? id = some slot → slot.spec.id = id

theorem Sound.namedSlots (sound : Sound world) : Named world.kernel :=
  fun id slot found => (sound.known id slot found).named

section Seeing

variable {snapshots : List PluginSnapshot} {kernel : YunxiKernel}

theorem leads_nil (kernel : YunxiKernel) : Leads [] kernel :=
  ⟨.nil, nofun⟩

theorem Leads.follow {after : YunxiKernel} (leads : Leads snapshots kernel)
    (follow : AllFollow kernel after) : Leads snapshots after := by
  refine ⟨leads.ordered, fun snapshot member => ?_⟩
  obtain ⟨slot, found, generation, rank⟩ := leads.ahead snapshot member
  obtain ⟨next, nextFound, follows⟩ := follow snapshot.id slot found
  refine ⟨next, nextFound, Nat.le_trans generation follows.generation, fun same => ?_⟩
  have between : next.generation = slot.generation ∧ slot.generation = snapshot.generation := by
    have upper := follows.generation
    omega
  exact Nat.le_trans (rank between.2) (follows.rank between.1)

/-- A plugin of the kernel is seen. -/
theorem Leads.see (leads : Leads snapshots kernel) (named : Named kernel) {id : PluginId}
    {slot : PluginSlot} (found : kernel.plugins.lookup? id = some slot) :
    Leads (snapshots ++ [slot.snapshot]) kernel := by
  have name := named id slot found
  refine ⟨List.pairwise_append.mpr ⟨leads.ordered, List.pairwise_singleton _ _, ?_⟩, ?_⟩
  · intro earlier member last isLast same
    obtain rfl := List.mem_singleton.mp isLast
    obtain ⟨known, knownFound, generation, rank⟩ := leads.ahead earlier member
    rw [same] at knownFound
    change kernel.plugins.lookup? slot.spec.id = some known at knownFound
    rw [name, found, Option.some_inj] at knownFound
    subst knownFound
    exact ⟨generation, rank⟩
  · intro snapshot member
    rcases List.mem_append.mp member with earlier | last
    · exact leads.ahead snapshot earlier
    · obtain rfl := List.mem_singleton.mp last
      refine ⟨slot, ?_, Nat.le_refl _, fun _ => Nat.le_refl _⟩
      change kernel.plugins.lookup? slot.spec.id = some slot
      rw [name, found]

/-- All plugins of the kernel are seen. -/
theorem Leads.seeAll (leads : Leads snapshots kernel) (named : Named kernel) :
    Leads (snapshots ++ kernel.snapshots) kernel := by
  have several : ∀ entries : List (PluginId × PluginSlot),
      (∀ entry ∈ entries, kernel.plugins.lookup? entry.1 = some entry.2) →
        ∀ snapshots, Leads snapshots kernel →
          Leads (snapshots ++ entries.map fun entry => entry.2.snapshot) kernel := by
    intro entries
    induction entries with
    | nil =>
        intro _ snapshots leads
        rwa [List.map_nil, List.append_nil]
    | cons entry rest ih =>
        intro known snapshots leads
        have next := ih (List.forall_mem_cons.mp known).2 _
          (leads.see named (List.forall_mem_cons.mp known).1)
        rwa [List.append_assoc] at next
  exact several kernel.plugins.entries
    (fun entry member => SortedMap.lookup?_eq_some_iff.mpr member) snapshots leads

theorem GoesOn.allFollow {after : YunxiKernel} (goesOn : GoesOn kernel after) :
    AllFollow kernel after := by
  intro id slot found
  obtain ⟨next, nextFound, later⟩ := goesOn id slot found
  exact ⟨next, nextFound, later.follows⟩

/-- The changes that are returned while the channel is emptied come in order. -/
theorem Leads.applyEvents {queue : List SupervisorEvent} {live : PluginId → Option Supervisor}
    (leads : Leads snapshots kernel) (sound : Sound ⟨kernel, queue, live⟩) :
    Leads (snapshots ++ (kernel.applyEvents queue).2) (kernel.applyEvents queue).1 := by
  induction queue generalizing kernel snapshots with
  | nil =>
      unfold YunxiKernel.applyEvents
      rwa [List.append_nil]
  | cons event rest ih =>
      obtain ⟨soundNext, goesOn⟩ := sound.applyEvent
      have followed := leads.follow goesOn.allFollow
      have heardNow : Leads (snapshots ++ (kernel.applyEvent event).2.toList)
          (kernel.applyEvent event).1 := by
        rcases stale_or_current kernel event with stale | ⟨slot, found, current⟩
        · rw [applyEvent_stale stale]
          rwa [Option.toList_none, List.append_nil]
        · rw [applyEvent_current found current] at followed soundNext ⊢
          exact followed.see soundNext.namedSlots (lookup?_put_self _ _ _)
      unfold YunxiKernel.applyEvents
      dsimp only
      rw [← List.append_assoc]
      exact ih heardNow soundNext

/-- What is seen with a call is in order. -/
theorem Leads.call (leads : Leads snapshots world.kernel) (sound : Sound world)
    (call : KernelCall) (meets : Meets world call) :
    Leads (snapshots ++ seen world call) (perform world call).kernel := by
  have onward := sound.onward call meets
  have reported : Leads (snapshots ++ reports world call) (perform world call).kernel := by
    unfold reports
    split
    · have applied := leads.applyEvents sound
      refine applied.follow fun id slot found => ?_
      refine ⟨{ slot with worker := slot.worker && !(world.live id).isNone }, ?_,
        Nat.le_refl _, fun _ => Nat.le_refl _⟩
      change (SortedMap.map _ _).lookup? id = _
      rw [SortedMap.lookup?_map, found]
      rfl
    · rw [List.append_nil]
      exact leads.follow onward.follow
  unfold seen
  rw [← List.append_assoc]
  exact reported.seeAll onward.sound.namedSlots

end Seeing

/-- What is seen in a run is in order. -/
theorem Sound.ordered (sound : Sound world) (calls : List KernelCall)
    (meets : EachStep perform Meets world calls) :
    ∀ snapshots, Leads snapshots world.kernel →
      Ordered (snapshots ++ givenOff perform seen world calls) := by
  induction calls generalizing world with
  | nil =>
      intro snapshots leads
      rw [givenOff, List.append_nil]
      exact leads.ordered
  | cons call rest ih =>
      intro snapshots leads
      rw [givenOff, ← List.append_assoc]
      exact ih (sound.onward call meets.1).sound meets.2 _
        (leads.call sound call meets.1)

theorem current_heard {kernel : YunxiKernel} {event : SupervisorEvent} {slot : PluginSlot}
    (found : kernel.plugins.lookup? event.id = some slot) (other : SupervisorEvent) :
    Current (kernel.put event.id (heard slot event)) other ↔ Current kernel other := by
  unfold Current
  by_cases same : other.id = event.id
  · rw [same, lookup?_put_self, found]
    rfl
  · rw [lookup?_put_of_ne _ same]

/-- Emptying the channel is applying the events that are about current generations. -/
theorem applyEvents_filter (queue : List SupervisorEvent) :
    kernel.applyEvents queue = kernel.applyEvents (queue.filter fun event => Current kernel event) := by
  induction queue generalizing kernel with
  | nil => rfl
  | cons event rest ih =>
      rcases stale_or_current kernel event with stale | ⟨slot, found, current⟩
      · have notCurrent : ¬ Current kernel event := by
          intro isCurrent
          obtain ⟨slot, found, same⟩ := Option.map_eq_some_iff.mp isCurrent
          exact stale slot found same
        rw [List.filter_cons_of_neg (by simpa using notCurrent), ← ih]
        rw [YunxiKernel.applyEvents, applyEvent_stale stale]
        rfl
      · have isCurrent : Current kernel event := by
          unfold Current
          rw [found]
          exact congrArg some current
        rw [List.filter_cons_of_pos (by simpa using isCurrent)]
        rw [YunxiKernel.applyEvents, YunxiKernel.applyEvents, applyEvent_current found current]
        dsimp only
        rw [ih (kernel.put event.id (heard slot event))]
        congr 3
        all_goals
          simp only [current_heard found]

/-- In a later generation, or failed for good. -/
structure HasFailed (id : PluginId) (generation : Nat) (failure : PluginFailure) (world : World) :
    Prop where
  sound : Sound world
  slot : ∃ slot, world.kernel.plugins.lookup? id = some slot ∧ generation ≤ slot.generation ∧
    (slot.generation = generation → slot.forcedFailure = some failure)

theorem HasFailed.failedWith {id : PluginId} {generation : Nat}
    (failed : HasFailed id generation failure world) :
    FailedWith id generation failure world := by
  obtain ⟨slot, found, -, forced⟩ := failed.slot
  exact ⟨slot, found, fun same => (failed.sound.known id slot found).forced failure (forced same)⟩

theorem HasFailed.perform {id : PluginId} {generation : Nat}
    (failed : HasFailed id generation failure world) (call : KernelCall)
    (meets : Meets world call ∧ ¬ call.Fails id) :
    HasFailed id generation failure (Kernel.perform world call) := by
  obtain ⟨slot, found, reached, forced⟩ := failed.slot
  have onward := failed.sound.onward call meets.1
  refine ⟨onward.sound, ?_⟩
  by_cases same : slot.generation = generation
  · obtain ⟨next, nextFound, upper, kept⟩ :=
      onward.forced id slot failure found (forced same) meets.2
    exact ⟨next, nextFound, Nat.le_trans reached upper, fun equal => kept (equal.trans same.symm)⟩
  · obtain ⟨next, nextFound, follows⟩ := onward.follow id slot found
    have upper := follows.generation
    exact ⟨next, nextFound, Nat.le_trans reached upper, fun equal => absurd equal (by omega)⟩

theorem Sound.failuresStay {start : World} (sound : Sound start) (calls : List KernelCall)
    (meets : EachStep Kernel.perform Meets start calls) : FailuresStay start calls := by
  intro earlier id failure later split accepted notFailed
  have prefixes := (eachStep_iff_prefixes Meets start calls).mp meets
  have reached : Sound (finalState Kernel.perform start earlier) := by
    have throughout := throughout_of_step Sound Meets
      (fun world call sound meets => (sound.onward call meets).sound) sound meets
    have here := (throughout_iff_prefixes Sound start calls).mp throughout earlier.length
    rwa [split, List.take_left] at here
  rw [finalState_append, finalState_cons, finalState_nil]
  obtain ⟨soundFailed, ⟨error, refused, -⟩ | ⟨-, failed⟩⟩ := wp_fail reached id failure
  · exact nomatch accepted.symm.trans refused
  obtain ⟨slot, found, forced⟩ := failed.slot
  refine ⟨slot.generation, ⟨slot, found, rfl⟩, ?_⟩
  have atFailure : HasFailed id slot.generation failure
      (Kernel.perform (finalState Kernel.perform start earlier) (.fail id failure)) :=
    ⟨soundFailed, slot, found, Nat.le_refl _, fun _ => forced⟩
  refine (throughout_of_step (HasFailed id slot.generation failure)
    (fun world call => Meets world call ∧ ¬ call.Fails id)
    (fun world call failed met => failed.perform call met) atFailure ?_).mono
      fun _ => HasFailed.failedWith
  rw [eachStep_iff_prefixes]
  intro before current after laterSplit
  refine ⟨?_, notFailed current (laterSplit ▸ List.mem_append_right _ List.mem_cons_self)⟩
  have here := prefixes (earlier ++ .fail id failure :: before) current after
    (by rw [split, laterSplit, List.append_assoc, List.cons_append])
  rwa [finalState_append, finalState_cons] at here

/-- The two worlds have a kernel in the same state. -/
def SameKernelState (before after : World) : Prop :=
  after.kernel.state = before.kernel.state

instance sameKernelStateRefl : Std.Refl SameKernelState :=
  ⟨fun _ => rfl⟩

instance sameKernelStateTrans : IsTrans World SameKernelState :=
  ⟨fun _ _ _ early late => late.trans early⟩

section KernelState

open Fallible

theorem preserves_modify {update : World → World}
    (keeps : ∀ world, SameKernelState world (update world)) :
    Preserves SameKernelState (modify update : KernelProgram PUnit) :=
  keeps

theorem preserves_throwIf (condition : Prop) [Decidable condition] (error : KernelError) :
    Preserves SameKernelState (throwIf condition error : KernelProgram Unit) := by
  unfold throwIf
  split
  · exact .throw error
  · exact .pure ()

theorem preserves_ensureRunning : Preserves SameKernelState ensureRunning :=
  .bind .get fun _ => preserves_throwIf _ _

theorem applyEvents_state (queue : List SupervisorEvent) :
    (kernel.applyEvents queue).1.state = kernel.state := by
  induction queue generalizing kernel with
  | nil => rfl
  | cons event rest ih =>
      refine (ih (kernel.applyEvent event).1).trans ?_
      rcases stale_or_current kernel event with stale | ⟨slot, found, current⟩
      · rw [applyEvent_stale stale]
      · rw [applyEvent_current found current]
        rfl

theorem preserves_refresh : Preserves SameKernelState YunxiKernel.refresh :=
  preserves_modify fun world => applyEvents_state world.kernel world.queue

theorem preserves_slot (id : PluginId) : Preserves SameKernelState (slot id) := by
  refine .bind .get fun world => ?_
  split
  · exact .pure _
  · exact .throw _

theorem preserves_putSlot (id : PluginId) (slot : PluginSlot) :
    Preserves SameKernelState (putSlot id slot) :=
  preserves_modify fun _ => rfl

theorem superviseAll_kernel (world : World) (steps : List SupervisorStep) :
    (steps.foldl World.supervise world).kernel = world.kernel := by
  induction steps generalizing world with
  | nil => rfl
  | cons step rest ih =>
      exact (ih _).trans (supervise_kernel world step)

/-- Only a shutdown changes the state of the kernel. -/
theorem preserves_program (call : KernelCall) (running : ∀ endings, call ≠ .shutdown endings) :
    Preserves SameKernelState call.program := by
  cases call with
  | register spec =>
      refine .bind preserves_ensureRunning fun _ => .bind .get fun world => ?_
      split
      · exact .throw _
      · exact preserves_putSlot _ _
  | start id ending spawnError =>
      refine .bind preserves_ensureRunning fun _ => .bind preserves_refresh fun _ =>
        .bind (preserves_slot id) fun old => .bind (preserves_throwIf _ _) fun _ =>
        .bind (preserves_putSlot _ _) fun _ => .bind (preserves_modify fun world => ?_) fun _ => ?_
      · split
        · exact congrArg YunxiKernel.state (joined_join world id ending).kernel
        · rfl
      · cases spawnError with
        | some message => exact .bind (preserves_putSlot _ _) fun _ => .throw _
        | none => exact .bind (preserves_modify fun _ => rfl) fun _ => preserves_putSlot _ _
  | stop id meanwhile returned =>
      refine .bind preserves_ensureRunning fun _ => .bind preserves_refresh fun _ =>
        .bind (preserves_slot id) fun slot => ?_
      have active : Preserves SameKernelState (do
          putSlot id { slot with state := .stopping }
          throwIf (slot.commands = false) (.supervisorUnavailable id)
          modify fun world => meanwhile.foldl World.supervise world
          let world ← get
          throwIf (world.live id = none ∧ returned = true)
            (.supervisorUnavailable id) : KernelProgram Unit) :=
        .bind (preserves_putSlot _ _) fun _ => .bind (preserves_throwIf _ _) fun _ =>
          .bind (preserves_modify fun world =>
            congrArg YunxiKernel.state (superviseAll_kernel world meanwhile)) fun _ =>
          .bind .get fun _ => preserves_throwIf _ _
      cases slot.state with
      | registered => exact preserves_putSlot _ _
      | starting => exact active
      | running _ => exact active
      | stopping => exact active
      | stopped => exact .pure ()
      | failed _ => exact .pure ()
  | fail id failure =>
      exact .bind preserves_ensureRunning fun _ => .bind preserves_refresh fun _ =>
        .bind (preserves_slot id) fun _ => preserves_putSlot _ _
  | refresh => exact preserves_refresh
  | shutdown endings => exact absurd rfl (running endings)
  | supervisor step =>
      exact preserves_modify fun world =>
        congrArg YunxiKernel.state (supervise_kernel world step)

end KernelState

theorem AtRest.quiet (atRest : AtRest world) : QuietWhenStopped world := by
  intro _ id slot found
  have rank := atRest.ended id slot found
  cases state : slot.state <;> first | rfl | (rw [state] at rank; cases rank)

theorem AtRest.refresh (atRest : AtRest world) : AtRest world.refresh.2 := by
  refine ⟨rfl, atRest.dead, fun id slot found => ?_⟩
  unfold World.refresh reapFinishedWorkers at found
  rw [atRest.queue] at found
  dsimp only [YunxiKernel.applyEvents] at found
  rw [SortedMap.lookup?_map] at found
  obtain ⟨before, known, rfl⟩ := Option.map_eq_some_iff.mp found
  exact atRest.ended id before known

/-- A stopped kernel stays at rest. -/
theorem AtRest.perform (atRest : AtRest world)
    (stopped : world.kernel.state = .stopped) (call : KernelCall) :
    AtRest (Kernel.perform world call) := by
  have refused : ∀ {α : Type} (next : Unit → KernelProgram α),
      AtRest ((ensureRunning >>= next).exec world).2 := by
    intro α next
    change (ensureRunning >>= next).wp (fun _ final => AtRest final) world
    refine wp_ensureRunning_bind (fun _ => atRest) fun running => ?_
    exact nomatch stopped.symm.trans running
  cases call with
  | register spec => exact refused _
  | start id ending spawnError => exact refused _
  | stop id meanwhile returned => exact refused _
  | fail id failure => exact refused _
  | refresh => exact atRest.refresh
  | shutdown endings =>
      change (YunxiKernel.shutdown endings).wp (fun _ final => AtRest final) world
      refine wp_shutdown endings (fun _ => atRest) ?_
      exact fun running => absurd stopped running
  | supervisor step =>
      change AtRest (world.supervise step)
      unfold World.supervise
      cases step <;> (dsimp only; rw [atRest.dead]; exact atRest)

/-- A kernel that is stopped is at rest. -/
structure RestsWhenStopped (world : World) : Prop where
  sound : Sound world
  rests : world.kernel.state = .stopped → AtRest world

theorem RestsWhenStopped.perform (rests : RestsWhenStopped world)
    (call : KernelCall) (meets : Meets world call) :
    RestsWhenStopped (Kernel.perform world call) := by
  refine ⟨(rests.sound.onward call meets).sound, fun stopped => ?_⟩
  by_cases before : world.kernel.state = .stopped
  · exact (rests.rests before).perform before call
  · by_cases shuts : ∃ endings, call = .shutdown endings
    · obtain ⟨endings, rfl⟩ := shuts
      change (YunxiKernel.shutdown endings).wp (fun _ final => AtRest final) world
      exact wp_shutdown endings (fun already => absurd already before)
        fun _ => (rests.sound.shutDown endings).2
    · have same := preserves_program call (fun endings same => shuts ⟨endings, same⟩) world
      exact absurd (same.symm.trans stopped) before

theorem sound_new : Sound World.new :=
  ⟨nofun, fun _ _ => ⟨rfl, nofun⟩⟩

/-- In every run in which no process is announced after a stop of its plugin was accepted, the
states of a plugin come in their order within a generation. -/
theorem states_in_order (calls : List KernelCall)
    (meets : EachStep perform Meets World.new calls) : KeepsOrder World.new calls := by
  have rests : RestsWhenStopped World.new := ⟨sound_new, nofun⟩
  have throughout := throughout_of_step RestsWhenStopped Meets
    (fun _ call rests meets => rests.perform call meets) rests meets
  refine ⟨?_, ?_, sound_new.failuresStay calls meets, ?_, ?_⟩
  · exact sound_new.ordered calls meets _ ((leads_nil _).seeAll sound_new.namedSlots)
  · rw [eachStep_iff_prefixes]
    intro earlier call later split
    have reached := (throughout_iff_prefixes _ _ calls).mp throughout earlier.length
    rw [split, List.take_left] at reached
    have met := (eachStep_iff_prefixes Meets World.new calls).mp meets earlier call later split
    cases call with
    | stop id meanwhile returned => exact (wp_stop reached.sound id meanwhile returned met).2
    | register _ => trivial
    | start _ _ _ => trivial
    | fail _ _ => trivial
    | refresh => trivial
    | shutdown _ => trivial
    | supervisor _ => trivial
  · exact throughout_of_invariant (fun _ => True) (fun _ _ _ => trivial) trivial calls |>.mono
      fun world _ => applyEvents_filter world.kernel world.queue
  · exact throughout.mono fun world rests stopped => (rests.rests stopped).quiet stopped


section Runs

/-- The plugin of the two runs. -/
def weixin : PluginSpec := ⟨⟨"weixin", by decide⟩, "Weixin"⟩

/-- Two generations: one is stopped once it was announced, the other fails, and the kernel shuts
down. -/
def twoGenerations : List KernelCall :=
  [.register weixin, .start weixin.id ⟨none, ⟨.stopped, rfl⟩⟩ none,
    .supervisor (.announce weixin.id 7), .stop weixin.id [.finish weixin.id ⟨.stopped, rfl⟩] false,
    .refresh, .start weixin.id ⟨none, ⟨.stopped, rfl⟩⟩ none, .fail weixin.id (.protocol "late"),
    .supervisor (.announce weixin.id 8), .refresh, .shutdown fun _ => ⟨none, ⟨.stopped, rfl⟩⟩]

theorem states_in_order_twoGenerations : KeepsOrder World.new twoGenerations := by
  have starts : ∀ world : World,
      (world.kernel.plugins.lookup? weixin.id).all (fun slot => slot.generation < maxGeneration) =
        true → Meets world (.start weixin.id ⟨none, ⟨.stopped, rfl⟩⟩ none) := by
    intro world room slot found
    exact of_decide_eq_true ((Option.all_eq_true _ _).mp room slot found)
  have announces : ∀ (world : World) (pid : Nat),
      (world.kernel.plugins.lookup? weixin.id).all (fun slot => slot.state ≠ .stopping) = true →
        Meets world (.supervisor (.announce weixin.id pid)) := by
    intro world pid timely _ slot found
    exact of_decide_eq_true ((Option.all_eq_true _ _).mp timely slot found)
  exact states_in_order twoGenerations
    ⟨trivial, starts _ (by decide), announces _ 7 (by decide),
      fun _ _ _ => ⟨trivial, trivial⟩, trivial, starts _ (by decide), trivial,
      announces _ 8 (by decide), trivial, trivial, trivial⟩

/-- A process is announced after the stop of its plugin was accepted, and the plugin runs
again. -/
theorem running_after_stop : ¬ KeepsOrder World.new
      [.register weixin, .start weixin.id ⟨none, ⟨.stopped, rfl⟩⟩ none, .stop weixin.id [] false,
        .supervisor (.announce weixin.id 7), .refresh] := by
  intro keeps
  have ordered := keeps.ordered
  unfold Ordered at ordered
  revert ordered
  decide

end Runs


end Kernel
end YunXi
