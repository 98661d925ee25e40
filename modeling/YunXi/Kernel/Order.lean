import YunXi.Kernel.Kernel
import YunXi.Program.Run

/-!
# The order of states

The reports of a supervisor arrive in the order in which it sent them, while the operations of
the kernel write the states of slots directly.  What is still to come from the supervisor of a
generation decides whether a state can be followed by an earlier one.
-/

namespace YunXi
namespace Kernel

open YunxiKernel World

/-- What the kernel has taken from the channel of the reports of a generation. -/
inductive Stage
  | silent
  | announced
  | ended
  deriving DecidableEq, Repr

/-- The reports that wait in the channel continue what was taken from it, and leave the
supervisor in its phase. -/
def Flow : Stage → List PluginState → Option Phase → Prop
  | .silent, [], phase => phase = some .spawning
  | .announced, [], phase => phase = some .announced
  | .ended, [], phase => phase = none
  | .silent, state :: rest, phase =>
      ((∃ pid, state = .running pid) ∧ Flow .announced rest phase) ∨
        (state.isTerminal = true ∧ Flow .ended rest phase)
  | .announced, state :: rest, phase => state.isTerminal = true ∧ Flow .ended rest phase
  | .ended, _ :: _, _ => False

variable {reports : List PluginState}

theorem Flow.eq_nil_of_ended {phase : Option Phase}
    (flow : Flow .ended reports phase) : reports = [] ∧ phase = none := by
  cases reports with
  | nil => exact ⟨rfl, flow⟩
  | cons state rest => cases flow

/-- After the announcement a supervisor is not spawning any more. -/
theorem Flow.not_spawning {phase : Option Phase}
    (flow : Flow .announced reports phase) : phase ≠ some .spawning := by
  rintro rfl
  cases reports with
  | nil => cases flow
  | cons state rest => cases flow.2.eq_nil_of_ended.2

/-- A spawning supervisor announces its process. -/
theorem Flow.announce {stage : Stage} (pid : Nat)
    (flow : Flow stage reports (some .spawning)) :
    Flow stage (reports ++ [.running pid]) (some .announced) := by
  cases stage with
  | silent =>
      cases reports with
      | nil => exact .inl ⟨⟨pid, rfl⟩, rfl⟩
      | cons state rest =>
          rcases flow with ⟨-, later⟩ | ⟨-, later⟩
          · exact absurd rfl later.not_spawning
          · cases later.eq_nil_of_ended.2
  | announced => exact absurd rfl flow.not_spawning
  | ended => cases flow.eq_nil_of_ended.2

variable {state : PluginState}

/-- A supervisor ends with a terminal report. -/
theorem Flow.finish {stage : Stage} {phase : Phase}
    (terminal : state.isTerminal = true)
    (flow : Flow stage reports (some phase)) : Flow stage (reports ++ [state]) none := by
  have fromAnnounced : ∀ reports, Flow .announced reports (some phase) →
      Flow .announced (reports ++ [state]) none := by
    intro reports flow
    cases reports with
    | nil => exact ⟨terminal, rfl⟩
    | cons first rest => cases flow.2.eq_nil_of_ended.2
  cases stage with
  | silent =>
      cases reports with
      | nil => exact .inr ⟨terminal, rfl⟩
      | cons first rest =>
          rcases flow with ⟨running, later⟩ | ⟨-, later⟩
          · exact .inl ⟨running, fromAnnounced rest later⟩
          · cases later.eq_nil_of_ended.2
  | announced => exact fromAnnounced reports flow
  | ended => cases flow.eq_nil_of_ended.2

variable (queue : List SupervisorEvent)

/-- The reports about a generation of a plugin that wait in a channel. -/
def pending (id : PluginId) (generation : Nat) :
    List PluginState :=
  (queue.filter fun event => event.id = id ∧ event.generation = generation).map
    SupervisorEvent.state

theorem pending_append (first second : List SupervisorEvent) (id : PluginId)
    (generation : Nat) :
    pending (first ++ second) id generation =
      pending first id generation ++ pending second id generation := by
  unfold pending
  rw [List.filter_append, List.map_append]

theorem pending_cons_self (event : SupervisorEvent) (rest : List SupervisorEvent) :
    pending (event :: rest) event.id event.generation =
      event.state :: pending rest event.id event.generation := by
  unfold pending
  rw [List.filter_cons_of_pos (by simp), List.map_cons]

variable {id : PluginId} {event : SupervisorEvent}

theorem pending_cons_of_ne {generation : Nat}
    (differ : ¬ (event.id = id ∧ event.generation = generation))
    (rest : List SupervisorEvent) :
    pending (event :: rest) id generation = pending rest id generation := by
  unfold pending
  rw [List.filter_cons_of_neg (by simpa using differ)]

theorem pending_eq_nil {queue : List SupervisorEvent} {generation : Nat}
    (other : ∀ event ∈ queue, ¬ (event.id = id ∧ event.generation = generation)) :
    pending queue id generation = [] := by
  unfold pending
  rw [List.map_eq_nil_iff, List.filter_eq_nil_iff]
  exact fun event member => by simpa using other event member

/-- A slot fits what is still to come from the supervisor of its generation. -/
structure SlotSound (supervisor : Option Supervisor)
    (id : PluginId) (slot : PluginSlot) : Prop where
  named : slot.spec.id = id
  worker : ∀ live, supervisor = some live →
    slot.worker = true ∧ live.generation = slot.generation
  past : ∀ event ∈ queue, event.id = id → event.generation ≤ slot.generation
  flow : ∃ stage,
    Flow stage (pending queue id slot.generation) (supervisor.map Supervisor.phase) ∧
      (slot.forcedFailure = none → slot.state.rank = 0 ∨ slot.state.rank = 4 →
        stage = .ended) ∧
      (slot.forcedFailure = none → slot.state.rank = 2 → stage = .announced)
  stopping : slot.forcedFailure = none → slot.state = .stopping →
    ∀ pid, .running pid ∉ pending queue id slot.generation
  forced : ∀ failure, slot.forcedFailure = some failure → slot.state = .failed failure

/-- Every slot is sound, and nothing is to come for a plugin that is not registered. -/
structure Sound (world : World) : Prop where
  known : ∀ id slot, world.kernel.plugins.lookup? id = some slot →
    SlotSound world.queue (world.live id) id slot
  unknown : ∀ id, world.kernel.plugins.lookup? id = none →
    world.live id = none ∧ ∀ event ∈ world.queue, event.id ≠ id

/-- A later slot of a plugin: within a generation its state is not earlier, and a failure that
was forced stays. -/
structure Later (before after : PluginSlot) : Prop where
  generation : before.generation ≤ after.generation
  rank : after.generation = before.generation → before.state.rank ≤ after.state.rank
  forced : after.generation = before.generation →
    ∀ failure, before.forcedFailure = some failure → after.forcedFailure = some failure

/-- A later slot, whose failure may have been replaced by another one. -/
structure Follows (before after : PluginSlot) : Prop where
  generation : before.generation ≤ after.generation
  rank : after.generation = before.generation → before.state.rank ≤ after.state.rank

theorem Later.follows {before after : PluginSlot} (later : Later before after) :
    Follows before after :=
  ⟨later.generation, later.rank⟩

theorem Later.refl (slot : PluginSlot) : Later slot slot :=
  ⟨Nat.le_refl _, fun _ => Nat.le_refl _, fun _ _ forced => forced⟩

theorem Later.trans {first second third : PluginSlot} (early : Later first second)
    (late : Later second third) : Later first third := by
  have between : third.generation = first.generation →
      third.generation = second.generation ∧ second.generation = first.generation := by
    intro same
    have lower := early.generation
    have upper := late.generation
    omega
  refine ⟨Nat.le_trans early.generation late.generation, fun same => ?_, fun same => ?_⟩
  · obtain ⟨sameLate, sameEarly⟩ := between same
    exact Nat.le_trans (early.rank sameEarly) (late.rank sameLate)
  · obtain ⟨sameLate, sameEarly⟩ := between same
    exact fun failure forced => late.forced sameLate failure (early.forced sameEarly failure forced)

/-- Every plugin goes on. -/
def GoesOn (before after : YunxiKernel) : Prop :=
  ∀ id slot, before.plugins.lookup? id = some slot →
    ∃ next, after.plugins.lookup? id = some next ∧ Later slot next

theorem GoesOn.refl (kernel : YunxiKernel) : GoesOn kernel kernel :=
  fun _ slot found => ⟨slot, found, .refl slot⟩

theorem GoesOn.trans {first second third : YunxiKernel} (early : GoesOn first second)
    (late : GoesOn second third) : GoesOn first third := by
  intro id slot found
  obtain ⟨middle, middleFound, before⟩ := early id slot found
  obtain ⟨last, lastFound, after⟩ := late id middle middleFound
  exact ⟨last, lastFound, before.trans after⟩

theorem lookup?_put_self (kernel : YunxiKernel) (id : PluginId) (slot : PluginSlot) :
    (kernel.put id slot).plugins.lookup? id = some slot :=
  SortedMap.lookup?_insert_self _ _ _

theorem lookup?_put_of_ne (kernel : YunxiKernel) {other : PluginId} (differ : other ≠ id)
    (slot : PluginSlot) :
    (kernel.put id slot).plugins.lookup? other = kernel.plugins.lookup? other :=
  SortedMap.lookup?_insert_of_ne _ differ _

variable {slot : PluginSlot}

variable {kernel : YunxiKernel}

/-- A slot goes on when a later one takes its place. -/
theorem goesOn_put {next : PluginSlot}
    (found : kernel.plugins.lookup? id = some slot) (later : Later slot next) :
    GoesOn kernel (kernel.put id next) := by
  intro other before otherFound
  by_cases same : other = id
  · subst same
    rw [found, Option.some_inj] at otherFound
    exact ⟨next, lookup?_put_self _ _ _, otherFound ▸ later⟩
  · exact ⟨before, (lookup?_put_of_ne kernel same next).trans otherFound, .refl before⟩

/-- The state of a slot after a report about its generation. -/
def reported (slot : PluginSlot) (event : SupervisorEvent) : PluginState :=
  match slot.forcedFailure with
  | some failure => .failed failure
  | none => event.state

/-- The slot after a report about its generation. -/
def heard (slot : PluginSlot) (event : SupervisorEvent) : PluginSlot :=
  { slot with
    state := reported slot event
    commands := if (reported slot event).isTerminal then false else slot.commands }

/-- A report about another generation changes nothing. -/
theorem applyEvent_stale (stale : ∀ slot, kernel.plugins.lookup? event.id = some slot →
      slot.generation ≠ event.generation) : kernel.applyEvent event = (kernel, none) := by
  unfold applyEvent
  cases found : kernel.plugins.lookup? event.id with
  | none => rfl
  | some slot => exact if_pos (stale slot found)

theorem applyEvent_current (found : kernel.plugins.lookup? event.id = some slot)
    (current : slot.generation = event.generation) :
    kernel.applyEvent event =
      (kernel.put event.id (heard slot event), some (heard slot event).snapshot) := by
  unfold applyEvent
  rw [found]
  exact if_neg (not_not.mpr current)

section Events

variable {event : SupervisorEvent} {rest : List SupervisorEvent} {supervisor : Option Supervisor}
  {id : PluginId} {slot : PluginSlot}

/-- A report that is not about the generation of a slot may be taken from the channel. -/
theorem SlotSound.skip (sound : SlotSound (event :: rest) supervisor id slot)
    (other : ¬ (event.id = id ∧ event.generation = slot.generation)) :
    SlotSound rest supervisor id slot := by
  obtain ⟨named, worker, past, flow, stopping, forced⟩ := sound
  rw [pending_cons_of_ne other] at flow stopping
  exact ⟨named, worker, fun later member => past later (List.mem_cons_of_mem _ member), flow, stopping,
    forced⟩

/-- A report about the generation of a slot moves it on. -/
theorem SlotSound.hear (sound : SlotSound (event :: rest) supervisor event.id slot)
    (current : slot.generation = event.generation) :
    SlotSound rest supervisor event.id (heard slot event) ∧ Later slot (heard slot event) := by
  obtain ⟨named, worker, past, ⟨stage, flow, ended, announced⟩, stopping, forced⟩ := sound
  have pastRest : ∀ later ∈ rest, later.id = event.id → later.generation ≤ slot.generation :=
    fun later member => past later (List.mem_cons_of_mem _ member)
  have shape := pending_cons_self event rest
  rw [← current] at shape
  rw [shape] at flow stopping
  -- the report is the announcement of a silent supervisor, or its end
  have next : ∃ after, Flow after (pending rest event.id slot.generation)
        (supervisor.map Supervisor.phase) ∧
      (stage = .silent ∧ (∃ pid, event.state = .running pid) ∧ after = .announced ∨
        event.state.isTerminal = true ∧ after = .ended ∧ stage ≠ .ended) := by
    cases stage with
    | silent =>
        rcases flow with ⟨running, later⟩ | ⟨terminal, later⟩
        · exact ⟨.announced, later, .inl ⟨rfl, running, rfl⟩⟩
        · exact ⟨.ended, later, .inr ⟨terminal, rfl, nofun⟩⟩
    | announced => exact ⟨.ended, flow.2, .inr ⟨flow.1, rfl, nofun⟩⟩
    | ended => cases flow
  obtain ⟨after, flowAfter, moved⟩ := next
  unfold heard reported
  cases isForced : slot.forcedFailure with
  | some failure =>
      refine ⟨⟨named, worker, pastRest, ⟨after, flowAfter, nofun, nofun⟩, nofun, ?_⟩, ?_⟩
      · rintro other ⟨⟩
        rfl
      · refine ⟨Nat.le_refl _, fun _ => ?_, fun _ other same => isForced.symm.trans same⟩
        rw [forced failure isForced]
  | none =>
      have unforced : ∀ {property : PluginFailure → Prop} (failure : PluginFailure),
          slot.forcedFailure = some failure → property failure :=
        fun failure impossible => nomatch isForced.symm.trans impossible
      have free := ended isForced
      have notEnded : slot.state.rank ≠ 0 ∧ slot.state.rank ≠ 4 := by
        have going : stage ≠ .ended := by
          rcases moved with ⟨silent, -, -⟩ | ⟨-, -, going⟩
          · rw [silent]
            nofun
          · exact going
        exact ⟨fun zero => going (free (.inl zero)), fun four => going (free (.inr four))⟩
      rcases moved with ⟨silent, ⟨pid, running⟩, isAnnounced⟩ | ⟨terminal, isEnded, -⟩
      · refine ⟨⟨named, worker, pastRest, ⟨after, flowAfter, ?_, fun _ _ => isAnnounced⟩, ?_, nofun⟩, ?_⟩
        · rw [running]
          rintro - (impossible | impossible) <;> cases impossible
        · rw [running]
          nofun
        · refine ⟨Nat.le_refl _, fun _ => ?_, fun _ => unforced⟩
          dsimp only
          rw [running]
          -- a state from which a running process would be a step back does not occur
          cases state : slot.state with
          | registered => exact absurd (congrArg PluginState.rank state) notEnded.1
          | starting => exact Nat.le_succ 1
          | running _ => exact Nat.le_refl 2
          | stopping =>
              exact absurd (running ▸ List.mem_cons_self) (stopping isForced state pid)
          | stopped => exact absurd (congrArg PluginState.rank state) notEnded.2
          | failed _ => exact absurd (congrArg PluginState.rank state) notEnded.2
      · have rank := PluginState.rank_of_isTerminal terminal
        refine ⟨⟨named, worker, pastRest, ⟨after, flowAfter, fun _ _ => isEnded, ?_⟩, ?_, nofun⟩, ?_⟩
        · intro _ two
          exact absurd (rank.symm.trans two) (by decide)
        · intro _ impossible
          dsimp only at impossible
          rw [impossible] at terminal
          cases terminal
        · refine ⟨Nat.le_refl _, fun _ => ?_, fun _ => unforced⟩
          dsimp only
          rw [rank]
          exact PluginState.rank_le _

end Events

variable {world : World}

section Refreshing

variable {kernel : YunxiKernel} {live : PluginId → Option Supervisor}

/-- An event is stale, or it is about the generation of the slot of its plugin. -/
theorem stale_or_current (kernel : YunxiKernel) (event : SupervisorEvent) :
    (∀ slot, kernel.plugins.lookup? event.id = some slot → slot.generation ≠ event.generation) ∨
      ∃ slot, kernel.plugins.lookup? event.id = some slot ∧
        slot.generation = event.generation := by
  by_cases current : ∃ slot, kernel.plugins.lookup? event.id = some slot ∧
      slot.generation = event.generation
  · exact .inr current
  · exact .inl fun slot found same => current ⟨slot, found, same⟩

/-- An event changes at most the state of the slot that it is about. -/
theorem applyEvent_slot (event : SupervisorEvent)
    (found : kernel.plugins.lookup? id = some slot) :
    ∃ next, (kernel.applyEvent event).1.plugins.lookup? id = some next ∧
      next.spec = slot.spec ∧ next.generation = slot.generation ∧
      next.forcedFailure = slot.forcedFailure ∧
      (next.state = slot.state ∨ next.state = reported slot event) := by
  rcases stale_or_current kernel event with stale | ⟨own, ownFound, current⟩
  · rw [applyEvent_stale stale]
    exact ⟨slot, found, rfl, rfl, rfl, .inl rfl⟩
  · rw [applyEvent_current ownFound current]
    by_cases same : id = event.id
    · subst same
      rw [found, Option.some_inj] at ownFound
      subst ownFound
      exact ⟨_, lookup?_put_self _ _ _, rfl, rfl, rfl, .inr rfl⟩
    · exact ⟨slot, (lookup?_put_of_ne _ same _).trans found, rfl, rfl, rfl, .inl rfl⟩

/-- Taking an event from the channel keeps the slots sound, and moves none back. -/
theorem Sound.applyEvent {rest : List SupervisorEvent}
    (sound : Sound ⟨kernel, event :: rest, live⟩) :
    Sound ⟨(kernel.applyEvent event).1, rest, live⟩ ∧
      GoesOn kernel (kernel.applyEvent event).1 := by
  have unknownRest : ∀ id, kernel.plugins.lookup? id = none →
      live id = none ∧ ∀ later ∈ rest, later.id ≠ id :=
    fun id missing => ⟨(sound.unknown id missing).1, fun later member =>
      (sound.unknown id missing).2 later (List.mem_cons_of_mem _ member)⟩
  rcases stale_or_current kernel event with stale | ⟨slot, found, current⟩
  · rw [applyEvent_stale stale]
    refine ⟨⟨fun id slot found => (sound.known id slot found).skip ?_, unknownRest⟩, .refl kernel⟩
    rintro ⟨rfl, same⟩
    exact stale slot found same.symm
  · rw [applyEvent_current found current]
    obtain ⟨heardSound, later⟩ := (sound.known event.id slot found).hear current
    refine ⟨⟨fun id other otherFound => ?_, fun id missing => unknownRest id ?_⟩,
      goesOn_put found later⟩
    · by_cases same : id = event.id
      · subst same
        rw [lookup?_put_self, Option.some_inj] at otherFound
        exact otherFound ▸ heardSound
      · rw [lookup?_put_of_ne _ same] at otherFound
        exact (sound.known id other otherFound).skip fun own => same own.1.symm
    · by_cases same : id = event.id
      · subst same
        rw [lookup?_put_self] at missing
        cases missing
      · rwa [lookup?_put_of_ne _ same] at missing

/-- Emptying the channel keeps the slots sound, and moves none back; what is reported on the
way is not earlier than what was known. -/
theorem Sound.applyEvents {queue : List SupervisorEvent}
    (sound : Sound ⟨kernel, queue, live⟩) :
    Sound ⟨(kernel.applyEvents queue).1, [], live⟩ ∧
      GoesOn kernel (kernel.applyEvents queue).1 ∧
      ∀ snapshot ∈ (kernel.applyEvents queue).2, ∀ slot,
        kernel.plugins.lookup? snapshot.id = some slot →
          snapshot.generation = slot.generation → slot.state.rank ≤ snapshot.state.rank := by
  induction queue generalizing kernel with
  | nil => exact ⟨sound, .refl kernel, nofun⟩
  | cons event rest ih =>
      obtain ⟨soundNext, goesOn⟩ := sound.applyEvent
      obtain ⟨soundLast, goesOnLast, reports⟩ := ih soundNext
      unfold YunxiKernel.applyEvents
      refine ⟨soundLast, goesOn.trans goesOnLast, ?_⟩
      intro snapshot member slot found sameGeneration
      rcases List.mem_append.mp member with here | later
      · rcases stale_or_current kernel event with stale | ⟨own, ownFound, current⟩
        · rw [applyEvent_stale stale] at here
          cases here
        · rw [applyEvent_current ownFound current] at here
          obtain rfl := List.mem_singleton.mp here
          have named := (sound.known event.id own ownFound).named
          obtain ⟨-, moved⟩ := (sound.known event.id own ownFound).hear current
          change kernel.plugins.lookup? own.spec.id = some slot at found
          rw [named, ownFound, Option.some_inj] at found
          rw [← found]
          exact moved.rank rfl
      · obtain ⟨next, nextFound, moved⟩ := goesOn snapshot.id slot found
        obtain ⟨same, sameFound, -, kept, -⟩ := applyEvent_slot event found
        rw [nextFound, Option.some_inj] at sameFound
        have nextGeneration : next.generation = slot.generation := sameFound ▸ kept
        exact Nat.le_trans (moved.rank nextGeneration)
          (reports snapshot later next nextFound (sameGeneration.trans nextGeneration.symm))

/-- Events change at most the states of slots. -/
theorem applyEvents_slot (found : kernel.plugins.lookup? id = some slot) :
    ∃ next, (kernel.applyEvents queue).1.plugins.lookup? id = some next ∧
      next.spec = slot.spec ∧ next.generation = slot.generation ∧
      next.forcedFailure = slot.forcedFailure ∧
      (next.state = slot.state ∨ ∃ event ∈ queue, next.state = reported slot event) := by
  induction queue generalizing kernel slot with
  | nil => exact ⟨slot, found, rfl, rfl, rfl, .inl rfl⟩
  | cons event rest ih =>
      obtain ⟨middle, middleFound, spec, generation, forced, state⟩ := applyEvent_slot event found
      obtain ⟨last, lastFound, sameSpec, sameGeneration, sameForced, lastState⟩ :=
        ih middleFound
      refine ⟨last, lastFound, sameSpec.trans spec, sameGeneration.trans generation,
        sameForced.trans forced, ?_⟩
      rcases lastState with same | ⟨later, member, heard⟩
      · rcases state with kept | heard
        · exact .inl (same.trans kept)
        · exact .inr ⟨event, List.mem_cons_self, same.trans heard⟩
      · refine .inr ⟨later, List.mem_cons_of_mem _ member, heard.trans ?_⟩
        unfold reported
        rw [forced]

theorem applyEvents_missing (missing : kernel.plugins.lookup? id = none) :
    (kernel.applyEvents queue).1.plugins.lookup? id = none := by
  induction queue generalizing kernel with
  | nil => exact missing
  | cons event rest ih =>
      have next : (kernel.applyEvent event).1.plugins.lookup? id = none := by
        rcases stale_or_current kernel event with stale | ⟨own, ownFound, current⟩
        · rw [applyEvent_stale stale]
          exact missing
        · rw [applyEvent_current ownFound current]
          have differ : id ≠ event.id := by
            rintro rfl
            exact nomatch missing.symm.trans ownFound
          exact (lookup?_put_of_ne _ differ _).trans missing
      exact ih next

/-- The slot of a plugin after a refresh. -/
theorem refresh_slot (found : world.kernel.plugins.lookup? id = some slot) :
    ∃ next, world.refresh.2.kernel.plugins.lookup? id = some next ∧
      next.spec = slot.spec ∧ next.generation = slot.generation ∧
      next.forcedFailure = slot.forcedFailure ∧
      (next.state = slot.state ∨ ∃ event ∈ world.queue, next.state = reported slot event) := by
  obtain ⟨next, nextFound, rest⟩ := applyEvents_slot world.queue found
  refine ⟨{ next with worker := next.worker && !(world.live id).isNone }, ?_, rest⟩
  unfold World.refresh reapFinishedWorkers
  dsimp only
  rw [SortedMap.lookup?_map, nextFound]
  rfl

theorem refresh_missing (missing : world.kernel.plugins.lookup? id = none) :
    world.refresh.2.kernel.plugins.lookup? id = none := by
  unfold World.refresh reapFinishedWorkers
  dsimp only
  rw [SortedMap.lookup?_map, applyEvents_missing world.queue missing]
  rfl

/-- A slot after a refresh has the generation that it had. -/
theorem generation_of_refresh (found : world.refresh.2.kernel.plugins.lookup? id = some slot) :
    ∃ before, world.kernel.plugins.lookup? id = some before ∧
      slot.generation = before.generation := by
  cases known : world.kernel.plugins.lookup? id with
  | none => exact nomatch (refresh_missing known).symm.trans found
  | some before =>
      obtain ⟨next, nextFound, -, same, -⟩ := refresh_slot known
      rw [found, Option.some_inj] at nextFound
      exact ⟨before, rfl, nextFound ▸ same⟩

/-- A refresh empties the channel. -/
theorem Sound.refresh (sound : Sound world) :
    Sound world.refresh.2 ∧ GoesOn world.kernel world.refresh.2.kernel ∧
      world.refresh.2.queue = [] ∧ world.refresh.2.live = world.live := by
  obtain ⟨applied, goesOn, -⟩ := sound.applyEvents
  have reaped : ∀ id slot, (world.kernel.applyEvents world.queue).1.plugins.lookup? id = some slot →
      world.refresh.2.kernel.plugins.lookup? id =
        some { slot with worker := slot.worker && !(world.live id).isNone } := by
    intro id slot found
    unfold World.refresh reapFinishedWorkers
    dsimp only
    rw [SortedMap.lookup?_map, found]
    rfl
  refine ⟨⟨fun id slot found => ?_, fun id missing => ?_⟩, ?_, rfl, rfl⟩
  · cases known : (world.kernel.applyEvents world.queue).1.plugins.lookup? id with
    | none =>
        unfold World.refresh reapFinishedWorkers at found
        dsimp only at found
        rw [SortedMap.lookup?_map, known] at found
        cases found
    | some before =>
        rw [reaped id before known, Option.some_inj] at found
        subst found
        obtain ⟨named, worker, past, flow, stopping, forced⟩ := applied.known id before known
        refine ⟨named, fun live isLive => ?_, past, flow, stopping, forced⟩
        obtain ⟨held, generation⟩ := worker live isLive
        refine ⟨?_, generation⟩
        change world.live id = some live at isLive
        dsimp only
        rw [isLive, held]
        rfl
  · refine ⟨(applied.unknown id ?_).1, nofun⟩
    unfold World.refresh reapFinishedWorkers at missing
    dsimp only at missing
    rw [SortedMap.lookup?_map, Option.map_eq_none_iff] at missing
    exact missing
  · intro id slot found
    obtain ⟨next, nextFound, later⟩ := goesOn id slot found
    exact ⟨_, reaped id next nextFound, later.generation, later.rank, later.forced⟩

end Refreshing

/-- A supervisor does not announce its process after a stop was accepted. -/
def Timely (world : World) : SupervisorStep → Prop
  | .announce id _ => (∃ generation, world.live id = some ⟨generation, .spawning⟩) →
      ∀ slot, world.kernel.plugins.lookup? id = some slot → slot.state ≠ .stopping
  | .finish _ _ => True

section Supervisors

variable {queue : List SupervisorEvent} {supervisor : Option Supervisor} {id : PluginId}
  {slot : PluginSlot}

/-- Reports about other plugins may be sent. -/
theorem SlotSound.send_others (sound : SlotSound queue supervisor id slot)
    {reports : List SupervisorEvent} (others : ∀ event ∈ reports, event.id ≠ id) :
    SlotSound (queue ++ reports) supervisor id slot := by
  obtain ⟨named, worker, past, flow, stopping, forced⟩ := sound
  have same : pending (queue ++ reports) id slot.generation = pending queue id slot.generation := by
    rw [pending_append, pending_eq_nil fun event member own => others event member own.1]
    exact List.append_nil _
  refine ⟨named, worker, ?_, same ▸ flow, same ▸ stopping, forced⟩
  intro later member own
  rcases List.mem_append.mp member with earlier | last
  · exact past later earlier own
  · exact absurd own (others later last)

/-- The supervisor of a slot sends a report. -/
theorem SlotSound.send_own (sound : SlotSound queue supervisor id slot)
    {next : Option Supervisor}
    (worker : ∀ live, next = some live → slot.worker = true ∧ live.generation = slot.generation)
    (flow : ∀ stage, Flow stage (pending queue id slot.generation)
        (supervisor.map Supervisor.phase) →
      Flow stage (pending queue id slot.generation ++ [state]) (next.map Supervisor.phase))
    (quiet : slot.state = .stopping → ∀ pid, state ≠ .running pid) :
    SlotSound (queue ++ [⟨id, slot.generation, state⟩]) next id slot := by
  obtain ⟨named, -, past, ⟨stage, flows, ended, announced⟩, stopping, forced⟩ := sound
  have shape : pending (queue ++ [⟨id, slot.generation, state⟩]) id slot.generation =
      pending queue id slot.generation ++ [state] := by
    rw [pending_append]
    exact congrArg _ (pending_cons_self ⟨id, slot.generation, state⟩ [])
  refine ⟨named, worker, ?_, shape ▸ ⟨stage, flow stage flows, ended, announced⟩, ?_, forced⟩
  · intro later member own
    rcases List.mem_append.mp member with earlier | last
    · exact past later earlier own
    · rw [List.mem_singleton.mp last]
  · intro free isStopping pid member
    rw [shape] at member
    rcases List.mem_append.mp member with earlier | last
    · exact stopping free isStopping pid earlier
    · exact quiet isStopping pid (List.mem_singleton.mp last).symm

end Supervisors

/-- A report of one plugin leaves the others sound. -/
theorem Sound.send (sound : Sound world)
    {next : Option Supervisor}
    (found : world.kernel.plugins.lookup? id = some slot)
    (own : SlotSound (world.queue ++ [⟨id, slot.generation, state⟩]) next id slot) :
    Sound { world with
      queue := world.queue ++ [⟨id, slot.generation, state⟩]
      live := Function.update world.live id next } := by
  constructor
  · intro other otherSlot otherFound
    dsimp only
    by_cases same : other = id
    · subst same
      rw [Function.update_self]
      change world.kernel.plugins.lookup? other = some otherSlot at otherFound
      rw [found, Option.some_inj] at otherFound
      exact otherFound ▸ own
    · rw [Function.update_of_ne same]
      refine (sound.known other otherSlot otherFound).send_others ?_
      exact List.forall_mem_singleton.mpr (Ne.symm same)
  · intro other missing
    have differ : other ≠ id := by
      rintro rfl
      exact nomatch found.symm.trans missing
    obtain ⟨dead, silent⟩ := sound.unknown other missing
    dsimp only
    rw [Function.update_of_ne differ]
    refine ⟨dead, fun event member => ?_⟩
    rcases List.mem_append.mp member with earlier | last
    · exact silent event earlier
    · rw [List.mem_singleton.mp last]
      exact Ne.symm differ

/-- A plugin with a supervisor has a slot. -/
theorem Sound.slot_of_live (sound : Sound world)
    {live : Supervisor} (isLive : world.live id = some live) :
    ∃ slot, world.kernel.plugins.lookup? id = some slot ∧
      live.generation = slot.generation ∧ slot.worker = true := by
  cases found : world.kernel.plugins.lookup? id with
  | none => exact nomatch (sound.unknown id found).1.symm.trans isLive
  | some slot =>
      obtain ⟨worker, generation⟩ := (sound.known id slot found).worker live isLive
      exact ⟨slot, rfl, generation, worker⟩

theorem supervise_kernel (world : World) (step : SupervisorStep) :
    (world.supervise step).kernel = world.kernel := by
  cases step with
  | announce id pid =>
      unfold supervise
      dsimp only
      split <;> rfl
  | finish id state =>
      unfold supervise
      dsimp only
      split <;> rfl

theorem Sound.supervise (sound : Sound world) (step : SupervisorStep)
    (timely : Timely world step) : Sound (world.supervise step) := by
  cases step with
  | announce id pid =>
      unfold World.supervise
      dsimp only
      split
      case h_1 generation isLive =>
        obtain ⟨slot, found, same, worker⟩ := sound.slot_of_live isLive
        dsimp only at same
        subst same
        refine sound.send found ((sound.known id slot found).send_own ?_ ?_ ?_)
        · rintro _ ⟨⟩
          exact ⟨worker, rfl⟩
        · intro stage flow
          rw [isLive] at flow
          exact flow.announce pid
        · exact fun isStopping => absurd isStopping (timely ⟨_, isLive⟩ slot found)
      case h_2 => exact sound
  | finish id state =>
      unfold World.supervise
      dsimp only
      split
      case h_1 live isLive =>
        obtain ⟨slot, found, same, worker⟩ := sound.slot_of_live isLive
        rw [same]
        refine sound.send found ((sound.known id slot found).send_own nofun ?_ ?_)
        · intro stage flow
          rw [isLive] at flow
          exact flow.finish state.2
        · intro _ pid running
          have terminal := state.2
          rw [running] at terminal
          cases terminal
      case h_2 => exact sound

theorem Sound.superviseAll (sound : Sound world) (steps : List SupervisorStep)
    (timely : EachStep World.supervise Timely world steps) :
    Sound (steps.foldl World.supervise world) ∧
      (steps.foldl World.supervise world).kernel = world.kernel := by
  induction steps generalizing world with
  | nil => exact ⟨sound, rfl⟩
  | cons step rest ih =>
      obtain ⟨last, same⟩ := ih (sound.supervise step timely.1) timely.2
      exact ⟨last, same.trans (supervise_kernel world step)⟩

end Kernel
end YunXi
