import YunXi.PluginHost.Retry
import YunXi.Kernel.Generations
import Mathlib.Data.List.Induction
import Mathlib.Data.List.Nodup

/-!
# Enable cycles

A plugin goes through cycles that explicit starts begin.  What the host holds of one plugin is
seen in one view, and the module says which views are right, and what each step of the host has
to look like so that they stay right.
-/

namespace YunXi
namespace PluginHost

open Kernel (PluginId KernelState maxGeneration)

/-- What the host did with a plugin.  The code keeps no such history; the properties are about
it. -/
inductive PluginEvent
  | explicitStart
  | startFailed
  | disabled
  | restarting (generation : Nat)
  | givenUp (generation : Nat)
  | started
  deriving DecidableEq, Repr

/-- The event of an action on the failure of a generation. -/
def RetryAction.event (generation : Nat) : RetryAction → PluginEvent
  | restart _ => .restarting generation
  | disable => .givenUp generation

variable {event : PluginEvent}

variable (events : List PluginEvent)

namespace PluginEvent

/-- The events since the last explicit start. -/
def cycle : List PluginEvent :=
  events.foldl (fun events event => if event = explicitStart then [] else events ++ [event]) []

/-- Whether a plugin was disabled, or failed its explicit start, since the last explicit start. -/
def isOff : Bool :=
  events.foldl (fun off event =>
    match event with
    | explicitStart => false
    | startFailed | disabled => true
    | restarting _ | givenUp _ | started => off) false

/-- The failed generation that an event acts upon. -/
def actsUpon : PluginEvent → Option Nat
  | restarting generation | givenUp generation => some generation
  | explicitStart | startFailed | disabled | started => none

/-- The failed generations that were acted upon. -/
def acted : List Nat :=
  events.filterMap actsUpon

def isRestart : PluginEvent → Bool
  | restarting _ => true
  | explicitStart | startFailed | disabled | givenUp _ | started => false

/-- The number of automatic restarts. -/
def restarts : Nat :=
  events.countP isRestart

section Append

variable (events : List PluginEvent) (event : PluginEvent)

theorem cycle_append :
    cycle (events ++ [event]) = if event = explicitStart then [] else cycle events ++ [event] := by
  unfold cycle
  rw [List.foldl_append]
  rfl

theorem cycle_append_of_ne {event : PluginEvent} (goesOn : event ≠ explicitStart) :
    cycle (events ++ [event]) = cycle events ++ [event] := by
  rw [cycle_append, if_neg goesOn]

theorem acted_append : acted (events ++ [event]) = acted events ++ event.actsUpon.toList := by
  unfold acted
  rw [List.filterMap_append]
  cases upon : event.actsUpon with
  | none => rw [List.filterMap_cons_none upon]; rfl
  | some generation => rw [List.filterMap_cons_some upon]; rfl

theorem restarts_append :
    restarts (events ++ [event]) = restarts events + if event.isRestart then 1 else 0 := by
  unfold restarts
  rw [List.countP_append, List.countP_singleton]

/-- Only three events change whether a plugin is off. -/
theorem isOff_append_explicitStart : isOff (events ++ [.explicitStart]) = false := by
  unfold isOff
  rw [List.foldl_append]
  rfl

theorem isOff_append_started : isOff (events ++ [.started]) = isOff events := by
  unfold isOff
  rw [List.foldl_append]
  rfl

theorem isOff_append_actsUpon {event : PluginEvent} {generation : Nat}
    (upon : event.actsUpon = some generation) : isOff (events ++ [event]) = isOff events := by
  unfold isOff
  rw [List.foldl_append]
  cases event <;> first | rfl | cases upon

end Append

/-- The bounds of a cycle hold, and no plugin was started while it was off. -/
structure Fair : Prop where
  budget : restarts (cycle events) ≤ maxAutomaticRestarts
  once : (acted (cycle events)).Nodup
  onceEver : ∀ generation, generation < maxGeneration → (acted events).count generation ≤ 1
  unstarted : ∀ earlier later, events = earlier ++ .started :: later → isOff earlier = false

section Fair

variable {events : List PluginEvent}

theorem fair_nil : Fair [] where
  budget := Nat.zero_le _
  once := List.nodup_nil
  onceEver _ _ := Nat.zero_le _
  unstarted earlier _ impossible := by cases earlier <;> cases impossible

/-- A start that is added last was made while the plugin was not off. -/
theorem Fair.unstarted_append (fair : Fair events)
    (on : event = .started → isOff events = false) (earlier later : List PluginEvent)
    (split : events ++ [event] = earlier ++ .started :: later) : isOff earlier = false := by
  rcases List.eq_nil_or_concat later with rfl | ⟨rest, last, rfl⟩
  · obtain ⟨rfl, same⟩ := List.append_inj' split rfl
    exact on (List.head_eq_of_cons_eq same)
  · rw [List.concat_eq_append, ← List.cons_append, ← List.append_assoc] at split
    exact fair.unstarted earlier rest (List.append_inj' split rfl).1

/-- Events that act upon no failure keep the bounds. -/
theorem Fair.add (fair : Fair events) (silent : event.actsUpon = none)
    (on : event = .started → isOff events = false) : Fair (events ++ [event]) := by
  have same : acted (events ++ [event]) = acted events := by
    rw [acted_append, silent]
    exact List.append_nil _
  refine ⟨?_, ?_, ?_, fair.unstarted_append on⟩
  · rw [cycle_append]
    split
    · exact Nat.zero_le _
    · rw [restarts_append, if_neg]
      · exact fair.budget
      · cases event <;> first | exact Bool.false_ne_true | cases silent
  · rw [cycle_append]
    split
    · exact List.nodup_nil
    · rw [acted_append, silent]
      exact (List.append_nil _).symm ▸ fair.once
  · rw [same]
    exact fair.onceEver

/-- A failure that was not acted upon before may be acted upon. -/
theorem Fair.act (fair : Fair events) {generation : Nat}
    (upon : event.actsUpon = some generation)
    (budget : restarts (cycle (events ++ [event])) ≤ maxAutomaticRestarts)
    (unused : generation ∉ acted (cycle events))
    (unusedEver : generation < maxGeneration → generation ∉ acted events) :
    Fair (events ++ [event]) := by
  have goesOn : event ≠ .explicitStart := by
    rintro rfl
    cases upon
  refine ⟨budget, ?_, fun other small => ?_, fair.unstarted_append ?_⟩
  · rw [cycle_append_of_ne _ goesOn, acted_append, upon]
    exact List.concat_eq_append ▸ List.Nodup.concat unused fair.once
  · rw [acted_append, upon, List.count_append]
    by_cases own : other = generation
    · subst own
      rw [List.count_eq_zero_of_not_mem (unusedEver small)]
      exact (Nat.zero_add _).symm ▸ List.count_singleton_self.le
    · have none : List.count other (some generation).toList = 0 :=
        List.count_eq_zero_of_not_mem fun member => own (List.mem_singleton.mp member)
      rw [none]
      exact fair.onceEver other small
  · rintro rfl
    cases upon

end Fair

end PluginEvent

open PluginEvent

/-- What the host and the kernel hold of one plugin. -/
structure PluginView where
  id : PluginId
  kernel : KernelState
  mark : Option (PluginId × Nat)
  retry : Option RetryController
  connection : Option Nat
  routed : Bool
  events : List PluginEvent

namespace PluginView

variable (view : PluginView)

/-- The generation that the kernel has of the plugin. -/
def generation : Option Nat :=
  view.mark.map Prod.snd

/-- The view is as it should be. -/
structure Right : Prop where
  routed : view.routed = view.connection.isSome
  current : ∀ generation, view.connection = some generation → view.generation = some generation
  fair : Fair view.events
  quiet : isOff view.events = true → view.routed = false ∧ view.connection = none

/-- What a retry controller knows of the cycle of its plugin. -/
structure RetryKept (retry : RetryController) : Prop where
  bounded : retry.automaticRestarts ≤ retry.policy.maxAutomaticRestarts
  counted : restarts (cycle events) ≤ retry.automaticRestarts
  fenced : retry.enabled = true → ∀ generation ∈ acted (cycle events),
    ∃ current, retry.generation = some current ∧ (generation < current ∨
      generation = current ∧ retry.handledFailureGeneration = some generation)
  quiet : isOff events = true → retry.enabled = false

/-- A controller that is enabled has marked the failure of the kernel's generation, if that was
acted upon. -/
def Marked : Prop :=
  ∀ retry, view.retry = some retry → retry.enabled = true →
    ∀ generation ∈ acted view.events, generation < maxGeneration →
      view.generation = some generation → retry.generation = some generation ∧
        retry.handledFailureGeneration = some generation

/-- The invariant of a view, but for the mark of a failure. -/
structure Sound : Prop where
  right : view.Right
  named : ∀ name generation, view.mark = some (name, generation) → name = view.id
  bounded : ∀ generation, view.generation = some generation → generation ≤ maxGeneration
  known : view.retry ≠ none → view.kernel = .running ∧ view.mark ≠ none
  reached : ∀ generation ∈ acted view.events,
    ∃ newest, view.generation = some newest ∧ generation ≤ newest
  retry : ∀ retry, view.retry = some retry → RetryKept view.events retry

/-- The invariant of a view. -/
structure Kept : Prop where
  sound : view.Sound
  marked : view.Marked

/-- A view whose connection is withdrawn. -/
def withdrawn : PluginView :=
  { view with connection := none, routed := false }

def add (event : PluginEvent) : PluginView :=
  { view with events := view.events ++ [event] }

theorem withdrawn_of_quiet {view : PluginView} (connection : view.connection = none)
    (routed : view.routed = false) : view.withdrawn = view := by
  unfold withdrawn
  rw [← connection, ← routed]

section Steps

variable {view : PluginView}

theorem Sound.withdrawn (sound : view.Sound) : view.withdrawn.Sound where
  right := ⟨rfl, fun _ impossible => (nomatch impossible), sound.right.fair, fun _ => ⟨rfl, rfl⟩⟩
  named := sound.named
  bounded := sound.bounded
  known := sound.known
  reached := sound.reached
  retry := sound.retry

/-- A connection may be withdrawn. -/
theorem Kept.withdrawn (kept : view.Kept) : view.withdrawn.Kept :=
  ⟨kept.sound.withdrawn, kept.marked⟩

/-- Nothing has changed, or the connection was withdrawn. -/
def Lowered (before after : PluginView) : Prop :=
  after = before ∨ after = before.withdrawn

variable {after before : PluginView}

theorem Lowered.trans {middle : PluginView} (early : Lowered before middle)
    (late : Lowered middle after) : Lowered before after := by
  rcases early with rfl | rfl
  · exact late
  · exact late.elim .inr .inr

/-- There is nothing left to withdraw. -/
theorem Lowered.eq_of_withdrawn
    (lowered : Lowered before.withdrawn after) : after = before.withdrawn := by
  rcases lowered with same | same <;> exact same

theorem Lowered.withdrawn_eq (lowered : Lowered before after) :
    after.withdrawn = before.withdrawn := by
  rcases lowered with rfl | rfl <;> rfl

theorem Lowered.generation (lowered : Lowered before after) :
    after.generation = before.generation := by
  rcases lowered with rfl | rfl <;> rfl

theorem Kept.lowered (kept : view.Kept) (lowered : Lowered view after) :
    after.Kept := by
  rcases lowered with rfl | rfl
  · exact kept
  · exact kept.withdrawn

/-- A view whose retry controller is disabled. -/
def retryDisabled (view : PluginView) : PluginView :=
  { view with retry := view.retry.map RetryController.disable }

/-- A retry controller may be disabled, which makes it deaf for all failures. -/
theorem Sound.retryDisabled (sound : view.Sound) : view.retryDisabled.Kept := by
  have disabled : ∀ retry, view.retryDisabled.retry = some retry →
      ∃ before, view.retry = some before ∧ before.disable = retry :=
    fun retry known => Option.map_eq_some_iff.mp known
  constructor
  · refine ⟨⟨sound.right.routed, sound.right.current, sound.right.fair, sound.right.quiet⟩,
      sound.named, sound.bounded, fun known => sound.known fun missing => known ?_,
      sound.reached, fun retry known => ?_⟩
    · unfold PluginView.retryDisabled
      rw [missing]
      rfl
    · obtain ⟨before, wasKnown, rfl⟩ := disabled retry known
      obtain ⟨bounded, counted, -, -⟩ := sound.retry before wasKnown
      exact ⟨bounded, counted, fun impossible => (nomatch impossible), fun _ => rfl⟩
  · intro retry known enabled
    obtain ⟨before, -, rfl⟩ := disabled retry known
    cases enabled

/-- A plugin that is withdrawn with a disabled retry controller may be off. -/
theorem Kept.off (kept : view.Kept)
    (offEvent : event = .startFailed ∨ event = .disabled)
    (disabled : ∀ retry, view.retry = some retry → retry.enabled = false) :
    (view.withdrawn.add event).Kept := by
  have silent : event.actsUpon = none := by
    rcases offEvent with rfl | rfl <;> rfl
  have goesOn : event ≠ .explicitStart := by
    rcases offEvent with rfl | rfl <;> exact fun impossible => nomatch impossible
  have unstarted : event = .started → isOff view.events = false := by
    rcases offEvent with rfl | rfl <;> exact fun impossible => nomatch impossible
  have same : acted (view.events ++ [event]) = acted view.events := by
    rw [acted_append, silent]
    exact List.append_nil _
  obtain ⟨sound, marked⟩ := kept
  refine ⟨⟨⟨rfl, fun _ impossible => (nomatch impossible), sound.right.fair.add silent unstarted,
    fun _ => ⟨rfl, rfl⟩⟩, sound.named, sound.bounded, sound.known, ?_, fun retry known => ?_⟩,
    fun retry known enabled => ?_⟩
  · change ∀ generation ∈ acted (view.events ++ [event]), _
    rw [same]
    exact sound.reached
  · have off := disabled retry known
    obtain ⟨bounded, counted, -, -⟩ := sound.retry retry known
    refine ⟨bounded, ?_, fun enabled => (nomatch off.symm.trans enabled), fun _ => off⟩
    change restarts (cycle (view.events ++ [event])) ≤ _
    rw [cycle_append_of_ne _ goesOn, restarts_append, if_neg]
    · exact counted
    · rcases offEvent with rfl | rfl <;> exact Bool.false_ne_true
  · exact nomatch (disabled retry known).symm.trans enabled

theorem Sound.off (sound : view.Sound)
    (offEvent : event = .startFailed ∨ event = .disabled) :
    (view.retryDisabled.withdrawn.add event).Kept := by
  refine sound.retryDisabled.off offEvent fun retry disabled => ?_
  obtain ⟨before, -, rfl⟩ := Option.map_eq_some_iff.mp disabled
  rfl

/-- An explicit start begins a cycle. -/
theorem Kept.explicitStart (kept : view.Kept) : (view.add .explicitStart).Kept := by
  have newCycle : cycle (view.events ++ [.explicitStart]) = [] := by
    rw [cycle_append, if_pos rfl]
  have isOn := isOff_append_explicitStart view.events
  have same : acted (view.events ++ [.explicitStart]) = acted view.events := by
    rw [acted_append]
    exact List.append_nil _
  obtain ⟨sound, marked⟩ := kept
  refine ⟨⟨⟨sound.right.routed, sound.right.current,
    sound.right.fair.add rfl fun impossible => (nomatch impossible),
    fun off => nomatch isOn.symm.trans off⟩, sound.named, sound.bounded, sound.known, ?_,
    fun retry known => ?_⟩, ?_⟩
  · change ∀ generation ∈ acted (view.events ++ [.explicitStart]), _
    rw [same]
    exact sound.reached
  · refine ⟨(sound.retry retry known).bounded, ?_, fun _ generation member => ?_,
      fun off => nomatch isOn.symm.trans off⟩
    · change restarts (cycle (view.events ++ [.explicitStart])) ≤ _
      rw [newCycle]
      exact Nat.zero_le _
    · change generation ∈ acted (cycle (view.events ++ [.explicitStart])) at member
      rw [newCycle] at member
      cases member
  · intro retry known enabled generation member
    change generation ∈ acted (view.events ++ [.explicitStart]) at member
    rw [same] at member
    exact marked retry known enabled generation member

variable {retry : RetryController}

/-- In a cycle in which nothing happened yet the retry controller may be a fresh one. -/
theorem Sound.freshRetry (sound : view.Sound) (running : view.kernel = .running)
    (known : view.mark ≠ none) (newCycle : cycle view.events = []) (isOn : isOff view.events = false)
    (bounded : retry.automaticRestarts ≤ retry.policy.maxAutomaticRestarts) :
    Sound { view with retry := some retry } where
  right := ⟨sound.right.routed, sound.right.current, sound.right.fair, sound.right.quiet⟩
  named := sound.named
  bounded := sound.bounded
  known _ := ⟨running, known⟩
  reached := sound.reached
  retry other same := by
    cases same
    refine ⟨bounded, ?_, fun _ generation member => ?_, fun off => nomatch isOn.symm.trans off⟩
    · change restarts (cycle view.events) ≤ _
      rw [newCycle]
      exact Nat.zero_le _
    · change generation ∈ acted (cycle view.events) at member
      rw [newCycle] at member
      cases member

/-- A plugin that is registered begins its first cycle. -/
theorem Kept.registered (kept : view.Kept) (missing : view.mark = none)
    (running : view.kernel = .running)
    (bounded : retry.automaticRestarts ≤ retry.policy.maxAutomaticRestarts) :
    Sound { view.add .explicitStart with mark := some (view.id, 0), retry := some retry } := by
  have started := kept.explicitStart.sound
  have unknown (generation : Nat) : view.generation ≠ some generation := by
    unfold PluginView.generation
    rw [missing]
    exact Option.some_ne_none _ ∘ Eq.symm
  have marked : Sound { view.add .explicitStart with mark := some (view.id, 0) } := by
    refine ⟨⟨started.right.routed, fun generation connected => ?_, started.right.fair,
      started.right.quiet⟩, ?_, ?_, fun known => ?_, fun generation member => ?_, started.retry⟩
    · exact absurd (started.right.current generation connected) (unknown generation)
    · rintro _ _ ⟨⟩
      rfl
    · rintro _ ⟨⟩
      exact Nat.zero_le _
    · exact absurd missing (started.known known).2
    · obtain ⟨newest, found, -⟩ := started.reached generation member
      exact absurd found (unknown newest)
  refine marked.freshRetry running (Option.some_ne_none _) ?_ (isOff_append_explicitStart _) bounded
  exact (cycle_append _ _).trans (if_pos rfl)

/-- What a kernel that was shut down leaves of a plugin. -/
theorem Kept.forgotten (kept : view.Kept) (kernel : KernelState) :
    Kept { view with kernel, retry := none } := by
  obtain ⟨⟨right, named, bounded, -, reached, -⟩, -⟩ := kept
  refine ⟨⟨⟨right.routed, right.current, right.fair, right.quiet⟩, named, bounded,
    fun known => absurd rfl known, reached, ?_⟩, ?_⟩
  · rintro _ ⟨⟩
  · rintro _ ⟨⟩

/-- A newer generation may be observed. -/
theorem RetryKept.observe {events : List PluginEvent}
    (kept : RetryKept events retry) (generation : Nat) :
    RetryKept events (retry.observeGeneration generation).2 := by
  rcases retry.observeGeneration_cases generation with
    same | ⟨-, -, same⟩ | ⟨enabled, older, moved⟩
  · rw [same]
    exact kept
  · rw [same]
    exact kept
  · rw [moved]
    refine ⟨kept.bounded, kept.counted, fun _ earlier member => ?_, kept.quiet⟩
    obtain ⟨current, known, before⟩ := kept.fenced enabled earlier member
    have newer := older current known
    refine ⟨generation, rfl, .inl ?_⟩
    rcases before with less | ⟨rfl, -⟩
    · exact less.trans newer
    · exact newer

/-- What a start does to the view of its plugin, which was withdrawn before. -/
structure StartStep (view : PluginView) (succeeded : Bool) (after : PluginView) : Prop where
  id : after.id = view.id
  kernel : after.kernel = view.kernel
  events : after.events = view.events ++ [.started]
  begun : (succeeded = false ∧ after.mark = view.mark ∧ after.retry = view.retry) ∨
    (∃ name generation, view.mark = some (name, generation) ∧
      after.mark = some (name, min (generation + 1) maxGeneration)) ∧
    (after.retry = view.retry ∨ ∃ retry generation, view.retry = some retry ∧
      after.retry = some (retry.observeGeneration generation).2)
  connected : (succeeded = true ∧ after.connection = after.generation ∧ after.routed = true) ∨
    (succeeded = false ∧ after.connection = none ∧ after.routed = false)

/-- A generation was begun, and is not connected yet. -/
structure Begun (view after : PluginView) : Prop where
  id : after.id = view.id
  kernel : after.kernel = view.kernel
  events : after.events = view.events ++ [.started]
  marked : ∃ name generation, view.mark = some (name, generation) ∧
    after.mark = some (name, min (generation + 1) maxGeneration)
  retry : after.retry = view.retry ∨ ∃ retry generation, view.retry = some retry ∧
    after.retry = some (retry.observeGeneration generation).2
  withdrawn : after.withdrawn = after

theorem Begun.failed (begun : Begun view after) :
    StartStep view false after :=
  ⟨begun.id, begun.kernel, begun.events, .inr ⟨begun.marked, begun.retry⟩,
    .inr ⟨rfl, by rw [← begun.withdrawn]; rfl, by rw [← begun.withdrawn]; rfl⟩⟩

theorem Begun.connected (begun : Begun view after) {generation : Nat}
    (newest : after.generation = some generation) :
    StartStep view true { after with connection := some generation, routed := true } :=
  ⟨begun.id, begun.kernel, begun.events, .inr ⟨begun.marked, begun.retry⟩,
    .inl ⟨rfl, newest.symm, rfl⟩⟩

section Start

variable {after : PluginView} {succeeded : Bool}

theorem StartStep.acted (step : StartStep view succeeded after) :
    PluginEvent.acted after.events = PluginEvent.acted view.events := by
  rw [step.events, acted_append]
  exact List.append_nil _

/-- A start that begins a generation begins a newer one. -/
theorem StartStep.newer (step : StartStep view succeeded after) (sound : view.Sound) :
    (succeeded = false ∧ after.generation = view.generation ∧ after.retry = view.retry) ∨
      ∃ before, view.generation = some before ∧ before ≤ maxGeneration ∧
        after.generation = some (min (before + 1) maxGeneration) := by
  unfold generation
  rcases step.begun with ⟨failed, same, sameRetry⟩ | ⟨⟨name, before, wasMarked, isMarked⟩, -⟩
  · exact .inl ⟨failed, same ▸ rfl, sameRetry⟩
  · have bounded := sound.bounded before (by unfold generation; rw [wasMarked]; rfl)
    exact .inr ⟨before, by rw [wasMarked]; rfl, bounded, by rw [isMarked]; rfl⟩

/-- A plugin that is not off may be started. -/
theorem Sound.start (sound : view.Sound) (isOn : isOff view.events = false)
    (step : StartStep view succeeded after) : after.Sound := by
  have stillOn : isOff after.events = false := by
    rw [step.events, isOff_append_started]
    exact isOn
  have sameCycle : cycle after.events = cycle view.events ++ [.started] := by
    rw [step.events]
    exact cycle_append_of_ne _ fun impossible => nomatch impossible
  have marks : ∀ name generation, after.mark = some (name, generation) →
      name = view.id ∧ generation ≤ maxGeneration := by
    intro name generation marked
    rcases step.begun with ⟨-, same, -⟩ | ⟨⟨other, before, wasMarked, isMarked⟩, -⟩
    · rw [same] at marked
      exact ⟨sound.named name generation marked, sound.bounded generation (by
        unfold PluginView.generation
        rw [marked]
        rfl)⟩
    · rw [isMarked] at marked
      cases marked
      exact ⟨sound.named name before wasMarked, Nat.min_le_right _ _⟩
  have wasKnown : after.retry ≠ none → view.retry ≠ none := by
    intro known missing
    rcases step.begun with ⟨-, -, same⟩ | ⟨-, same | ⟨retry, _, found, -⟩⟩
    · exact known (same.trans missing)
    · exact known (same.trans missing)
    · exact nomatch missing.symm.trans found
  refine ⟨⟨?_, ?_, ?_, fun off => nomatch stillOn.symm.trans off⟩, ?_, ?_, ?_, ?_, ?_⟩
  · rcases step.connected with ⟨succeeded, connection, routed⟩ | ⟨-, connection, routed⟩
    · rw [routed, connection]
      rcases step.newer sound with ⟨failed, -⟩ | ⟨before, -, -, begun⟩
      · exact nomatch failed.symm.trans succeeded
      · rw [begun]
        rfl
    · rw [routed, connection]
      rfl
  · intro generation connected
    rcases step.connected with ⟨-, connection, -⟩ | ⟨-, connection, -⟩
    · exact connection.symm.trans connected
    · exact nomatch connection.symm.trans connected
  · rw [step.events]
    exact sound.right.fair.add rfl fun _ => isOn
  · intro name generation marked
    exact (marks name generation marked).1.trans step.id.symm
  · intro generation found
    obtain ⟨⟨name, same⟩, marked, rfl⟩ := Option.map_eq_some_iff.mp found
    exact (marks name _ marked).2
  · intro known
    obtain ⟨running, marked⟩ := sound.known (wasKnown known)
    refine ⟨step.kernel.trans running, ?_⟩
    rcases step.begun with ⟨-, same, -⟩ | ⟨⟨name, before, -, isMarked⟩, -⟩
    · rw [same]
      exact marked
    · rw [isMarked]
      exact Option.some_ne_none _
  · intro earlier member
    rw [step.acted] at member
    obtain ⟨newest, found, before⟩ := sound.reached earlier member
    rcases step.newer sound with ⟨-, same, -⟩ | ⟨begun, wasFound, bounded, isFound⟩
    · exact ⟨newest, same.trans found, before⟩
    · rw [wasFound, Option.some_inj] at found
      subst found
      exact ⟨_, isFound, by omega⟩
  · have goesOn {retry : RetryController} (kept : RetryKept view.events retry) :
        RetryKept after.events retry := by
      obtain ⟨bounded, counted, fenced, -⟩ := kept
      refine ⟨bounded, ?_, ?_, fun off => nomatch stillOn.symm.trans off⟩
      · rw [sameCycle, restarts_append]
        exact counted
      · rw [sameCycle, acted_append]
        exact (List.append_nil (PluginEvent.acted (cycle view.events))).symm ▸ fenced
    intro retry known
    rcases step.begun with ⟨-, -, same⟩ | ⟨-, same | ⟨before, generation, found, observed⟩⟩
    · exact goesOn (sound.retry retry (same.symm.trans known))
    · exact goesOn (sound.retry retry (same.symm.trans known))
    · rw [observed, Option.some_inj] at known
      subst known
      exact goesOn ((sound.retry before found).observe generation)

/-- The generation that a start has begun was not acted upon. -/
theorem Sound.marked_start (sound : view.Sound) (step : StartStep view succeeded after)
    (marked : succeeded = true ∨ view.Marked) : after.Marked := by
  intro retry known enabled generation member small found
  rw [step.acted] at member
  rcases step.newer sound with ⟨failed, same, sameRetry⟩ | ⟨before, wasFound, -, isFound⟩
  · rcases marked with succeeded | marked
    · exact nomatch failed.symm.trans succeeded
    · exact marked retry (sameRetry.symm.trans known) enabled generation member small
        (same.symm.trans found)
  · obtain ⟨newest, reached, le⟩ := sound.reached generation member
    rw [wasFound, Option.some_inj] at reached
    rw [isFound, Option.some_inj] at found
    omega

end Start

/-- The kernel's generation may be observed. -/
theorem Kept.observe (kept : view.Kept) {generation : Nat}
    (known : view.retry = some retry) (newest : view.generation = some generation) :
    Kept { view with retry := some (retry.observeGeneration generation).2 } := by
  obtain ⟨sound, marked⟩ := kept
  refine ⟨⟨⟨sound.right.routed, sound.right.current, sound.right.fair, sound.right.quiet⟩,
    sound.named, sound.bounded, fun _ => sound.known (known ▸ Option.some_ne_none _),
    sound.reached, ?_⟩, ?_⟩
  · rintro _ ⟨⟩
    exact (sound.retry retry known).observe generation
  · rintro _ ⟨⟩ enabled earlier member small found
    have same : generation = earlier := Option.some_inj.mp (newest.symm.trans found)
    subst same
    rcases retry.observeGeneration_cases generation with
      same | ⟨-, -, same⟩ | ⟨wasEnabled, older, -⟩
    · rw [same] at enabled ⊢
      exact marked retry known enabled generation member small found
    · rw [same] at enabled ⊢
      exact marked retry known enabled generation member small found
    · obtain ⟨current, -⟩ := marked retry known wasEnabled generation member small found
      exact absurd (older generation current) (Nat.lt_irrefl _)

/-- The failure of the kernel's generation is acted upon once. -/
theorem Kept.act (kept : view.Kept) {next : RetryController} {generation : Nat}
    (upon : event.actsUpon = some generation)
    (known : view.retry = some retry) (newest : view.generation = some generation)
    (enabled : retry.enabled = true) (current : retry.generation = some generation)
    (unhandled : retry.handledFailureGeneration ≠ some generation)
    (bounded : next.automaticRestarts ≤ next.policy.maxAutomaticRestarts)
    (counted : restarts (cycle (view.events ++ [event])) ≤ next.automaticRestarts)
    (nextCurrent : next.generation = some generation)
    (handled : next.handledFailureGeneration = some generation) :
    Kept { view.add event with retry := some next } := by
  obtain ⟨sound, marked⟩ := kept
  have goesOn : event ≠ .explicitStart := by
    rintro rfl
    cases upon
  have fence := (sound.retry retry known).fenced enabled
  have unused : generation ∉ acted (cycle view.events) := by
    intro member
    obtain ⟨newer, same, less | ⟨-, isHandled⟩⟩ := fence generation member
    · rw [current, Option.some_inj] at same
      exact absurd less (same ▸ Nat.lt_irrefl _)
    · exact unhandled isHandled
  have unusedEver : generation < maxGeneration → generation ∉ acted view.events :=
    fun small member => unhandled (marked retry known enabled generation member small newest).2
  have isOn : isOff (view.events ++ [event]) = false := by
    rw [isOff_append_actsUpon _ upon]
    cases off : isOff view.events with
    | false => rfl
    | true => exact nomatch ((sound.retry retry known).quiet off).symm.trans enabled
  have total : restarts (cycle (view.events ++ [event])) ≤ maxAutomaticRestarts :=
    counted.trans (bounded.trans next.policy.capped)
  have acts : ∀ earlier, earlier ∈ acted (view.events ++ [event]) ↔
      earlier ∈ acted view.events ∨ earlier = generation := by
    intro earlier
    rw [acted_append, upon, List.mem_append]
    exact or_congr_right List.mem_singleton
  refine ⟨⟨⟨sound.right.routed, sound.right.current,
    sound.right.fair.act upon total unused unusedEver, fun off => nomatch isOn.symm.trans off⟩,
    sound.named, sound.bounded, fun _ => sound.known (known ▸ Option.some_ne_none _), ?_, ?_⟩, ?_⟩
  · intro earlier member
    rcases (acts earlier).mp member with before | rfl
    · exact sound.reached earlier before
    · exact ⟨earlier, newest, Nat.le_refl _⟩
  · rintro _ ⟨⟩
    refine ⟨bounded, counted, fun _ earlier member => ?_, fun off => nomatch isOn.symm.trans off⟩
    refine ⟨generation, nextCurrent, ?_⟩
    change earlier ∈ acted (cycle (view.events ++ [event])) at member
    rw [cycle_append_of_ne _ goesOn, acted_append, upon, List.mem_append] at member
    rcases member with before | own
    · obtain ⟨newer, same, less | ⟨same', -⟩⟩ := fence earlier before
      · rw [current, Option.some_inj] at same
        exact .inl (same ▸ less)
      · rw [current, Option.some_inj] at same
        exact .inr ⟨same'.trans same.symm, by rw [handled, same', same]⟩
    · exact .inr ⟨List.mem_singleton.mp own, by rw [handled, List.mem_singleton.mp own]⟩
  · rintro _ ⟨⟩ - earlier - - found
    have same : earlier = generation := Option.some_inj.mp (found.symm.trans newest)
    rw [same]
    exact ⟨nextCurrent, handled⟩

/-- What a retry controller decides on a failure of the kernel's generation may be done. -/
theorem Kept.onFailure (kept : view.Kept) {next : RetryController} {generation : Nat}
    {action : RetryAction} (known : view.retry = some retry)
    (newest : view.generation = some generation)
    (acts : retry.onFailure generation = (some action, next)) :
    Kept { view.add (action.event generation) with retry := some next } ∧
      isOff (view.events ++ [action.event generation]) = false := by
  obtain ⟨bounded, counted, -, quiet⟩ := kept.sound.retry retry known
  rcases retry.onFailure_cases generation with
    same | ⟨enabled, current, unhandled, taken⟩
  · rw [same] at acts
    cases acts
  · have isOn : isOff (view.events ++ [action.event generation]) = false := by
      have upon : (action.event generation).actsUpon = some generation := by
        cases action <;> rfl
      rw [isOff_append_actsUpon _ upon, Bool.eq_false_iff]
      intro off
      rw [quiet off] at enabled
      cases enabled
    rcases taken with ⟨room, restarted⟩ | ⟨full, disabled⟩
    · rw [restarted] at acts
      cases acts
      refine ⟨kept.act rfl known newest enabled current unhandled room ?_ current rfl, isOn⟩
      rw [RetryAction.event, cycle_append_of_ne _ (by rintro ⟨⟩), restarts_append]
      exact Nat.succ_le_succ counted
    · rw [disabled] at acts
      cases acts
      refine ⟨kept.act rfl known newest enabled current unhandled bounded ?_ current rfl, isOn⟩
      rw [RetryAction.event, cycle_append_of_ne _ (by rintro ⟨⟩), restarts_append]
      exact counted

end Steps

end PluginView

end PluginHost
end YunXi
