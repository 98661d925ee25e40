import YunXi.CordisCore.EventBus
import YunXi.Program.Run
import Mathlib.Data.List.Perm.Basic

/-!
# The contract of the event bus

Definitions are never empty and never mix modes, the handlers stored under a name
are those of its active subscriptions in the order they registered, and a dispatch
runs the handlers stored when it began, in order and as far as its mode goes.
Handler ids are drawn from a counter that wraps around, so what depends on their
being different holds as long as no more than `idCount` of them have been drawn.
-/

namespace YunXi
namespace CordisCore

open Fallible

variable {π : Type}

/-- The outcome ends the loop of the mode before all handlers have run. -/
def EventMode.stops : EventMode → HandlerOutcome → Bool
  | emit, _ | parallel, _ => false
  | waterfall, .failed _ | waterfall, .panicked => true
  | serial, .failed _ | serial, .panicked => true
  | bail, .handled | bail, .failed _ | bail, .panicked => true
  | _, _ => false

/-- A dispatch runs the handlers stored when it began, in their order.  An outcome
that stops its mode is the last, and a dispatch that has returned has run all of
them, or was stopped, or could not spawn a thread. -/
structure Dispatch.RunsStored (dispatch : Dispatch π) : Prop where
  inOrder : dispatch.ran.map Prod.fst ++ dispatch.running <+: dispatch.stored
  stopsLast : ∀ earlier call later, dispatch.ran = earlier ++ call :: later →
    dispatch.mode.stops call.2 = true → later = [] ∧ dispatch.running = []
  returned : dispatch.result.isSome = true →
    dispatch.running = [] ∧
      (dispatch.ran.map Prod.fst = dispatch.stored ∨
        (∃ earlier call, dispatch.ran = earlier ++ [call] ∧
          dispatch.mode.stops call.2 = true) ∨
        (dispatch.mode = .parallel ∧
          ∃ message, dispatch.result = some (.error (.threadSpawn dispatch.name message))))

/-- The handlers of the active ones of some subscriptions to an event. -/
def liveHandlers (subscriptions : List Handed) (name : String) : List RegisteredHandler :=
  (subscriptions.filter fun handed =>
    handed.subscription.active && handed.subscription.eventName == name).map Handed.handler

variable (system : BusSystem π)

namespace BusSystem

/-- The handlers of the active subscriptions to an event, in the order in which they
were registered. -/
def live (name : String) : List RegisteredHandler :=
  liveHandlers system.subscriptions name

/-- What holds of the bus and its dispatches between any two steps. -/
structure Contract : Prop where
  filled : ∀ name definition, system.bus.definitions.lookup name = some definition →
    definition.handlers ≠ []
  oneMode : ∀ name definition, system.bus.definitions.lookup name = some definition →
    ∀ handler ∈ definition.handlers, handler.mode = definition.mode
  runs : ∀ dispatch ∈ system.dispatches, dispatch.RunsStored
  stored : system.draws ≤ idCount → ∀ name, system.bus.stored name = system.live name
  distinct : system.draws ≤ idCount → ∀ name,
    ((system.bus.stored name).map RegisteredHandler.id).Nodup
  once : system.draws ≤ idCount → ∀ dispatch ∈ system.dispatches,
    (dispatch.stored.map RegisteredHandler.id).Nodup

/-- What holds of one step: a rejected registration leaves the definitions alone, and a
dispatch begins with the handlers that are stored. -/
structure StepContract (action : BusAction π) : Prop where
  rejected : ∀ index name payloadType mode id error bus,
    action = .register index name payloadType mode → system.drawn[index]? = some id →
    (EventBus.register name payloadType mode ⟨mode, id, payloadType⟩).exec system.bus =
      (.error error, bus) →
    (system.step action).bus.definitions = system.bus.definitions
  begins : ∀ mode name payloadType payload,
    action = .dispatch mode name payloadType payload →
    (system.step action).dispatches = system.dispatches ∨
      ∃ dispatch, (system.step action).dispatches = system.dispatches ++ [dispatch] ∧
        dispatch.mode = mode ∧ dispatch.stored = system.bus.stored name

end BusSystem

/-- Every definition has handlers, all of its mode and for its payload type. -/
structure EventBus.Sound (bus : EventBus) : Prop where
  filled : ∀ name definition, bus.definitions.lookup name = some definition →
    definition.handlers ≠ []
  alike : ∀ name definition, bus.definitions.lookup name = some definition →
    ∀ handler ∈ definition.handlers, handler.mode = definition.mode ∧
      handler.payloadType.id = definition.payloadType.id

variable {definition : EventDefinition} {name : String} {payloadType : PayloadType}

namespace EventBus

@[simp] theorem lookup_define (bus : EventBus) (name : String)
    (definition : EventDefinition) :
    (bus.define name definition).definitions.lookup name = some definition :=
  AList.lookup_insert _

variable {bus : EventBus}

@[simp] theorem lookup_define_ne {other : String}
    (different : other ≠ name) :
    (bus.define name definition).definitions.lookup other =
      bus.definitions.lookup other :=
  AList.lookup_insert_ne different

@[simp] theorem stored_define (bus : EventBus) (name : String)
    (definition : EventDefinition) :
    (bus.define name definition).stored name = definition.handlers := by
  simp [stored]

theorem stored_define_ne {other : String}
    (different : other ≠ name) :
    (bus.define name definition).stored other = bus.stored other := by
  simp [stored, different]

theorem stored_of_lookup (found : bus.definitions.lookup name = some definition) :
    bus.stored name = definition.handlers := by
  simp [stored, found]

/-- A definition of its own kind keeps the bus sound. -/
theorem Sound.define (sound : bus.Sound)
    (filled : definition.handlers ≠ [])
    (alike : ∀ handler ∈ definition.handlers, handler.mode = definition.mode ∧
      handler.payloadType.id = definition.payloadType.id) :
    (bus.define name definition).Sound := by
  constructor
  · intro other found lookup
    by_cases same : other = name
    · subst same
      rw [lookup_define, Option.some.injEq] at lookup
      rwa [← lookup]
    · rw [lookup_define_ne same] at lookup
      exact sound.filled other found lookup
  · intro other found lookup
    by_cases same : other = name
    · subst same
      rw [lookup_define, Option.some.injEq] at lookup
      rwa [← lookup]
    · rw [lookup_define_ne same] at lookup
      exact sound.alike other found lookup

/-- What a registration does: an error changes nothing, and a success adds the handler
at the end of the list of a definition of its kind. -/
inductive Registered (bus : EventBus) (name : String) (payloadType : PayloadType)
    (mode : EventMode) (handler : RegisteredHandler) :
    Except EventError Subscription → EventBus → Prop
  | rejected (error : EventError) :
      Registered bus name payloadType mode handler (.error error) bus
  | accepted (definition : EventDefinition)
      (handlers : definition.handlers = bus.stored name ++ [handler])
      (ofMode : definition.mode = mode)
      (ofType : definition.payloadType.id = payloadType.id)
      (kept : ∀ old, bus.definitions.lookup name = some old →
        old.mode = mode ∧ old.payloadType.id = payloadType.id) :
      Registered bus name payloadType mode handler (.ok ⟨name, handler.id, true⟩)
        (bus.define name definition)

theorem register_registered (bus : EventBus) (name : String) (payloadType : PayloadType)
    (mode : EventMode) (handler : RegisteredHandler) :
    (register name payloadType mode handler).wp
      (Registered bus name payloadType mode handler) bus := by
  unfold register
  simp only [wp_bind, wp_throwIf, andThen_error,
    andThen_ok, wp_get]
  refine ⟨fun _ => .rejected _, fun _ => ?_⟩
  cases found : bus.definitions.lookup name with
  | none =>
      simp only [wp_bind, wp_throwIf, andThen_error,
        andThen_ok, wp_modify, wp_pure]
      refine ⟨fun _ => .rejected _, fun _ => .accepted _ ?_ rfl rfl ?_⟩
      · simp [stored, found]
      · simp [found]
  | some definition =>
      simp only [wp_bind, wp_throwIf, andThen_error,
        andThen_ok, wp_modify, wp_pure]
      refine ⟨fun _ => .rejected _, fun sameType => ⟨fun _ => .rejected _, fun sameMode =>
        ⟨fun _ => .rejected _, fun _ => ?_⟩⟩⟩
      rw [ne_eq, Decidable.not_not] at sameType sameMode
      refine .accepted _ ?_ sameMode sameType ?_
      · rw [stored_of_lookup found]
      · rintro old same
        rw [found, Option.some.injEq] at same
        rw [← same]
        exact ⟨sameMode, sameType⟩

theorem Sound.stored_alike (sound : bus.Sound)
    {mode : EventMode}
    (kept : ∀ old, bus.definitions.lookup name = some old →
      old.mode = mode ∧ old.payloadType.id = payloadType.id) :
    ∀ handler ∈ bus.stored name, handler.mode = mode ∧
      handler.payloadType.id = payloadType.id := by
  intro handler member
  cases found : bus.definitions.lookup name with
  | none => simp [stored, found] at member
  | some definition =>
      rw [stored_of_lookup found] at member
      have same := sound.alike name definition found handler member
      have asked := kept definition found
      exact ⟨same.1.trans asked.1, same.2.trans asked.2⟩

theorem Sound.registered {after : EventBus} (sound : bus.Sound)
    {mode : EventMode} {id : HandlerId}
    {result : Except EventError Subscription}
    (registered : Registered bus name payloadType mode ⟨mode, id, payloadType⟩ result after) :
    after.Sound := by
  cases registered with
  | rejected => exact sound
  | accepted definition handlers ofMode ofType kept =>
      apply sound.define
      · simp [handlers]
      · intro handler member
        rw [handlers, List.mem_append, List.mem_singleton] at member
        rw [ofMode, ofType]
        rcases member with member | rfl
        · exact sound.stored_alike kept handler member
        · exact ⟨rfl, rfl⟩

/-- Removal filters the handlers of its event. -/
theorem stored_remove (bus : EventBus) (name other : String) (id : HandlerId) :
    (bus.remove name id).stored other =
      if other = name then (bus.stored name).filter fun handler => handler.id != id
      else bus.stored other := by
  unfold remove
  cases found : bus.definitions.lookup name with
  | none =>
      by_cases same : other = name
      · subst same
        simp [stored, found]
      · simp [same]
  | some definition =>
      dsimp only
      rw [stored_of_lookup found]
      split
      · rename_i empty
        rw [List.isEmpty_iff] at empty
        by_cases same : other = name
        · subst same
          simp [stored, empty]
        · simp [same, stored, AList.lookup_erase_ne]
      · by_cases same : other = name
        · simp [same]
        · rw [if_neg same, stored_define_ne same]

@[simp] theorem nextHandler_remove (bus : EventBus) (name : String) (id : HandlerId) :
    (bus.remove name id).nextHandler = bus.nextHandler := by
  unfold remove
  split
  · rfl
  · dsimp only
    split <;> rfl

theorem Sound.remove (sound : bus.Sound) (name : String)
    (id : HandlerId) :
    (bus.remove name id).Sound := by
  unfold EventBus.remove
  cases found : bus.definitions.lookup name with
  | none => exact sound
  | some definition =>
      dsimp only
      split
      · have kept : ∀ other definition, AList.lookup other (bus.definitions.erase name) =
            some definition → bus.definitions.lookup other = some definition := by
          intro other definition lookup
          by_cases same : other = name
          · subst same
            simp at lookup
          · rwa [AList.lookup_erase_ne same] at lookup
        exact ⟨fun other definition lookup => sound.filled _ _ (kept _ _ lookup),
          fun other definition lookup => sound.alike _ _ (kept _ _ lookup)⟩
      · rename_i filled
        apply sound.define
        · simpa using filled
        · intro handler member
          exact sound.alike name definition found handler (List.mem_filter.mp member).1

/-- The copy of the handler list is what is stored, and its handlers are of the kind
that was asked for. -/
theorem handlers_copy (sound : bus.Sound) (name : String)
    (payloadType : PayloadType) (mode : EventMode) :
    (handlers name payloadType mode).wp
      (fun result after => after = bus ∧ ∀ copy, result = .ok copy →
        copy = bus.stored name ∧ ∀ handler ∈ bus.stored name, handler.mode = mode ∧
          handler.payloadType.id = payloadType.id) bus := by
  unfold handlers
  simp only [wp_bind, wp_throwIf, andThen_error,
    andThen_ok, wp_get]
  refine ⟨fun _ => ⟨trivial, by simp⟩, fun _ => ?_⟩
  cases found : bus.definitions.lookup name with
  | none =>
      refine ⟨rfl, fun copy same => ?_⟩
      cases same
      simp [stored, found]
  | some definition =>
      simp only [wp_bind, wp_throwIf, andThen_error,
        andThen_ok, wp_pure]
      refine ⟨fun _ => ⟨trivial, by simp⟩, fun sameType => ⟨fun _ => ⟨trivial, by simp⟩,
        fun sameMode => ⟨trivial, fun copy same => ?_⟩⟩⟩
      rw [ne_eq, Decidable.not_not] at sameType sameMode
      cases same
      refine ⟨(stored_of_lookup found).symm, sound.stored_alike fun old again => ?_⟩
      rw [found, Option.some.injEq] at again
      rw [← again]
      exact ⟨sameMode, sameType⟩

end EventBus

variable {handler : RegisteredHandler}

namespace Dispatch

/-- The handlers of a dispatch are of its kind, an unfinished one has split them into
those that ran, run and wait, and none of its outcomes stopped it. -/
structure Sound (dispatch : Dispatch π) : Prop where
  alike : ∀ handler ∈ dispatch.stored, handler.mode = dispatch.mode ∧
    dispatch.accepts handler = true
  sequential : dispatch.mode ≠ .parallel → dispatch.running = []
  split : dispatch.result = none →
    dispatch.stored = dispatch.ran.map Prod.fst ++ dispatch.running ++ dispatch.pending ∧
      ∀ call ∈ dispatch.ran, dispatch.mode.stops call.2 = false
  runs : dispatch.RunsStored

/-- The state of a dispatch between two calls: nothing runs, nothing stopped it. -/
structure Between (dispatch : Dispatch π) (rest : List RegisteredHandler) : Prop where
  alike : ∀ handler ∈ dispatch.stored, handler.mode = dispatch.mode ∧
    dispatch.accepts handler = true
  idle : dispatch.running = []
  split : dispatch.stored = dispatch.ran.map Prod.fst ++ rest
  quiet : ∀ call ∈ dispatch.ran, dispatch.mode.stops call.2 = false

variable {dispatch : Dispatch π} {rest : List RegisteredHandler}

theorem Between.goOn (between : dispatch.Between rest) :
    (dispatch.goOn rest).Sound where
  alike := between.alike
  sequential _ := between.idle
  split _ := by
    refine ⟨?_, between.quiet⟩
    change dispatch.stored = dispatch.ran.map Prod.fst ++ dispatch.running ++ rest
    rw [between.idle, List.append_nil]
    exact between.split
  runs := by
    refine ⟨?_, ?_, fun returned => ⟨between.idle, .inl ?_⟩⟩
    · change dispatch.ran.map Prod.fst ++ dispatch.running <+: dispatch.stored
      rw [between.idle, List.append_nil, between.split]
      exact List.prefix_append _ _
    · intro earlier call later split stops
      change dispatch.ran = earlier ++ call :: later at split
      change dispatch.mode.stops call.2 = true at stops
      rw [between.quiet call (by rw [split]; simp)] at stops
      cases stops
    · have ended : rest = [] := by
        by_contra waiting
        simp [Dispatch.goOn, waiting] at returned
      change dispatch.ran.map Prod.fst = dispatch.stored
      rw [between.split, ended, List.append_nil]

/-- A dispatch whose last outcome stops it. -/
theorem Between.stopped {outcome : HandlerOutcome}
    (between : dispatch.Between (handler :: rest))
    (stops : dispatch.mode.stops outcome = true)
    (payload : π) (firstError : Option EventError)
    (result : Except EventError (DispatchValue π)) :
    Sound { dispatch with
      ran := dispatch.ran ++ [(handler, outcome)], payload, firstError
      result := some result } where
  alike := between.alike
  sequential _ := between.idle
  split unfinished := by cases unfinished
  runs := by
    refine ⟨?_, ?_, fun _ => ⟨between.idle, .inr (.inl ⟨dispatch.ran, _, rfl, stops⟩)⟩⟩
    · refine ⟨rest, ?_⟩
      simp [between.idle, between.split]
    · intro earlier call later split stopsEarlier
      refine ⟨?_, between.idle⟩
      by_contra more
      obtain ⟨front, last, rfl⟩ : ∃ front last, later = front ++ [last] :=
        ⟨_, _, (List.dropLast_append_getLast more).symm⟩
      change dispatch.ran ++ [(handler, outcome)] = _ at split
      rw [← List.cons_append, ← List.append_assoc] at split
      have ran := (List.append_inj' split rfl).1
      rw [between.quiet call (by rw [ran]; simp)] at stopsEarlier
      cases stopsEarlier

/-- A call whose outcome does not stop the dispatch. -/
theorem Between.called {outcome : HandlerOutcome}
    (between : dispatch.Between (handler :: rest))
    (goesOn : dispatch.mode.stops outcome = false)
    (payload : π) (firstError : Option EventError) :
    Between { dispatch with
      ran := dispatch.ran ++ [(handler, outcome)], payload, firstError } rest where
  alike := between.alike
  idle := between.idle
  split := by simp [between.split]
  quiet call member := by
    rcases List.mem_append.mp member with member | member
    · exact between.quiet call member
    · rw [List.mem_singleton.mp member]
      exact goesOn

/-- A dispatch that waits for the return of its first handler. -/
theorem Sound.between (sound : dispatch.Sound)
    (sequential : dispatch.mode ≠ .parallel) (unfinished : dispatch.result = none) :
    dispatch.Between dispatch.pending where
  alike := sound.alike
  idle := sound.sequential sequential
  split := by
    rw [(sound.split unfinished).1, sound.sequential sequential, List.append_nil]
  quiet := (sound.split unfinished).2

section Sequential

variable {dispatch : Dispatch π} {handler : RegisteredHandler}
variable {rest : List RegisteredHandler}

/-- The dispatch with the return of its handler noted. -/
def noted (dispatch : Dispatch π) (handler : RegisteredHandler)
    (outcome : HandlerOutcome) : Dispatch π :=
  { dispatch with ran := dispatch.ran ++ [(handler, outcome)] }

theorem Between.emit (between : dispatch.Between (handler :: rest))
    (mode : dispatch.mode = .emit) (returned : HandlerReturn π) :
    ((dispatch.noted handler returned.outcome).emit handler rest returned).Sound := by
  have goesOn : dispatch.mode.stops returned.outcome = false := by
    rw [mode]
    rfl
  exact (between.called goesOn dispatch.payload _).goOn

theorem Between.waterfall (between : dispatch.Between (handler :: rest))
    (mode : dispatch.mode = .waterfall) (returned : HandlerReturn π) :
    ((dispatch.noted handler returned.outcome).waterfall handler rest returned).Sound := by
  unfold Dispatch.waterfall
  rcases returned with ⟨outcome, payload⟩
  cases outcome with
  | done | handled => exact (between.called (by rw [mode]; rfl) payload _).goOn
  | failed | panicked => exact between.stopped (by rw [mode]; rfl) dispatch.payload _ _

theorem Between.serial (between : dispatch.Between (handler :: rest))
    (mode : dispatch.mode = .serial) (returned : HandlerReturn π) :
    ((dispatch.noted handler returned.outcome).serial handler rest returned).Sound := by
  unfold Dispatch.serial
  rcases returned with ⟨outcome, payload⟩
  cases outcome with
  | done | handled => exact (between.called (by rw [mode]; rfl) payload _).goOn
  | failed | panicked => exact between.stopped (by rw [mode]; rfl) payload _ _

theorem Between.bail (between : dispatch.Between (handler :: rest))
    (mode : dispatch.mode = .bail) (returned : HandlerReturn π) :
    ((dispatch.noted handler returned.outcome).bail handler rest returned).Sound := by
  unfold Dispatch.bail
  rcases returned with ⟨outcome, payload⟩
  cases outcome with
  | done => exact (between.called (by rw [mode]; rfl) dispatch.payload _).goOn
  | handled | failed | panicked =>
      exact between.stopped (by rw [mode]; rfl) dispatch.payload _ _

theorem Sound.advance (sound : dispatch.Sound) (returned : HandlerReturn π) :
    (dispatch.advance returned).Sound := by
  unfold Dispatch.advance
  split
  · rename_i first others unfinished pending
    have stored : first ∈ dispatch.stored := by
      rw [(sound.split unfinished).1, pending]
      simp
    obtain ⟨ofMode, accepted⟩ := sound.alike first stored
    have outcome : dispatch.outcomeOf first returned.outcome = returned.outcome :=
      if_pos accepted
    have reached : dispatch.reached [first] (fun _ => returned.outcome) =
        [(first, returned.outcome)] := by
      simp [Dispatch.reached, accepted]
    have between (sequential : dispatch.mode ≠ .parallel) :
        dispatch.Between (first :: others) := by
      rw [← pending]
      exact sound.between sequential unfinished
    rw [if_neg (not_not_intro ofMode)]
    dsimp only
    rw [outcome, reached]
    cases mode : dispatch.mode with
    | emit =>
        simpa only [Dispatch.noted, mode] using
          (between (by simp [mode])).emit mode returned
    | waterfall =>
        simpa only [Dispatch.noted, mode] using
          (between (by simp [mode])).waterfall mode returned
    | serial =>
        simpa only [Dispatch.noted, mode] using
          (between (by simp [mode])).serial mode returned
    | bail =>
        simpa only [Dispatch.noted, mode] using
          (between (by simp [mode])).bail mode returned
    | parallel => exact sound
  · exact sound

end Sequential

theorem stored_advance (dispatch : Dispatch π) (returned : HandlerReturn π) :
    (dispatch.advance returned).stored = dispatch.stored := by
  unfold Dispatch.advance
  split
  · split
    · rfl
    · dsimp only
      split
      · rfl
      · unfold Dispatch.waterfall
        split <;> rfl
      · unfold Dispatch.serial
        split <;> rfl
      · unfold Dispatch.bail
        split <;> rfl
      · rfl
  · rfl

/-- Joining moves the handlers of the batch to those that ran. -/
theorem ran_joined (sound : dispatch.Sound)
    (unfinished : dispatch.result = none)
    (outcomes : RegisteredHandler → HandlerOutcome) :
    (dispatch.joined outcomes).ran.map Prod.fst =
      dispatch.ran.map Prod.fst ++ dispatch.running := by
  have accepted : dispatch.running.filter dispatch.accepts = dispatch.running := by
    apply List.filter_eq_self.mpr
    intro handler member
    refine (sound.alike handler ?_).2
    rw [(sound.split unfinished).1]
    simp [member]
  simp [joined, reached, accepted, Function.comp_def]

theorem Sound.joined (sound : dispatch.Sound)
    (parallel : dispatch.mode = .parallel) (unfinished : dispatch.result = none)
    (outcomes : RegisteredHandler → HandlerOutcome) :
    (dispatch.joined outcomes).Between dispatch.pending where
  alike := sound.alike
  idle := rfl
  split := by
    rw [ran_joined sound unfinished]
    exact (sound.split unfinished).1
  quiet call _ := by
    change dispatch.mode.stops call.2 = false
    rw [parallel]
    rfl

theorem Sound.join (sound : dispatch.Sound)
    (outcomes : RegisteredHandler → HandlerOutcome) :
    (dispatch.join outcomes).Sound := by
  unfold Dispatch.join
  split
  · rename_i parallel unfinished
    split
    · exact (sound.joined parallel unfinished outcomes).goOn
    · exact sound
  · exact sound

/-- A dispatch that could not spawn a thread returns with the rest not run. -/
theorem Between.unspawned
    (between : dispatch.Between rest) (parallel : dispatch.mode = .parallel)
    (message : String) :
    (dispatch.stop (.error (.threadSpawn dispatch.name message))).Sound where
  alike := between.alike
  sequential _ := between.idle
  split unfinished := by cases unfinished
  runs := by
    refine ⟨⟨rest, ?_⟩, ?_, fun _ => ⟨between.idle, .inr (.inr ⟨parallel, message, rfl⟩)⟩⟩
    · simp [stop, between.idle, between.split]
    · intro earlier call later _ stops
      change dispatch.mode.stops call.2 = true at stops
      rw [parallel] at stops
      cases stops

theorem Sound.spawn (sound : dispatch.Sound)
    (failure : Option String) (outcomes : RegisteredHandler → HandlerOutcome) :
    (dispatch.spawn failure outcomes).Sound := by
  unfold Dispatch.spawn
  split
  · rename_i handler rest parallel unfinished pending
    split
    · exact sound
    · cases failure with
      | some message =>
          exact (sound.joined parallel unfinished outcomes).unspawned parallel message
      | none =>
          have split := (sound.split unfinished).1
          rw [pending] at split
          refine ⟨sound.alike, fun sequential => absurd parallel sequential, fun _ =>
            ⟨?_, (sound.split unfinished).2⟩, ⟨rest, ?_⟩, ?_, fun returned => ?_⟩
          · simp [split]
          · simp [split]
          · intro earlier call later _ stops
            change dispatch.mode.stops call.2 = true at stops
            rw [parallel] at stops
            cases stops
          · change dispatch.result.isSome = true at returned
            rw [unfinished] at returned
            cases returned
  · exact sound

theorem stored_spawn (dispatch : Dispatch π) (failure : Option String)
    (outcomes : RegisteredHandler → HandlerOutcome) :
    (dispatch.spawn failure outcomes).stored = dispatch.stored := by
  unfold Dispatch.spawn
  split
  · split
    · rfl
    · cases failure <;> rfl
  · rfl

theorem stored_join (dispatch : Dispatch π)
    (outcomes : RegisteredHandler → HandlerOutcome) :
    (dispatch.join outcomes).stored = dispatch.stored := by
  unfold Dispatch.join
  split
  · split <;> rfl
  · rfl

theorem sound_start {mode : EventMode}
    (payload : π) {stored : List RegisteredHandler}
    (alike : ∀ handler ∈ stored, handler.mode = mode ∧
      handler.payloadType.id = payloadType.id) :
    (start mode name payloadType payload stored stored).Sound := by
  have accepted : ∀ handler ∈ stored, handler.mode = mode ∧
      (handler.payloadType.id == payloadType.id) = true := by
    intro handler member
    simpa using alike handler member
  unfold start
  split
  · rename_i parallel
    subst parallel
    have all : stored.filter (fun handler => handler.mode == EventMode.parallel) = stored := by
      apply List.filter_eq_self.mpr
      intro handler member
      simpa using (alike handler member).1
    rw [all]
    exact Between.goOn ⟨accepted, rfl, rfl, by simp⟩
  · exact Between.goOn ⟨accepted, rfl, rfl, by simp⟩

end Dispatch

@[simp] theorem liveHandlers_append (first second : List Handed) (name : String) :
    liveHandlers (first ++ second) name =
      liveHandlers first name ++ liveHandlers second name := by
  simp [liveHandlers]

theorem liveHandlers_cons (handed : Handed) (rest : List Handed) (name : String) :
    liveHandlers (handed :: rest) name =
      (if handed.subscription.active && handed.subscription.eventName == name then
        [handed.handler] else []) ++ liveHandlers rest name := by
  unfold liveHandlers
  rw [List.filter_cons]
  split <;> rfl

/-- Filtering out an id that no subscription has changes nothing. -/
theorem liveHandlers_filter {subscriptions : List Handed} {id : HandlerId}
    (apart : ∀ handed ∈ subscriptions, handed.handler.id ≠ id) (name : String) :
    (liveHandlers subscriptions name).filter (fun handler => handler.id != id) =
      liveHandlers subscriptions name := by
  apply List.filter_eq_self.mpr
  intro handler member
  obtain ⟨handed, kept, rfl⟩ := List.mem_map.mp member
  simpa using apart handed (List.mem_filter.mp kept).1

namespace BusSystem

/-- The ids that have been drawn and can still be told apart by their users. -/
def ids : List HandlerId :=
  system.drawn ++ system.subscriptions.map fun handed => handed.handler.id

/-- What every step keeps.  Ids stay apart, and stored handlers in step with the
subscriptions, until the counter has wrapped around. -/
structure Sound (system : BusSystem π) : Prop where
  bus : system.bus.Sound
  counter : system.bus.nextHandler = system.draws % idCount
  handed : ∀ handed ∈ system.subscriptions,
    handed.subscription.handlerId = handed.handler.id
  dispatches : ∀ dispatch ∈ system.dispatches, dispatch.Sound
  apart : system.draws ≤ idCount → system.ids.Nodup ∧ ∀ id ∈ system.ids, id < system.draws
  inStep : system.draws ≤ idCount → ∀ name, system.bus.stored name = system.live name
  once : system.draws ≤ idCount → ∀ dispatch ∈ system.dispatches,
    (dispatch.stored.map RegisteredHandler.id).Nodup

variable {system : BusSystem π}

/-- Stored handlers have different ids while ids are kept apart. -/
theorem Sound.distinct (sound : system.Sound)
    (few : system.draws ≤ idCount) (name : String) :
    ((system.bus.stored name).map RegisteredHandler.id).Nodup := by
  have apart := (sound.apart few).1
  rw [sound.inStep few name, live, liveHandlers, List.map_map]
  refine List.Nodup.sublist ?_ apart
  refine (List.Sublist.map _ List.filter_sublist).trans ?_
  exact List.sublist_append_right _ _

theorem Sound.contract (sound : system.Sound) : system.Contract where
  filled := sound.bus.filled
  oneMode name definition found handler member :=
    (sound.bus.alike name definition found handler member).1
  runs dispatch member := (sound.dispatches dispatch member).runs
  stored := sound.inStep
  distinct := sound.distinct
  once := sound.once

theorem sound_new : (new : BusSystem π).Sound where
  bus := ⟨by simp [new, EventBus.new], by simp [new, EventBus.new]⟩
  counter := rfl
  handed := by simp [new]
  dispatches := by simp [new]
  apart _ := by simp [new, ids]
  inStep _ name := by simp [new, EventBus.new, EventBus.stored, live, liveHandlers]
  once _ := by simp [new]

theorem Sound.draw (sound : system.Sound) : system.draw.Sound where
  bus := ⟨sound.bus.filled, sound.bus.alike⟩
  counter := by
    simp only [BusSystem.draw, EventBus.nextHandlerId, sound.counter, Nat.mod_add_mod]
  handed := sound.handed
  dispatches := sound.dispatches
  apart few := by
    have fewer : system.draws < idCount := few
    obtain ⟨nodup, below⟩ := sound.apart fewer.le
    have fresh : system.bus.nextHandler = system.draws := by
      rw [sound.counter, Nat.mod_eq_of_lt fewer]
    have perm : List.Perm system.draw.ids (system.draws :: system.ids) := by
      simp only [ids, BusSystem.draw, EventBus.nextHandlerId, fresh, List.append_assoc,
        List.singleton_append]
      exact List.perm_middle
    constructor
    · rw [perm.nodup_iff, List.nodup_cons]
      exact ⟨fun again => (below _ again).false, nodup⟩
    · intro id member
      rw [perm.mem_iff, List.mem_cons] at member
      change id < system.draws + 1
      rcases member with rfl | member
      · exact Nat.lt_succ_self _
      · exact Nat.lt_succ_of_lt (below id member)
  inStep few := sound.inStep (Nat.le_of_succ_le few)
  once few := sound.once (Nat.le_of_succ_le few)

theorem Sound.onDispatch (sound : system.Sound) (index : Nat)
    {change : Dispatch π → Dispatch π}
    (keeps : ∀ dispatch : Dispatch π, dispatch.Sound → (change dispatch).Sound)
    (stored : ∀ dispatch : Dispatch π, (change dispatch).stored = dispatch.stored) :
    (system.onDispatch index change).Sound where
  bus := sound.bus
  counter := sound.counter
  handed := sound.handed
  dispatches dispatch member := by
    obtain ⟨position, found⟩ := List.mem_iff_getElem?.mp member
    simp only [BusSystem.onDispatch, List.getElem?_modify] at found
    obtain ⟨old, atOld, rfl⟩ := Option.map_eq_some_iff.mp found
    have soundOld := sound.dispatches old (List.mem_of_getElem? atOld)
    split
    · exact keeps old soundOld
    · exact soundOld
  apart := sound.apart
  inStep := sound.inStep
  once few dispatch member := by
    obtain ⟨position, found⟩ := List.mem_iff_getElem?.mp member
    simp only [BusSystem.onDispatch, List.getElem?_modify] at found
    obtain ⟨old, atOld, rfl⟩ := Option.map_eq_some_iff.mp found
    have onceOld := sound.once few old (List.mem_of_getElem? atOld)
    split
    · rw [stored]
      exact onceOld
    · exact onceOld

theorem Sound.dispatch (sound : system.Sound) (mode : EventMode)
    (name : String) (payloadType : PayloadType) (payload : π) :
    (system.dispatch mode name payloadType payload).Sound := by
  have copies := EventBus.handlers_copy sound.bus name payloadType mode
  unfold BusSystem.dispatch wp at *
  generalize (EventBus.handlers name payloadType mode).exec system.bus = ran at copies ⊢
  obtain ⟨result, bus⟩ := ran
  obtain ⟨rfl, copied⟩ := copies
  cases result with
  | error error => exact sound
  | ok handlers =>
      obtain ⟨rfl, alike⟩ := copied handlers rfl
      refine ⟨sound.bus, sound.counter, sound.handed, ?_, sound.apart, sound.inStep, ?_⟩
      · intro dispatch member
        rcases List.mem_append.mp member with member | member
        · exact sound.dispatches dispatch member
        · rw [List.mem_singleton.mp member]
          exact Dispatch.sound_start payload alike
      · intro few dispatch member
        rcases List.mem_append.mp member with member | member
        · exact sound.once few dispatch member
        · rw [List.mem_singleton.mp member]
          exact sound.distinct few name

theorem live_accept (system : BusSystem π) (index : Nat) (bus : EventBus)
    (handed : Handed) (name : String) :
    (system.accept index bus handed).live name =
      system.live name ++
        if handed.subscription.active && handed.subscription.eventName == name then
          [handed.handler] else [] := by
  simp only [live, accept, liveHandlers_append, liveHandlers_cons]
  rw [show liveHandlers [] name = [] from rfl, List.append_nil]

/-- The id of an accepted registration moves from the drawn ids to the subscriptions. -/
theorem ids_accept (system : BusSystem π) {index : Nat} (bus : EventBus) {handed : Handed}
    (drawn : system.drawn[index]? = some handed.handler.id) :
    List.Perm (system.accept index bus handed).ids system.ids := by
  obtain ⟨inRange, same⟩ := List.getElem?_eq_some_iff.mp drawn
  simp only [ids, accept, List.map_append, List.map_cons, List.map_nil]
  rw [← List.append_assoc, ← same]
  refine (List.perm_append_singleton _ _).trans ?_
  rw [← List.cons_append]
  exact (List.getElem_cons_eraseIdx_perm inRange).append_right _

theorem Sound.accept (sound : system.Sound) {index : Nat}
    (drawn : system.drawn[index]? = some handler.id)
    (handlers : definition.handlers = system.bus.stored name ++ [handler])
    (soundBus : (system.bus.define name definition).Sound) :
    (system.accept index (system.bus.define name definition)
      ⟨⟨name, handler.id, true⟩, handler⟩).Sound where
  bus := soundBus
  counter := sound.counter
  handed handed member := by
    rcases List.mem_append.mp member with member | member
    · exact sound.handed handed member
    · rw [List.mem_singleton.mp member]
  dispatches := sound.dispatches
  apart few := by
    obtain ⟨nodup, below⟩ := sound.apart few
    have moved := ids_accept system (system.bus.define name definition)
      (show system.drawn[index]? =
        some (Handed.mk ⟨name, handler.id, true⟩ handler).handler.id from drawn)
    exact ⟨moved.nodup_iff.mpr nodup, fun id member => below id (moved.mem_iff.mp member)⟩
  inStep few other := by
    rw [live_accept, ← sound.inStep few other]
    change (system.bus.define name definition).stored other = _
    by_cases same : other = name
    · subst same
      rw [EventBus.stored_define, handlers]
      simp
    · rw [EventBus.stored_define_ne same]
      simp [Ne.symm same]
  once := sound.once

theorem Sound.registerDrawn (sound : system.Sound) (index : Nat)
    (name : String) (payloadType : PayloadType) (mode : EventMode) :
    (system.registerDrawn index name payloadType mode).Sound := by
  unfold BusSystem.registerDrawn
  cases drawn : system.drawn[index]? with
  | none => exact sound
  | some id =>
      have registered := EventBus.register_registered system.bus name payloadType mode
        ⟨mode, id, payloadType⟩
      unfold wp at registered
      dsimp only
      generalize (EventBus.register name payloadType mode ⟨mode, id, payloadType⟩).exec
        system.bus = ran at registered ⊢
      obtain ⟨result, bus⟩ := ran
      have soundBus := sound.bus.registered registered
      cases registered with
      | rejected error =>
          refine ⟨soundBus, sound.counter, sound.handed, sound.dispatches, fun few => ?_,
            sound.inStep, sound.once⟩
          obtain ⟨nodup, below⟩ := sound.apart few
          have kept : (system.drawn.eraseIdx index ++
              system.subscriptions.map fun handed => handed.handler.id).Sublist
              system.ids :=
            (List.eraseIdx_sublist _ _).append_right _
          exact ⟨nodup.sublist kept, fun id member => below id (kept.subset member)⟩
      | accepted definition handlers ofMode ofType kept =>
          exact sound.accept drawn handlers soundBus

/-- Ending a subscription removes its handler, unless it had already ended. -/
def Ends (ends : Subscription → EventBus → Subscription × EventBus) : Prop :=
  ∀ subscription bus,
    ends subscription bus = ({ subscription with active := false },
      bus.remove subscription.eventName subscription.handlerId) ∨
    (subscription.active = false ∧ ends subscription bus = (subscription, bus))

theorem ends_unsubscribe : Ends Subscription.unsubscribe := by
  intro subscription bus
  unfold Subscription.unsubscribe
  by_cases active : subscription.active = true
  · exact .inl (if_pos active)
  · exact .inr ⟨by simpa using active, if_neg active⟩

theorem ends_drop : Ends Subscription.drop :=
  fun _ _ => .inl rfl

/-- The system with one subscription replaced by an ended one and its handler removed. -/
theorem Sound.ended (sound : system.Sound) {index : Nat}
    {handed : Handed} (atIndex : system.subscriptions[index]? = some handed) :
    Sound { system with
      bus := system.bus.remove handed.subscription.eventName handed.subscription.handlerId
      subscriptions := system.subscriptions.set index
        ⟨{ handed.subscription with active := false }, handed.handler⟩ } := by
  obtain ⟨inRange, rfl⟩ := List.getElem?_eq_some_iff.mp atIndex
  generalize ended : (⟨{ system.subscriptions[index].subscription with active := false },
    system.subscriptions[index].handler⟩ : Handed) = after
  obtain ⟨front, back, split, -, replaced⟩ :
      ∃ front back, system.subscriptions = front ++ system.subscriptions[index] :: back ∧
        front.length = index ∧ system.subscriptions.set index after = front ++ after :: back :=
    List.exists_of_set inRange
  generalize system.subscriptions[index] = handed at split ended
  subst ended
  rw [replaced]
  have sameId := sound.handed handed (by rw [split]; simp)
  have sameIds : (ids { system with
      bus := system.bus.remove handed.subscription.eventName handed.subscription.handlerId
      subscriptions := front ++
        ⟨{ handed.subscription with active := false }, handed.handler⟩ :: back }) =
      system.ids := by
    simp [ids, split]
  refine ⟨sound.bus.remove _ _, ?_, ?_, sound.dispatches, ?_, fun few other => ?_, sound.once⟩
  · rw [EventBus.nextHandler_remove]
    exact sound.counter
  · intro other member
    rw [List.mem_append, List.mem_cons] at member
    rcases member with member | rfl | member
    · exact sound.handed other (by rw [split]; simp [member])
    · exact sameId
    · exact sound.handed other (by rw [split]; simp [member])
  · rw [sameIds]
    exact sound.apart
  · have before := sound.inStep few
    -- The handler of no other subscription has the id.
    have apart : ∀ other ∈ front ++ back, other.handler.id ≠ handed.handler.id := by
      have nodup := ((sound.apart few).1.sublist (List.sublist_append_right _ _))
      rw [split, List.map_append, List.map_cons, List.perm_middle.nodup_iff,
        List.nodup_cons, ← List.map_append] at nodup
      intro other member same
      exact nodup.1 (List.mem_map.mpr ⟨other, member, same⟩)
    have inFront := fun other member => apart other (List.mem_append_left back member)
    have inBack := fun other member => apart other (List.mem_append_right front member)
    rw [EventBus.stored_remove, before, before, sameId]
    simp only [live, split, liveHandlers_append, liveHandlers_cons, Bool.false_and,
      Bool.false_eq_true, if_false, List.nil_append]
    by_cases same : other = handed.subscription.eventName
    · rw [if_pos same, ← same, List.filter_append, List.filter_append,
        liveHandlers_filter inFront, liveHandlers_filter inBack]
      split <;> simp
    · simp [same, Ne.symm same]

theorem Sound.endSubscription (sound : system.Sound) (index : Nat)
    {ends : Subscription → EventBus → Subscription × EventBus} (ended : Ends ends) :
    (system.endSubscription index ends).Sound := by
  unfold BusSystem.endSubscription
  cases atIndex : system.subscriptions[index]? with
  | none => exact sound
  | some handed =>
      dsimp only
      obtain removed | ⟨inactive, unchanged⟩ := ended handed.subscription system.bus
      · rw [removed]
        exact sound.ended atIndex
      · rw [unchanged]
        obtain ⟨inRange, rfl⟩ := List.getElem?_eq_some_iff.mp atIndex
        rw [List.set_getElem_self]
        exact sound

/-- Every step keeps the invariant. -/
theorem Sound.step (sound : system.Sound) (action : BusAction π) :
    (system.step action).Sound := by
  cases action with
  | draw => exact sound.draw
  | register index name payloadType mode => exact sound.registerDrawn index name payloadType mode
  | unsubscribe index => exact sound.endSubscription index ends_unsubscribe
  | drop index => exact sound.endSubscription index ends_drop
  | dispatch mode name payloadType payload =>
      exact sound.dispatch mode name payloadType payload
  | advance index returned =>
      exact sound.onDispatch index (fun _ before => before.advance returned)
        (fun dispatch => dispatch.stored_advance returned)
  | spawn index failure outcomes =>
      exact sound.onDispatch index (fun _ before => before.spawn failure outcomes)
        (fun dispatch => dispatch.stored_spawn failure outcomes)
  | join index outcomes =>
      exact sound.onDispatch index (fun _ before => before.join outcomes)
        (fun dispatch => dispatch.stored_join outcomes)

theorem stepContract (system : BusSystem π) (action : BusAction π) :
    system.StepContract action where
  rejected index name payloadType mode id error bus isRegister drawn refused := by
    have registered := of_wp (EventBus.register_registered system.bus name
      payloadType mode ⟨mode, id, payloadType⟩) refused
    cases registered
    rw [isRegister]
    simp only [BusSystem.step, BusSystem.registerDrawn, drawn, refused]
  begins mode name payloadType payload isDispatch := by
    rw [isDispatch]
    simp only [BusSystem.step, BusSystem.dispatch]
    generalize (EventBus.handlers name payloadType mode).exec system.bus = ran
    obtain ⟨result, bus⟩ := ran
    cases result with
    | error error => exact .inl rfl
    | ok handlers => exact .inr ⟨_, rfl, rfl, rfl⟩

/-- The bus keeps its contract in every run. -/
theorem bus_keeps_contract (actions : List (BusAction π)) :
    Throughout BusSystem.step BusSystem.Contract .new actions ∧
      EachStep BusSystem.step BusSystem.StepContract .new actions := by
  constructor
  · have always := throughout_of_invariant Sound (fun _ action sound => sound.step action)
      sound_new actions
    exact always.mono fun _ sound => sound.contract
  · exact eachStep_of_forall_mem (fun action _ system => stepContract system action) new

/-- A registration that is refused for its name. -/
def refusedAttempt : List (BusAction Unit) :=
  [.draw, .register 0 "" ⟨0, "u32"⟩ .emit]

/-- A registration of a handler for an event. -/
def acceptedAttempt : List (BusAction Unit) :=
  [.draw, .register 0 "test.emit" ⟨0, "u32"⟩ .emit]

/-- The system after some refused registrations. -/
theorem finalState_refused (count : Nat) (system : BusSystem Unit)
    (empty : system.drawn = []) (small : system.bus.nextHandler < idCount) :
    finalState BusSystem.step system (List.replicate count refusedAttempt).flatten =
      { system with
        bus := { system.bus with
          nextHandler := (system.bus.nextHandler + count) % idCount }
        draws := system.draws + count } := by
  induction count generalizing system with
  | zero =>
      rw [List.replicate_zero, List.flatten_nil, finalState_nil, Nat.add_zero,
        Nat.mod_eq_of_lt small, Nat.add_zero]
  | succ count ih =>
      have attempt : finalState BusSystem.step system refusedAttempt =
          { system with
            bus := system.bus.nextHandlerId.2
            draws := system.draws + 1 } := by
        rcases system with ⟨bus, draws, drawn, subscriptions, dispatches⟩
        cases empty
        rfl
      have later := ih
        { system with bus := system.bus.nextHandlerId.2, draws := system.draws + 1 } empty
        (Nat.mod_lt _ (by decide : 0 < idCount))
      rw [List.replicate_succ, List.flatten_cons, finalState_append, attempt, later]
      simp only [EventBus.nextHandlerId, Nat.mod_add_mod]
      rw [Nat.add_assoc system.bus.nextHandler, Nat.add_assoc system.draws,
        Nat.add_comm 1 count]

/-- One registration, as many refused ones as wrap the counter around, and a second
registration for the same event. -/
def wrappingRun : List (BusAction Unit) :=
  acceptedAttempt ++ ((List.replicate (idCount - 1) refusedAttempt).flatten ++
    acceptedAttempt)

/-- After the counter has wrapped around two stored handlers have the same id. -/
theorem ids_repeat_after_wrap : ¬ Throughout BusSystem.step
      (fun system => ∀ name, ((system.bus.stored name).map RegisteredHandler.id).Nodup)
      (.new : BusSystem Unit) wrappingRun := by
  intro holds
  have distinct := holds.last "test.emit"
  have small : (finalState BusSystem.step (.new : BusSystem Unit)
      acceptedAttempt).bus.nextHandler < idCount := by decide
  unfold wrappingRun at distinct
  rw [finalState_append, finalState_append, finalState_refused (idCount - 1) _ rfl small]
    at distinct
  revert distinct
  decide

end BusSystem

end CordisCore
end YunXi
