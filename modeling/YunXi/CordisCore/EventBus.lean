import YunXi.Program.Fallible
import YunXi.Protocol.Text
import Mathlib.Data.List.AList

/-!
# The event bus

A bus maps event names to definitions, each with one payload type, one dispatch
mode and the handlers registered under it.  A dispatch works on a copy of the
handler list and calls user code between its steps, so other registrations,
removals and dispatches may happen while it runs.  `BusSystem` is the bus with
everything its users hold: drawn handler ids, subscriptions and dispatches in
flight, each of which may take the next step at any time.
-/

namespace YunXi
namespace CordisCore

open Fallible

def maxServiceNameBytes : Nat := 128
def maxEventDefinitions : Nat := 256
def maxEventHandlers : Nat := 256
def maxParallelWorkers : Nat := 32
def maxHandlerErrorBytes : Nat := 4096

/-- Number of values of the counters that draw ids, which wrap around. -/
def idCount : Nat := 2 ^ 64

/-- `char::is_control`. -/
def isControl (character : Char) : Bool :=
  character.toNat < 32 || (127 ≤ character.toNat && character.toNat ≤ 159)

/-- The check of `validate_name`. -/
def validName (name : String) : Bool :=
  !(name.isEmpty || maxServiceNameBytes < name.utf8ByteSize ||
    name.toList.any (fun character => 128 ≤ character.toNat) ||
    name.toList.any fun character => isControl character || Protocol.isWhiteSpace character)

abbrev HandlerId := Nat

inductive EventMode
  | emit
  | waterfall
  | parallel
  | serial
  | bail
  deriving DecidableEq, Repr

/-- `TypeId::of::<E>()` with `type_name::<E>()`. -/
structure PayloadType where
  id : Nat
  name : String
  deriving DecidableEq

/-- A registered handler; its variant is the mode it was registered for, and its
callback accepts payloads of one type. -/
structure RegisteredHandler where
  mode : EventMode
  id : HandlerId
  payloadType : PayloadType
  deriving DecidableEq

structure EventDefinition where
  payloadType : PayloadType
  mode : EventMode
  handlers : List RegisteredHandler
  deriving DecidableEq

inductive EventError
  | invalidName (name : String)
  | typeConflict (name registered requested : String)
  | modeConflict (name : String) (registered requested : EventMode)
  | handlerFailed (event : String) (handler : HandlerId) (message : String)
  | handlerPanicked (event : String) (handler : HandlerId)
  | handlerLimit (event : String) (maximum : Nat)
  | eventLimit (maximum : Nat)
  | threadSpawn (event message : String)
  | poisoned
  deriving DecidableEq

structure EventBus where
  nextHandler : Nat
  definitions : AList fun _ : String => EventDefinition

structure Subscription where
  eventName : String
  handlerId : HandlerId
  active : Bool
  deriving DecidableEq

namespace EventBus

/-- `EventBus::new`. -/
def new : EventBus := ⟨0, ∅⟩

/-- `next_handler_id`: `fetch_add` on a 64-bit counter. -/
def nextHandlerId (bus : EventBus) : HandlerId × EventBus :=
  (bus.nextHandler, { bus with nextHandler := (bus.nextHandler + 1) % idCount })

/-- Store a definition under a name. -/
def define (bus : EventBus) (name : String) (definition : EventDefinition) : EventBus :=
  { bus with definitions := bus.definitions.insert name definition }

/-- `EventBus::register`.  The five `on_` functions call it with a drawn id and the
handler variant of their mode. -/
def register (name : String) (payloadType : PayloadType) (mode : EventMode)
    (handler : RegisteredHandler) : Fallible EventBus EventError Subscription := do
  throwIf (validName name = false) (.invalidName name)
  let bus ← get
  match bus.definitions.lookup name with
  | some definition =>
      throwIf (definition.payloadType.id ≠ payloadType.id)
        (.typeConflict name definition.payloadType.name payloadType.name)
      throwIf (definition.mode ≠ mode) (.modeConflict name definition.mode mode)
      throwIf (maxEventHandlers ≤ definition.handlers.length)
        (.handlerLimit name maxEventHandlers)
      modify fun bus =>
        bus.define name { definition with handlers := definition.handlers ++ [handler] }
  | none =>
      throwIf (maxEventDefinitions ≤ bus.definitions.entries.length)
        (.eventLimit maxEventDefinitions)
      modify fun bus => bus.define name ⟨payloadType, mode, [handler]⟩
  return ⟨name, handler.id, true⟩

/-- `EventBus::handlers`: the copy of the handler list a dispatch works on. -/
def handlers (name : String) (payloadType : PayloadType) (mode : EventMode) :
    Fallible EventBus EventError (List RegisteredHandler) := do
  throwIf (validName name = false) (.invalidName name)
  let bus ← get
  match bus.definitions.lookup name with
  | none => return []
  | some definition =>
      throwIf (definition.payloadType.id ≠ payloadType.id)
        (.typeConflict name definition.payloadType.name payloadType.name)
      throwIf (definition.mode ≠ mode) (.modeConflict name definition.mode mode)
      return definition.handlers

/-- `EventBusInner::remove`. -/
def remove (bus : EventBus) (name : String) (id : HandlerId) : EventBus :=
  match bus.definitions.lookup name with
  | none => bus
  | some definition =>
      let kept := definition.handlers.filter fun handler => handler.id != id
      if kept.isEmpty then { bus with definitions := bus.definitions.erase name }
      else bus.define name { definition with handlers := kept }

/-- The handlers stored under a name. -/
def stored (bus : EventBus) (name : String) : List RegisteredHandler :=
  (bus.definitions.lookup name).elim [] EventDefinition.handlers

end EventBus

/-- `Subscription::unsubscribe`. -/
def Subscription.unsubscribe (subscription : Subscription) (bus : EventBus) :
    Subscription × EventBus :=
  if subscription.active then
    ({ subscription with active := false },
      bus.remove subscription.eventName subscription.handlerId)
  else (subscription, bus)

/-- `Drop for Subscription`, which does not look at `active`. -/
def Subscription.drop (subscription : Subscription) (bus : EventBus) :
    Subscription × EventBus :=
  ({ subscription with active := false },
    bus.remove subscription.eventName subscription.handlerId)

/-- How the callback of a handler came back.  Only `bail` tells `handled` from `done`. -/
inductive HandlerOutcome
  | done
  | handled
  | failed (message : String)
  | panicked
  deriving DecidableEq

/-- The error a caller makes of an outcome. -/
def HandlerOutcome.error (outcome : HandlerOutcome) (event : String) (handler : HandlerId) :
    Option EventError :=
  match outcome with
  | done | handled => none
  | failed message =>
      some (.handlerFailed event handler (Protocol.truncate message maxHandlerErrorBytes))
  | panicked => some (.handlerPanicked event handler)

inductive BailResult
  | unhandled
  | handled (handler : HandlerId)
  deriving DecidableEq

/-- What a dispatch returns when it does not fail. -/
inductive DispatchValue (π : Type)
  | unit
  | payload (payload : π)
  | bail (result : BailResult)

/-- A dispatch between two of its steps.  `stored` and `ran` are a record of what the
bus held when it began and of the user handlers it has run. -/
structure Dispatch (π : Type) where
  name : String
  payloadType : PayloadType
  mode : EventMode
  payload : π
  stored : List RegisteredHandler
  pending : List RegisteredHandler
  running : List RegisteredHandler
  ran : List (RegisteredHandler × HandlerOutcome)
  firstError : Option EventError
  result : Option (Except EventError (DispatchValue π))

/-- What the handler that runs leaves behind: its outcome and, where it is given the
payload to keep or to change, the payload. -/
structure HandlerReturn (π : Type) where
  outcome : HandlerOutcome
  payload : π

namespace Dispatch

variable {π : Type}

variable (dispatch : Dispatch π)

variable (handler : RegisteredHandler)

/-- The callback of the handler accepts the payload of the dispatch. -/
def accepts : Bool :=
  handler.payloadType.id == dispatch.payloadType.id

/-- A callback that is given another type fails before it reaches the user's handler. -/
def outcomeOf (outcome : HandlerOutcome) : HandlerOutcome :=
  if dispatch.accepts handler then outcome else .failed "event payload type mismatch"

/-- The user's handlers a call of some callbacks runs. -/
def reached (handlers : List RegisteredHandler)
    (outcomes : RegisteredHandler → HandlerOutcome) :
    List (RegisteredHandler × HandlerOutcome) :=
  (handlers.filter dispatch.accepts).map fun handler => (handler, outcomes handler)

/-- What the dispatch returns when its loop ends. -/
def loopEnd : Except EventError (DispatchValue π) :=
  match dispatch.mode with
  | .emit | .parallel =>
      match dispatch.firstError with
      | none => .ok .unit
      | some error => .error error
  | .waterfall => .ok (.payload dispatch.payload)
  | .serial => .ok .unit
  | .bail => .ok (.bail .unhandled)

variable (rest : List RegisteredHandler)

/-- Go on with the rest of the handlers, or end the loop. -/
def goOn : Dispatch π :=
  { dispatch with
    pending := rest
    result := if rest.isEmpty then some dispatch.loopEnd else none }

/-- Return from the loop with the rest of the handlers not called. -/
def stop (result : Except EventError (DispatchValue π)) :
    Dispatch π :=
  { dispatch with result := some result }

variable (returned : HandlerReturn π)

/-- One turn of the loop of `emit`. -/
def emit : Dispatch π :=
  { dispatch with
    firstError := dispatch.firstError.or (returned.outcome.error dispatch.name handler.id)
  }.goOn rest

/-- One turn of the loop of `waterfall`. -/
def waterfall : Dispatch π :=
  match returned.outcome.error dispatch.name handler.id with
  | none => { dispatch with payload := returned.payload }.goOn rest
  | some error => dispatch.stop (.error error)

/-- One turn of the loop of `serial`; the payload is the caller's and keeps what the
handler did to it. -/
def serial : Dispatch π :=
  match returned.outcome.error dispatch.name handler.id with
  | none => { dispatch with payload := returned.payload }.goOn rest
  | some error => { dispatch with payload := returned.payload }.stop (.error error)

/-- One turn of the loop of `bail`. -/
def bail (dispatch : Dispatch π) (handler : RegisteredHandler)
    (rest : List RegisteredHandler) (returned : HandlerReturn π) : Dispatch π :=
  match returned.outcome with
  | .done => dispatch.goOn rest
  | .handled => dispatch.stop (.ok (.bail (.handled handler.id)))
  | .failed message => dispatch.stop (.error
      (.handlerFailed dispatch.name handler.id
        (Protocol.truncate message maxHandlerErrorBytes)))
  | .panicked => dispatch.stop (.error (.handlerPanicked dispatch.name handler.id))

/-- The handler a sequential dispatch has called comes back.  A handler of another mode
is skipped by the `else continue` of the loop. -/
def advance : Dispatch π :=
  match dispatch.result, dispatch.pending with
  | none, handler :: rest =>
      if handler.mode ≠ dispatch.mode then dispatch.goOn rest
      else
        let outcome := dispatch.outcomeOf handler returned.outcome
        let called := { dispatch with
          ran := dispatch.ran ++ dispatch.reached [handler] fun _ => outcome }
        match dispatch.mode with
        | .emit => called.emit handler rest ⟨outcome, returned.payload⟩
        | .waterfall => called.waterfall handler rest ⟨outcome, returned.payload⟩
        | .serial => called.serial handler rest ⟨outcome, returned.payload⟩
        | .bail => called.bail handler rest ⟨outcome, returned.payload⟩
        | .parallel => dispatch
  | _, _ => dispatch

/-- Join the threads of a batch in the order they were spawned. -/
def joined (outcomes : RegisteredHandler → HandlerOutcome) :
    Dispatch π :=
  { dispatch with
    running := []
    ran := dispatch.ran ++ dispatch.reached dispatch.running outcomes
    firstError := dispatch.running.foldl (fun first handler =>
      first.or ((dispatch.outcomeOf handler (outcomes handler)).error dispatch.name
        handler.id)) dispatch.firstError }

/-- `parallel` spawns the thread of its next handler.  If it cannot, it joins the
threads of the batch and returns. -/
def spawn (failure : Option String)
    (outcomes : RegisteredHandler → HandlerOutcome) : Dispatch π :=
  match dispatch.mode, dispatch.result, dispatch.pending with
  | .parallel, none, handler :: rest =>
      if maxParallelWorkers ≤ dispatch.running.length then dispatch
      else
        match failure with
        | none =>
            { dispatch with running := dispatch.running ++ [handler], pending := rest }
        | some message =>
            (dispatch.joined outcomes).stop (.error (.threadSpawn dispatch.name message))
  | _, _, _ => dispatch

/-- `parallel` joins a complete batch. -/
def join (outcomes : RegisteredHandler → HandlerOutcome) :
    Dispatch π :=
  match dispatch.mode, dispatch.result with
  | .parallel, none =>
      if maxParallelWorkers ≤ dispatch.running.length ∨ dispatch.pending = [] then
        (dispatch.joined outcomes).goOn dispatch.pending
      else dispatch
  | _, _ => dispatch

/-- A dispatch that has its copy of the handler list. -/
def start (mode : EventMode) (name : String) (payloadType : PayloadType) (payload : π)
    (stored handlers : List RegisteredHandler) : Dispatch π :=
  let pending :=
    if mode = .parallel then handlers.filter fun handler => handler.mode == .parallel
    else handlers
  Dispatch.goOn
    { name, payloadType, mode, payload, stored
      pending
      running := []
      ran := []
      firstError := none
      result := none } pending

end Dispatch

/-- A subscription that was handed out, with the handler it stands for. -/
structure Handed where
  subscription : Subscription
  handler : RegisteredHandler

/-- The bus with what its users hold.  Subscriptions are kept in the order their
registrations were accepted; a dropped one stays, inactive. -/
structure BusSystem (π : Type) where
  bus : EventBus
  draws : Nat
  drawn : List HandlerId
  subscriptions : List Handed
  dispatches : List (Dispatch π)

/-- One atomic step of a user, of a running handler or of a dispatch. -/
inductive BusAction (π : Type)
  | draw
  | register (index : Nat) (name : String) (payloadType : PayloadType) (mode : EventMode)
  | unsubscribe (index : Nat)
  | drop (index : Nat)
  | dispatch (mode : EventMode) (name : String) (payloadType : PayloadType) (payload : π)
  | advance (index : Nat) (returned : HandlerReturn π)
  | spawn (index : Nat) (failure : Option String)
      (outcomes : RegisteredHandler → HandlerOutcome)
  | join (index : Nat) (outcomes : RegisteredHandler → HandlerOutcome)

namespace BusSystem

variable {π : Type}

/-- A new bus that nobody has used. -/
def new : BusSystem π := ⟨.new, 0, [], [], []⟩

variable (system : BusSystem π)

/-- Apply a function to one dispatch. -/
def onDispatch (index : Nat) (change : Dispatch π → Dispatch π) :
    BusSystem π :=
  { system with dispatches := system.dispatches.modify index change }

/-- End a subscription by `unsubscribe` or `drop`. -/
def endSubscription (index : Nat)
    (ends : Subscription → EventBus → Subscription × EventBus) : BusSystem π :=
  match system.subscriptions[index]? with
  | none => system
  | some handed =>
      { system with
        bus := (ends handed.subscription system.bus).2
        subscriptions := system.subscriptions.set index
          ⟨(ends handed.subscription system.bus).1, handed.handler⟩ }

/-- Hand out the subscription of an accepted registration. -/
def accept (index : Nat) (bus : EventBus) (handed : Handed) :
    BusSystem π :=
  { system with
    bus
    drawn := system.drawn.eraseIdx index
    subscriptions := system.subscriptions ++ [handed] }

/-- The second half of the `on_` function of a mode: a drawn id is registered. -/
def registerDrawn (index : Nat) (name : String)
    (payloadType : PayloadType) (mode : EventMode) : BusSystem π :=
  match system.drawn[index]? with
  | none => system
  | some id =>
      match (EventBus.register name payloadType mode ⟨mode, id, payloadType⟩).exec
          system.bus with
      | (.ok subscription, bus) =>
          system.accept index bus ⟨subscription, ⟨mode, id, payloadType⟩⟩
      | (.error _, bus) => { system with bus, drawn := system.drawn.eraseIdx index }

/-- Start a dispatch, which fails at once when the handlers are not given out. -/
def dispatch (mode : EventMode) (name : String)
    (payloadType : PayloadType) (payload : π) : BusSystem π :=
  match (EventBus.handlers name payloadType mode).exec system.bus with
  | (.ok handlers, bus) =>
      { system with
        bus
        dispatches := system.dispatches ++
          [.start mode name payloadType payload (system.bus.stored name) handlers] }
  | (.error _, bus) => { system with bus }

/-- The first half of an `on_` function. -/
def draw : BusSystem π :=
  { system with
    bus := system.bus.nextHandlerId.2
    draws := system.draws + 1
    drawn := system.drawn ++ [system.bus.nextHandlerId.1] }

def step : BusAction π → BusSystem π
  | .draw => system.draw
  | .register index name payloadType mode =>
      system.registerDrawn index name payloadType mode
  | .unsubscribe index => system.endSubscription index Subscription.unsubscribe
  | .drop index => system.endSubscription index Subscription.drop
  | .dispatch mode name payloadType payload =>
      system.dispatch mode name payloadType payload
  | .advance index returned => system.onDispatch index (·.advance returned)
  | .spawn index failure outcomes => system.onDispatch index (·.spawn failure outcomes)
  | .join index outcomes => system.onDispatch index (·.join outcomes)

end BusSystem

end CordisCore
end YunXi
