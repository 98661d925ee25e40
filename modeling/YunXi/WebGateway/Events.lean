import YunXi.Program.Fallible
import YunXi.WebContract.Rpc

/-!
# Bounded event queues

Events wait in one queue for each stream until the carrier takes them.  Publishing fails when
the queue is full or the payload is too large, and then leaves both queues as they were.
-/

namespace YunXi
namespace WebGateway

open Fallible
open Protocol (Value)
open WebContract

def maxPendingEvents : Nat := 256

inductive GatewayError
  | contract (error : WebContractError)
  | eventQueueFull (channel : EventChannel) (capacity : Nat)
  | responseTooLarge (kind : String) (length maximum : Nat)
  deriving DecidableEq

/-- A queue of events that never holds more than its capacity. -/
structure EventQueue where
  events : List ServerRequest
  bounded : events.length ≤ maxPendingEvents

namespace EventQueue

def empty : EventQueue := ⟨[], Nat.zero_le _⟩

def push (queue : EventQueue) (event : ServerRequest)
    (room : queue.events.length < maxPendingEvents) : EventQueue where
  events := queue.events ++ [event]
  bounded := by
    rw [List.length_append]
    exact room

def popFront (queue : EventQueue) : EventQueue where
  events := queue.events.tail
  bounded := by
    rw [List.length_tail]
    exact (Nat.sub_le _ _).trans queue.bounded

@[simp] theorem events_popFront (queue : EventQueue) :
    queue.popFront.events = queue.events.tail := rfl

end EventQueue

structure EventBuffer where
  mux : EventQueue
  host : EventQueue
  nextId : UInt64

namespace EventBuffer

/-- `EventBuffer::new`. -/
def new : EventBuffer := ⟨.empty, .empty, 1⟩

variable (buffer : EventBuffer)

def queue : EventChannel → EventQueue
  | .mux => buffer.mux
  | .host => buffer.host

def setQueue (queue : EventQueue) : EventChannel → EventBuffer
  | .mux => { buffer with mux := queue }
  | .host => { buffer with host := queue }

@[simp] theorem queue_setQueue (queue : EventQueue)
    (channel : EventChannel) : (buffer.setQueue queue channel).queue channel = queue := by
  cases channel <;> rfl

variable {channel : EventChannel}

theorem queue_setQueue_of_ne (queue : EventQueue)
    {other : EventChannel} (differ : other ≠ channel) :
    (buffer.setQueue queue channel).queue other = buffer.queue other := by
  cases channel <;> cases other <;> first | rfl | exact absurd rfl differ

/-- Programs on the event queues. -/
abbrev BufferProgram := Fallible EventBuffer GatewayError

/-- `publish_with_id`. -/
def publishWithId (channel : EventChannel) (rpcId : RpcId) (payload : Value) :
    BufferProgram Unit :=
  .ofFunction fun buffer =>
    if room : (buffer.queue channel).events.length < maxPendingEvents then
      match eventMessage channel rpcId payload with
      | .ok message =>
          (.ok (), buffer.setQueue ((buffer.queue channel).push message room) channel)
      | .error error => (.error (.contract error), buffer)
    else (.error (.eventQueueFull channel maxPendingEvents), buffer)

/-- The number after one that was used; it starts again when there is none. -/
def nextNumber (number : UInt64) : UInt64 :=
  if number.toNat + 1 = UInt64.size then 1 else number + 1

/-- `publish`: the event number is used up even when the event is refused. -/
def publish (channel : EventChannel) (payload : Value) : BufferProgram Unit := do
  let buffer ← get
  let rpcId ← .ofExcept
    ((RpcId.new ("event-" ++ toString buffer.nextId.toNat)).mapError .contract)
  modify fun buffer => { buffer with nextId := nextNumber buffer.nextId }
  publishWithId channel rpcId payload

/-- `has_events`. -/
def hasEvents (channel : EventChannel) : Bool :=
  !(buffer.queue channel).events.isEmpty

/-- The loop of `take_bounded`, with the bytes and the events taken so far.  An event that
cannot be encoded ends it with an error, and what was taken before is gone. -/
def takeLoop (channel : EventChannel) (maximumEncodedBytes : Nat) :
    (remaining encodedBytes : Nat) → List ServerRequest → BufferProgram (List ServerRequest)
  | 0, _, taken => return taken
  | remaining + 1, encodedBytes, taken => do
      let buffer ← get
      match (buffer.queue channel).events with
      | [] => return taken
      | event :: _ => do
          let size ← .ofExcept (event.encode.mapError .contract)
          if encodedBytes + size > maximumEncodedBytes then return taken
          else do
            modify fun buffer => buffer.setQueue (buffer.queue channel).popFront channel
            takeLoop channel maximumEncodedBytes remaining (encodedBytes + size)
              (taken ++ [event])

/-- `take_bounded`. -/
def takeBounded (channel : EventChannel) (maximumEvents maximumEncodedBytes : Nat) :
    BufferProgram (List ServerRequest) :=
  takeLoop channel maximumEncodedBytes maximumEvents 0 []

/-- There is room for an event and its payload is not too large. -/
def Admits (channel : EventChannel) (payload : Value) : Prop :=
  (buffer.queue channel).events.length < maxPendingEvents ∧
    payload.encodedSize ≤ maxPayloadBytes

instance (buffer : EventBuffer) (channel : EventChannel) (payload : Value) :
    Decidable (buffer.Admits channel payload) :=
  inferInstanceAs (Decidable (_ ∧ _))

/-- The payloads that wait in a queue. -/
def payloads (channel : EventChannel) : List Value :=
  (buffer.queue channel).events.map fun event => event.payload

theorem length_payloads (channel : EventChannel) :
    (buffer.payloads channel).length = (buffer.queue channel).events.length :=
  List.length_map _

/-- Payloads were put at the end of a queue, and nothing else changed in the queues. -/
def Extended (channel : EventChannel) (added : List Value) (buffer after : EventBuffer) :
    Prop :=
  after.payloads channel = buffer.payloads channel ++ added ∧
    ∀ other, other ≠ channel → after.payloads other = buffer.payloads other

/-- The queues hold what they held. -/
def SameQueues (after : EventBuffer) : Prop :=
  ∀ channel, after.payloads channel = buffer.payloads channel

variable {buffer : EventBuffer} {payload : Value}

theorem exec_publishWithId_of_admits (rpcId : RpcId) (admits : buffer.Admits channel payload) :
    ∃ after, (publishWithId channel rpcId payload).exec buffer = (.ok (), after) ∧
      Extended channel [payload] buffer after := by
  obtain ⟨room, fits⟩ := admits
  have message : eventMessage channel rpcId payload =
      .ok ⟨rpcId, channel.method, payload, channel.validMethod,
        validatePayload_eq_ok.mpr fits⟩ :=
    construct_of_ok (validatePayload_eq_ok.mpr fits) _
  have ran : (publishWithId channel rpcId payload).exec buffer =
      (.ok (), buffer.setQueue ((buffer.queue channel).push ⟨rpcId, channel.method, payload,
        channel.validMethod, validatePayload_eq_ok.mpr fits⟩ room) channel) := by
    simp only [publishWithId, exec_ofFunction, dif_pos room, message]
  refine ⟨_, ran, ?_⟩
  constructor
  · simp [payloads, EventQueue.push]
  · intro other differ
    unfold payloads
    rw [queue_setQueue_of_ne _ _ differ]

theorem exec_publishWithId_of_not_admits
    (rpcId : RpcId) (refused : ¬ buffer.Admits channel payload) :
    ∃ error, (publishWithId channel rpcId payload).exec buffer = (.error error, buffer) := by
  unfold publishWithId
  rw [exec_ofFunction]
  split
  case isTrue room =>
    have large : ¬ payload.encodedSize ≤ maxPayloadBytes := fun fits => refused ⟨room, fits⟩
    cases built : eventMessage channel rpcId payload with
    | ok message =>
        have valid := construct_eq_ok.mp ⟨message, built⟩
        exact absurd (validatePayload_eq_ok.mp valid) large
    | error error => exact ⟨_, rfl⟩
  case isFalse => exact ⟨_, rfl⟩

/-- Event numbers make ids. -/
theorem eventId_new (number : UInt64) :
    ∃ rpcId, RpcId.new ("event-" ++ toString number.toNat) = .ok rpcId :=
  construct_eq_ok.mpr (validateToken_numbered number (by decide) (by decide) (by decide))

/-- Publishing is publishing under some id, with the number used up. -/
theorem exec_publish (buffer : EventBuffer) (channel : EventChannel) (payload : Value) :
    ∃ rpcId, (publish channel payload).exec buffer =
      (publishWithId channel rpcId payload).exec
        { buffer with nextId := nextNumber buffer.nextId } := by
  obtain ⟨rpcId, new⟩ := eventId_new buffer.nextId
  refine ⟨rpcId, ?_⟩
  unfold publish
  simp only [exec_bind, exec_get, new, Except.mapError,
    exec_ofExcept, exec_modify]

theorem exec_publish_of_admits (admits : buffer.Admits channel payload) :
    ∃ after, (publish channel payload).exec buffer = (.ok (), after) ∧
      Extended channel [payload] buffer after := by
  obtain ⟨rpcId, published⟩ := exec_publish buffer channel payload
  rw [published]
  cases channel <;> exact exec_publishWithId_of_admits rpcId admits

theorem exec_publish_of_not_admits (refused : ¬ buffer.Admits channel payload) :
    ∃ error after, (publish channel payload).exec buffer = (.error error, after) ∧
      SameQueues buffer after := by
  obtain ⟨rpcId, published⟩ := exec_publish buffer channel payload
  rw [published]
  have drawn : ¬ EventBuffer.Admits { buffer with nextId := nextNumber buffer.nextId } channel
      payload := by
    cases channel <;> exact refused
  obtain ⟨error, failed⟩ := exec_publishWithId_of_not_admits rpcId drawn
  refine ⟨error, _, failed, ?_⟩
  intro other
  cases other <;> rfl

/-- There is room for all of some events and none of their payloads is too large. -/
def Publishable (buffer : EventBuffer) (channel : EventChannel) (added : List Value) : Prop :=
  (buffer.queue channel).events.length + added.length ≤ maxPendingEvents ∧
    ∀ payload ∈ added, payload.encodedSize ≤ maxPayloadBytes

instance (buffer : EventBuffer) (channel : EventChannel) (added : List Value) :
    Decidable (buffer.Publishable channel added) :=
  inferInstanceAs (Decidable (_ ∧ _))

theorem publishable_nil (buffer : EventBuffer) (channel : EventChannel) :
    buffer.Publishable channel [] :=
  ⟨(buffer.queue channel).bounded, fun _ member => nomatch member⟩

variable {after : EventBuffer}

theorem Extended.length {added : List Value}
    (extended : Extended channel added buffer after) :
    (after.queue channel).events.length = (buffer.queue channel).events.length + added.length := by
  rw [← length_payloads, ← length_payloads, extended.1, List.length_append]

theorem Extended.refl (channel : EventChannel) (buffer : EventBuffer) :
    Extended channel [] buffer buffer :=
  ⟨(List.append_nil _).symm, fun _ _ => rfl⟩

variable {second first : List Value}

theorem Extended.trans {middle : EventBuffer} (earlier : Extended channel first buffer middle)
    (later : Extended channel second middle after) :
    Extended channel (first ++ second) buffer after := by
  refine ⟨?_, fun other differ => (later.2 other differ).trans (earlier.2 other differ)⟩
  rw [later.1, earlier.1, List.append_assoc]

/-- The room that is left for more after some were published. -/
theorem Extended.publishable (extended : Extended channel first buffer after)
    (fit : ∀ payload ∈ first, payload.encodedSize ≤ maxPayloadBytes) :
    after.Publishable channel second ↔ buffer.Publishable channel (first ++ second) := by
  unfold Publishable
  rw [extended.length, List.length_append, List.forall_mem_append, Nat.add_assoc]
  exact ⟨fun ⟨room, fits⟩ => ⟨room, fit, fits⟩, fun ⟨room, _, fits⟩ => ⟨room, fits⟩⟩

theorem publishable_cons
    {rest : List Value} (publishable : buffer.Publishable channel (payload :: rest)) :
    buffer.Admits channel payload := by
  obtain ⟨room, fits⟩ := publishable
  rw [List.length_cons] at room
  refine ⟨?_, fits payload List.mem_cons_self⟩
  omega

theorem publishable_singleton :
    buffer.Publishable channel [payload] ↔ buffer.Admits channel payload := by
  unfold Publishable Admits
  simp only [List.length_singleton, List.forall_mem_singleton]
  exact Iff.rfl

/-- What can be published as a whole can be published up to any point. -/
theorem Publishable.of_append (publishable : buffer.Publishable channel (first ++ second)) :
    buffer.Publishable channel first := by
  obtain ⟨room, fits⟩ := publishable
  rw [List.length_append] at room
  exact ⟨by omega, (List.forall_mem_append.mp fits).1⟩

/-- Events were taken from the front of a queue, and the other queue was left alone. -/
structure Taken (channel : EventChannel) (taken : List ServerRequest)
    (buffer after : EventBuffer) : Prop where
  front : (buffer.queue channel).events = taken ++ (after.queue channel).events
  other : ∀ other, other ≠ channel → after.queue other = buffer.queue other

theorem Taken.refl (channel : EventChannel) (buffer : EventBuffer) :
    Taken channel [] buffer buffer :=
  ⟨rfl, fun _ _ => rfl⟩

/-- The loop takes events from the front; those it returns are all it took. -/
theorem takeLoop_taken (channel : EventChannel) (maximumEncodedBytes remaining : Nat) :
    ∀ (encodedBytes : Nat) (sofar : List ServerRequest) (buffer : EventBuffer),
      (takeLoop channel maximumEncodedBytes remaining encodedBytes sofar).wp
        (fun result after => ∃ taken, Taken channel taken buffer after ∧
          ∀ events, result = .ok events → events = sofar ++ taken) buffer := by
  induction remaining with
  | zero =>
      intro encodedBytes sofar buffer
      exact ⟨[], .refl channel buffer, fun events same => by cases same; simp⟩
  | succ remaining ih =>
      intro encodedBytes sofar buffer
      have stopped : ∃ taken, Taken channel taken buffer buffer ∧
          ∀ events, (Except.ok sofar : Except GatewayError _) = .ok events →
            events = sofar ++ taken :=
        ⟨[], .refl channel buffer, fun events same => by cases same; simp⟩
      unfold takeLoop wp
      rw [exec_get_bind]
      cases waiting : (buffer.queue channel).events with
      | nil => exact stopped
      | cons event rest =>
          simp only
          rw [exec_bind, exec_ofExcept]
          cases event.encode with
          | error error =>
              exact ⟨[], .refl channel buffer, fun events same => by cases same⟩
          | ok size =>
              simp only [Except.mapError]
              split
              · exact stopped
              · rw [exec_modify_bind]
                obtain ⟨taken, later, returned⟩ := ih (encodedBytes + size)
                  (sofar ++ [event])
                  (buffer.setQueue (buffer.queue channel).popFront channel)
                refine ⟨event :: taken, ⟨?_, ?_⟩, ?_⟩
                · have popped := later.front
                  rw [queue_setQueue] at popped
                  rw [EventQueue.events_popFront, waiting, List.tail_cons] at popped
                  rw [waiting, List.cons_append, ← popped]
                · intro other differ
                  rw [later.other other differ, queue_setQueue_of_ne _ _ differ]
                · intro events same
                  rw [returned events same, List.append_assoc]
                  rfl

theorem takeBounded_taken (channel : EventChannel) (maximumEvents maximumEncodedBytes : Nat)
    (buffer : EventBuffer) :
    (takeBounded channel maximumEvents maximumEncodedBytes).wp
      (fun result after => ∃ taken, Taken channel taken buffer after ∧
        ∀ events, result = .ok events → events = taken) buffer :=
  takeLoop_taken channel maximumEncodedBytes maximumEvents 0 [] buffer

end EventBuffer
end WebGateway
end YunXi
