import YunXi.Program.Run
import YunXi.WebGateway.Carrier

/-!
# Delivery of events

A poll takes events from a queue and writes them as a stream of server-sent events.  The budget
of the take leaves room for what the encoder adds, so what was taken is always written.
-/

namespace YunXi
namespace WebGateway

open Fallible
open Protocol (Value)
open WebContract

/-- `fmt::Display for GatewayError`. -/
def displayGatewayError : GatewayError → String
  | .contract error => displayRejected error
  | .eventQueueFull channel capacity =>
      "event channel `" ++ channel.method ++ "` reached its pending frame limit of " ++
        toString capacity
  | .responseTooLarge kind length maximum =>
      kind ++ " response is " ++ toString length ++ " bytes; maximum is " ++ toString maximum

/-- An event that is published, under an id of its own or under the next number. -/
structure Publication where
  channel : EventChannel
  rpcId : Option RpcId
  payload : Value

namespace Publication

def program (publication : Publication) : EventBuffer.BufferProgram Unit :=
  match publication.rpcId with
  | some rpcId => EventBuffer.publishWithId publication.channel rpcId publication.payload
  | none => EventBuffer.publish publication.channel publication.payload

/-- The event that is published, when the buffer numbers it. -/
def event (publication : Publication) (buffer : EventBuffer) : Except WebContractError ServerRequest := do
  let rpcId ← match publication.rpcId with
    | some rpcId => .ok rpcId
    | none => RpcId.new ("event-" ++ toString buffer.nextId.toNat)
  eventMessage publication.channel rpcId publication.payload

/-- The event of a publication that succeeds. -/
def accepted (publication : Publication) (buffer : EventBuffer) (channel : EventChannel) :
    List ServerRequest :=
  if (publication.program.exec buffer).1.isOk = true ∧ publication.channel = channel then
    (publication.event buffer).toOption.toList
  else []

def perform (buffer : EventBuffer) (publication : Publication) : EventBuffer :=
  (publication.program.exec buffer).2

end Publication

/-- Something is published, or a channel is polled; the backend may publish when it is
refreshed. -/
inductive EventAction
  | publish (publication : Publication)
  | poll (channel : EventChannel) (refreshed : List Publication)

/-- A carrier over an event buffer that publishes when it is refreshed. -/
def eventCarrier (carrier : HttpCarrier EventBuffer) (refreshed : List Publication) :
    HttpCarrier EventBuffer :=
  { carrier with
    backend := { carrier.backend with
      refresh := fun buffer => refreshed.foldl Publication.perform buffer
      takeEvents := fun channel maximumEvents maximumEncodedBytes buffer =>
        let (taken, after) :=
          (EventBuffer.takeBounded channel maximumEvents maximumEncodedBytes).exec buffer
        ((taken.mapError displayGatewayError).map fun events => events.map RpcMessage.serverRequest,
          after) } }

/-- The budget of a poll for the events that it takes. -/
def rawBudget : Nat := maxSseResponseBytes - sseStaticOverheadBytes - maxSseEvents * 8

variable (events : List ServerRequest)

section Runs

variable (carrier : HttpCarrier EventBuffer)

/-- The answer to a poll. -/
def answer (buffer : EventBuffer) (channel : EventChannel) (refreshed : List Publication) :
    Except Panic HttpResponse × EventBuffer :=
  ((eventCarrier carrier refreshed).handleEvents channel).exec buffer

def EventAction.perform (buffer : EventBuffer) : EventAction → EventBuffer
  | .publish publication => publication.perform buffer
  | .poll channel refreshed => (answer carrier buffer channel refreshed).2

/-- The events that were published with success on a channel. -/
def published (channel : EventChannel) (buffer : EventBuffer) : EventAction → List ServerRequest
  | .publish publication => publication.accepted buffer channel
  | .poll _ refreshed =>
      givenOff Publication.perform (fun buffer publication => publication.accepted buffer channel)
        buffer refreshed

/-- The events that a poll takes. -/
def taken (buffer : EventBuffer) (channel : EventChannel) (refreshed : List Publication) :
    List ServerRequest :=
  ((EventBuffer.takeBounded channel maxSseEvents rawBudget).exec
    (refreshed.foldl Publication.perform buffer)).1.toOption.getD []

/-- The events that are delivered on a channel. -/
def delivered (channel : EventChannel) (buffer : EventBuffer) : EventAction → List ServerRequest
  | .publish _ => []
  | .poll other refreshed => if other = channel then taken buffer other refreshed else []

/-- The stream of some events. -/
def sseBody : List UInt8 :=
  utf8Bytes ": connected\n\n" ++
    (events.flatMap fun event =>
      utf8Bytes "data: " ++ utf8Bytes event.toJson.toText ++ utf8Bytes "\n\n") ++
    utf8Bytes ": end\n\n"

/-- A poll is answered with the stream of the events that it takes, within the bound of the
encoder, and takes an event when there is one. -/
def Delivers (buffer : EventBuffer) : EventAction → Prop
  | .publish _ => True
  | .poll channel refreshed =>
      let events := taken buffer channel refreshed
      (answer carrier buffer channel refreshed).1 =
          .ok (response 200 "OK" (contentHeaders "text/event-stream" "no-cache") (sseBody events)) ∧
        (sseBody events).length ≤ maxSseResponseBytes ∧
          (((refreshed.foldl Publication.perform buffer).queue channel).events ≠ [] → events ≠ [])

end Runs

section Publications

variable (buffer : EventBuffer) (channel : EventChannel)

/-- Publishing under an id puts the event at the end of its queue, or changes no queue. -/
theorem queue_publishWithId (target : EventChannel) (rpcId : RpcId) (payload : Value) :
    (((EventBuffer.publishWithId target rpcId payload).exec buffer).2.queue channel).events =
      (buffer.queue channel).events ++
        if ((EventBuffer.publishWithId target rpcId payload).exec buffer).1.isOk = true ∧
            target = channel then (eventMessage target rpcId payload).toOption.toList
        else [] := by
  unfold EventBuffer.publishWithId
  rw [exec_ofFunction]
  split
  · cases eventMessage target rpcId payload with
    | error error =>
        rw [if_neg fun accepted => Bool.false_ne_true accepted.1]
        exact (List.append_nil _).symm
    | ok message =>
        dsimp only
        by_cases same : target = channel
        · subst same
          rw [EventBuffer.queue_setQueue, if_pos ⟨rfl, rfl⟩]
          rfl
        · rw [EventBuffer.queue_setQueue_of_ne _ _ (Ne.symm same),
            if_neg fun accepted => same accepted.2, List.append_nil]
  · rw [if_neg fun accepted => Bool.false_ne_true accepted.1]
    exact (List.append_nil _).symm

/-- A publication puts what is accepted at the end of the queue. -/
theorem Publication.queue_perform (publication : Publication) :
    ((publication.perform buffer).queue channel).events =
      (buffer.queue channel).events ++ publication.accepted buffer channel := by
  obtain ⟨target, rpcId, payload⟩ := publication
  unfold Publication.perform Publication.accepted Publication.event Publication.program
  cases rpcId with
  | some rpcId => exact queue_publishWithId buffer channel target rpcId payload
  | none =>
      obtain ⟨rpcId, named⟩ := EventBuffer.eventId_new buffer.nextId
      have ran : (EventBuffer.publish target payload).exec buffer =
          (EventBuffer.publishWithId target rpcId payload).exec
            { buffer with nextId := EventBuffer.nextNumber buffer.nextId } := by
        unfold EventBuffer.publish
        rw [exec_get_bind, named]
        rfl
      have queues : ({ buffer with nextId := EventBuffer.nextNumber buffer.nextId } :
          EventBuffer).queue channel = buffer.queue channel := by
        cases channel <;> rfl
      dsimp only
      rw [ran, named, ← queues]
      exact queue_publishWithId _ channel target rpcId payload

/-- Several publications put what is accepted at the end of the queue. -/
theorem queue_foldl_perform (publications : List Publication) :
    ((publications.foldl Publication.perform buffer).queue channel).events =
      (buffer.queue channel).events ++
        givenOff Publication.perform
          (fun buffer publication => publication.accepted buffer channel) buffer publications := by
  induction publications generalizing buffer with
  | nil => exact (List.append_nil _).symm
  | cons publication rest ih =>
      rw [List.foldl_cons, ih, publication.queue_perform, givenOff,
        List.append_assoc]

end Publications

/-- The sizes of some events, as they are written. -/
def writtenSize : Nat :=
  (events.map fun event => event.toJson.encodedSize).sum

/-- The bytes that a written event takes at most. -/
def maxEventBytes : Nat := maxPayloadBytes + 2048

variable (event : ServerRequest)

/-- Every event is written within a frame, and within the budget of a poll. -/
theorem encodedSize_le : event.toJson.encodedSize ≤ maxEventBytes := by
  have idSize := (validateToken_eq_ok.mp event.rpcId.valid).2.1
  have methodSize := (validateToken_eq_ok.mp event.validMethod).2.1
  have payloadSize := validatePayload_eq_ok.mp event.validPayload
  have typeBound := Value.encodedSize_string_le "server-request"
  have idBound := Value.encodedSize_string_le event.rpcId.text
  have methodBound := Value.encodedSize_string_le event.method
  have literals : ("server-request" : String).utf8ByteSize = 14 ∧
      ("type" : String).utf8ByteSize = 4 ∧ ("rpcId" : String).utf8ByteSize = 5 ∧
      ("method" : String).utf8ByteSize = 6 ∧ ("payload" : String).utf8ByteSize = 7 := by decide
  obtain ⟨text, type, rpcId, method, payload⟩ := literals
  refine (Value.encodedSize_object_le _).trans ?_
  simp only [List.map_cons, List.map_nil, List.sum_cons, List.sum_nil, Value.memberBound]
  rw [type, rpcId, method, payload]
  rw [text] at typeBound
  unfold maxRpcIdBytes at idSize
  unfold maxMethodBytes at methodSize
  unfold maxEventBytes
  omega

theorem encode_eq_ok : event.encode = .ok event.toJson.encodedSize := by
  have bound := encodedSize_le event
  have small : ¬ event.toJson.encodedSize > maxFrameBytes :=
    Nat.not_lt.mpr (bound.trans (by decide))
  unfold ServerRequest.encode refuseIf
  rw [if_neg small]
  rfl

/-- The loop of a take returns the events that it takes, within its bounds, and at least one
when there is room for it. -/
theorem takeLoop_ok (channel : EventChannel) (maximumEncodedBytes remaining : Nat) :
    ∀ (encodedBytes : Nat) (sofar : List ServerRequest) (buffer : EventBuffer),
      encodedBytes ≤ maximumEncodedBytes →
      (EventBuffer.takeLoop channel maximumEncodedBytes remaining encodedBytes sofar).wp
        (fun result after => ∃ taken, result = .ok (sofar ++ taken) ∧
          EventBuffer.Taken channel taken buffer after ∧ taken.length ≤ remaining ∧
          encodedBytes + writtenSize taken ≤ maximumEncodedBytes ∧
          ((buffer.queue channel).events ≠ [] → 0 < remaining →
            encodedBytes + maxEventBytes ≤ maximumEncodedBytes → taken ≠ [])) buffer := by
  induction remaining with
  | zero =>
      intro encodedBytes sofar buffer within
      exact ⟨[], by rw [List.append_nil]; rfl, .refl channel buffer, Nat.le_refl _, within,
        fun _ impossible => absurd impossible (Nat.lt_irrefl 0)⟩
  | succ remaining ih =>
      intro encodedBytes sofar buffer within
      unfold EventBuffer.takeLoop wp
      rw [exec_get_bind]
      cases waiting : (buffer.queue channel).events with
      | nil =>
          exact ⟨[], by rw [List.append_nil]; rfl, .refl channel buffer, Nat.zero_le _, within,
            fun some => absurd rfl some⟩
      | cons event rest =>
          dsimp only
          rw [exec_bind, exec_ofExcept, encode_eq_ok]
          dsimp only [Except.mapError]
          split
          · rename_i large
            refine ⟨[], by rw [List.append_nil]; rfl, .refl channel buffer, Nat.zero_le _, within,
              fun _ _ room => ?_⟩
            have bound := encodedSize_le event
            omega
          · rename_i fits
            rw [exec_modify_bind]
            obtain ⟨taken, result, later, few, small, -⟩ := ih
              (encodedBytes + event.toJson.encodedSize) (sofar ++ [event])
              (buffer.setQueue (buffer.queue channel).popFront channel) (by omega)
            refine ⟨event :: taken, ?_, ⟨?_, ?_⟩, Nat.succ_le_succ few, ?_,
              fun _ _ _ => List.cons_ne_nil event taken⟩
            · rw [List.append_assoc] at result
              exact result
            · have popped := later.front
              rw [EventBuffer.queue_setQueue, EventQueue.events_popFront, waiting,
                List.tail_cons] at popped
              rw [waiting, List.cons_append, ← popped]
            · intro other differ
              rw [later.other other differ, EventBuffer.queue_setQueue_of_ne _ _ differ]
            · have sum : writtenSize (event :: taken) =
                  event.toJson.encodedSize + writtenSize taken := List.sum_cons
              omega

section Writing

theorem length_toText (value : Value) : (utf8Bytes value.toText).length = value.encodedSize := by
  rw [length_utf8Bytes, Value.toText, Value.utf8ByteSize_ofList, Value.encodedSize_eq]

/-- What is written of one event. -/
def sseFrame : List UInt8 :=
  utf8Bytes "data: " ++ utf8Bytes event.toJson.toText ++ utf8Bytes "\n\n"

theorem length_literals : (utf8Bytes "data: ").length = 6 ∧ (utf8Bytes "\n\n").length = 2 ∧
      (utf8Bytes ": connected\n\n").length = 13 ∧ (utf8Bytes ": end\n\n").length = 7 := by
  rw [length_utf8Bytes, length_utf8Bytes, length_utf8Bytes, length_utf8Bytes]
  decide

theorem length_sseFrame : (sseFrame event).length = event.toJson.encodedSize + 8 := by
  obtain ⟨before, after, -⟩ := length_literals
  unfold sseFrame
  rw [List.length_append, List.length_append, length_toText, before, after]
  omega

theorem length_flatMap_sseFrame :
    (events.flatMap sseFrame).length = writtenSize events + 8 * events.length := by
  induction events with
  | nil => rfl
  | cons event rest ih =>
      have sum : writtenSize (event :: rest) =
          event.toJson.encodedSize + writtenSize rest := List.sum_cons
      rw [List.flatMap_cons, List.length_append, length_sseFrame, ih, sum,
        List.length_cons]
      omega

theorem length_sseBody :
    (sseBody events).length = 20 + writtenSize events + 8 * events.length := by
  obtain ⟨-, -, opening, closing⟩ := length_literals
  change (utf8Bytes ": connected\n\n" ++ events.flatMap sseFrame ++ utf8Bytes ": end\n\n").length = _
  rw [List.length_append, List.length_append, length_flatMap_sseFrame, opening, closing]
  omega

theorem appendBytes_eq_ok {output bytes : List UInt8}
    (fits : output.length + bytes.length ≤ maxSseResponseBytes) :
    appendBytes output bytes = .ok (output ++ bytes) :=
  if_neg (Nat.not_lt.mpr fits)

theorem encode_serverRequest :
    (RpcMessage.serverRequest event).encode = .ok (utf8Bytes event.toJson.toText) := by
  have bound := encodedSize_le event
  have small : event.toJson.encodedSize ≤ maxFrameBytes := bound.trans (by decide)
  change (encodeWithin event.toJson maxFrameBytes).mapError _ = _
  unfold encodeWithin
  rw [if_pos small]
  rfl

/-- Events that fit are written one after the other. -/
theorem appendEvents_eq_ok : ∀ output : List UInt8,
      output.length + (events.flatMap sseFrame).length ≤ maxSseResponseBytes →
        appendEvents output (events.map .serverRequest) =
          .ok (output ++ events.flatMap sseFrame) := by
  induction events with
  | nil =>
      intro output _
      rw [List.flatMap_nil, List.append_nil]
      rfl
  | cons event rest ih =>
      intro output fits
      rw [List.flatMap_cons, List.length_append] at fits
      have frame := length_sseFrame event
      obtain ⟨before, after, -⟩ := length_literals
      have written := length_toText event.toJson
      rw [List.map_cons, appendEvents, encode_serverRequest]
      refine Except.bind_eq_ok.mpr ⟨_, rfl, Except.bind_eq_ok.mpr
        ⟨_, appendBytes_eq_ok (by omega), Except.bind_eq_ok.mpr
          ⟨_, appendBytes_eq_ok (by rw [List.length_append]; omega), Except.bind_eq_ok.mpr
            ⟨_, appendBytes_eq_ok (by rw [List.length_append, List.length_append]; omega), ?_⟩⟩⟩⟩
      have joined : output ++ utf8Bytes "data: " ++ utf8Bytes event.toJson.toText ++
          utf8Bytes "\n\n" = output ++ sseFrame event := by
        unfold sseFrame
        simp only [List.append_assoc]
      rw [joined, ih _ (by rw [List.length_append]; omega), List.flatMap_cons,
        List.append_assoc]

theorem encodeEvents_eq_ok {events : List ServerRequest}
    (fits : (sseBody events).length ≤ maxSseResponseBytes) :
    encodeEvents (events.map .serverRequest) = .ok (sseBody events) := by
  obtain ⟨-, -, opening, closing⟩ := length_literals
  have body := length_sseBody events
  have frames := length_flatMap_sseFrame events
  unfold encodeEvents
  refine Except.bind_eq_ok.mpr ⟨utf8Bytes ": connected\n\n", ?_, Except.bind_eq_ok.mpr ⟨_,
    appendEvents_eq_ok events _ (by omega), appendBytes_eq_ok ?_⟩⟩
  · refine (appendBytes_eq_ok ?_).trans (by rw [List.nil_append])
    rw [List.length_nil]
    omega
  · rw [List.length_append]
    omega

end Writing

section Polls

variable (carrier : HttpCarrier EventBuffer) (buffer : EventBuffer) (channel : EventChannel)
  (refreshed : List Publication)

/-- What a poll takes fits the stream, and is at least one event when there is one. -/
theorem takeBounded_ok : (EventBuffer.takeBounded channel maxSseEvents rawBudget).wp
      (fun result after => ∃ events, result = .ok events ∧
        EventBuffer.Taken channel events buffer after ∧
        (sseBody events).length ≤ maxSseResponseBytes ∧
        ((buffer.queue channel).events ≠ [] → events ≠ [])) buffer := by
  obtain ⟨taken, result, front, few, small, some⟩ :=
    takeLoop_ok channel rawBudget maxSseEvents 0 [] buffer (Nat.zero_le _)
  refine ⟨taken, result, front, ?_, fun waiting => some waiting (by decide) (by decide)⟩
  rw [length_sseBody]
  unfold maxSseEvents at few
  have budget : rawBudget = 522208 := by decide
  unfold maxSseResponseBytes
  omega

/-- A poll is answered with what it takes. -/
theorem answer_eq : (answer carrier buffer channel refreshed).1 =
        .ok (response 200 "OK" (contentHeaders "text/event-stream" "no-cache")
          (sseBody (taken buffer channel refreshed))) ∧
      (sseBody (taken buffer channel refreshed)).length ≤ maxSseResponseBytes ∧
      (((refreshed.foldl Publication.perform buffer).queue channel).events ≠ [] →
        taken buffer channel refreshed ≠ []) ∧
      EventBuffer.Taken channel (taken buffer channel refreshed)
        (refreshed.foldl Publication.perform buffer) (answer carrier buffer channel refreshed).2 := by
  obtain ⟨events, result, front, small, some⟩ :=
    takeBounded_ok (refreshed.foldl Publication.perform buffer) channel
  have same : taken buffer channel refreshed = events := by
    unfold taken
    rw [result]
    rfl
  have ran : answer carrier buffer channel refreshed =
      (.ok (response 200 "OK" (contentHeaders "text/event-stream" "no-cache") (sseBody events)),
        ((EventBuffer.takeBounded channel maxSseEvents rawBudget).exec
          (refreshed.foldl Publication.perform buffer)).2) := by
    unfold answer HttpCarrier.handleEvents HttpCarrier.refresh HttpCarrier.ask
    rw [exec_modify_bind, exec_bind, exec_ofFunction]
    unfold eventCarrier
    dsimp only
    rw [show maxSseResponseBytes - sseStaticOverheadBytes - maxSseEvents * 8 = rawBudget from rfl,
      result]
    dsimp only [Except.mapError, Except.map]
    rw [encodeEvents_eq_ok small]
    rfl
  rw [ran, same]
  exact ⟨rfl, small, some, front⟩

/-- What waits before an action and what is published with it is what it delivers and what
waits after it. -/
theorem delivered_balance (action : EventAction) :
    (buffer.queue channel).events ++ published channel buffer action =
      delivered channel buffer action ++ ((action.perform carrier buffer).queue channel).events := by
  cases action with
  | publish publication => exact (publication.queue_perform buffer channel).symm
  | poll polled refreshed =>
      obtain ⟨-, -, -, front⟩ := answer_eq carrier buffer polled refreshed
      have before := queue_foldl_perform buffer channel refreshed
      unfold published delivered EventAction.perform
      dsimp only
      rw [← before]
      by_cases same : polled = channel
      · subst same
        rw [if_pos rfl]
        exact front.front
      · rw [if_neg same, front.other channel (Ne.symm same), List.nil_append]

end Polls

/-- In every run of publications and polls the published events of a channel are those that were
delivered on it, in order, and those that still wait; every poll is answered with the events that
it takes. -/
theorem events_delivered (carrier : HttpCarrier EventBuffer) (actions : List EventAction) :
    (∀ channel, givenOff (EventAction.perform carrier) (published channel) .new actions =
      givenOff (EventAction.perform carrier) (delivered channel) .new actions ++
        ((finalState (EventAction.perform carrier) .new actions).queue channel).events) ∧
      EachStep (EventAction.perform carrier) (Delivers carrier) .new actions := by
  constructor
  · intro channel
    have balance := givenOff_balance
      (fun buffer action => delivered_balance carrier buffer channel action) .new actions
    cases channel <;> exact balance
  · rw [eachStep_iff_prefixes]
    intro earlier action later _
    cases action with
    | publish publication => trivial
    | poll channel refreshed =>
        obtain ⟨answered, small, some, -⟩ := answer_eq carrier
          (finalState (EventAction.perform carrier) .new earlier) channel refreshed
        exact ⟨answered, small, some⟩


end WebGateway
end YunXi
