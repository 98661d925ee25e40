import YunXi.Protocol.Serde
import YunXi.WebHost.History

/-!
# Numbers of session events

Every message makes three events, numbered on from those before it.  So the events of a
longer history start with those of a shorter one, and what is cut out by number is the rest.
-/

namespace YunXi
namespace Web

open Protocol (Value ChatMessage)

variable (time : Nat)

/-- The three events of a message at an index of the history. -/
def messageEvents (index : Nat) (message : ChatMessage) : List Value :=
  let turn := index / 2
  if index % 2 = 0 then
    [sessionEvent (3 * index) time "turn/start" (.object [("turn", .ofNat turn)]) false,
      sessionEvent (3 * index + 1) time "user/message" (webMessageValue (turn * 2) message) true,
      sessionEvent (3 * index + 2) time "step/start" (stepData turn) false]
  else
    [sessionEvent (3 * index) time "assistant/message"
        (.object [("message", webMessageValue (turn * 2 + 1) message), ("step", .ofNat 0),
          ("turn", .ofNat turn)]) true,
      sessionEvent (3 * index + 1) time "step/end" (stepData turn) false,
      sessionEvent (3 * index + 2) time "turn/end"
        (.object [("reason", .object [("kind", .string "completed")]), ("turn", .ofNat turn)])
        false]

/-- The events of messages from an index on. -/
def eventsFrom (time : Nat) : Nat → List ChatMessage → List Value
  | _, [] => []
  | index, message :: rest => messageEvents time index message ++ eventsFrom time (index + 1) rest

theorem length_messageEvents (index : Nat) (message : ChatMessage) :
    (messageEvents time index message).length = 3 := by
  unfold messageEvents
  split <;> rfl

theorem eventsFrom_append (index : Nat) (first second : List ChatMessage) :
    eventsFrom time index (first ++ second) =
      eventsFrom time index first ++ eventsFrom time (index + first.length) second := by
  induction first generalizing index with
  | nil => rfl
  | cons message rest ih =>
      have shifted : index + 1 + rest.length = index + (rest.length + 1) := by omega
      rw [List.cons_append, eventsFrom, eventsFrom, ih, List.length_cons,
        shifted, List.append_assoc]

theorem length_eventsFrom (index : Nat) (messages : List ChatMessage) :
    (eventsFrom time index messages).length = 3 * messages.length := by
  induction messages generalizing index with
  | nil => rfl
  | cons message rest ih =>
      rw [eventsFrom, List.length_append, length_messageEvents, ih,
        List.length_cons]
      omega

theorem pushOpening_eq {time turn : Nat} {events : List Value} (user : ChatMessage)
    (numbered : events.length = 6 * turn) :
    pushOpening time turn user events = events ++ messageEvents time (2 * turn) user := by
  have half : 2 * turn / 2 = turn := by omega
  have even : 2 * turn % 2 = 0 := by omega
  have first : 3 * (2 * turn) = 6 * turn := by omega
  simp [pushOpening, pushSessionEvent, messageEvents, half, even, first, numbered]

theorem pushClosing_eq {time turn : Nat} {events : List Value} (assistant : ChatMessage)
    (numbered : events.length = 6 * turn + 3) :
    pushClosing time turn assistant events =
      events ++ messageEvents time (2 * turn + 1) assistant := by
  have half : (2 * turn + 1) / 2 = turn := by omega
  have first : 3 * (2 * turn + 1) = 6 * turn + 3 := by omega
  simp [pushClosing, pushSessionEvent, messageEvents, half, first, numbered]

/-- The loop goes by turns, two messages at a time. -/
theorem pushTurns_eq (turn : Nat) (events : List Value) (messages : List ChatMessage)
    (numbered : events.length = 6 * turn) :
    pushTurns time turn events messages = events ++ eventsFrom time (2 * turn) messages := by
  induction turn, events, messages using pushTurns.induct with
  | time => exact time
  | case1 turn events => simp [pushTurns, eventsFrom]
  | case2 turn events user => simp [pushTurns, eventsFrom, pushOpening_eq user numbered]
  | case3 turn events user assistant rest ih =>
      have opened := @pushOpening_eq time _ _ user numbered
      have afterOpening : (pushOpening time turn user events).length = 6 * turn + 3 := by
        rw [opened, List.length_append, length_messageEvents, numbered]
      have closed := @pushClosing_eq time _ _ assistant afterOpening
      have afterClosing : (pushClosing time turn assistant
          (pushOpening time turn user events)).length = 6 * (turn + 1) := by
        rw [closed, List.length_append, length_messageEvents, afterOpening]
        omega
      have next : 2 * (turn + 1) = 2 * turn + 1 + 1 := by omega
      rw [pushTurns, ih afterClosing, closed, opened, eventsFrom, eventsFrom,
        next, List.append_assoc, List.append_assoc]

theorem sessionEventValues_eq (messages : List ChatMessage) :
    sessionEventValues time messages = eventsFrom time 0 messages :=
  pushTurns_eq time 0 [] messages rfl

theorem firstEventSeqForMessage_eq (index : Nat) :
    firstEventSeqForMessage index = 3 * index := by
  simp only [firstEventSeqForMessage]
  split <;> omega

/-- The number of an event. -/
def eventSeq (event : Value) : Option Nat :=
  event.get "seq" |>.bind Value.asU64

/-- The events of messages carry the numbers of their places. -/
theorem seq_of_mem_eventsFrom {time index : Nat} {messages : List ChatMessage} {event : Value}
    (member : event ∈ eventsFrom time index messages) :
    ∃ seq, event.get "seq" = some (.ofNat seq) ∧ 3 * index ≤ seq ∧
      seq < 3 * (index + messages.length) := by
  induction messages generalizing index with
  | nil => cases member
  | cons message rest ih =>
      rw [eventsFrom, List.mem_append] at member
      rw [List.length_cons]
      obtain here | later := member
      · have cases_ : ∃ seq, event.get "seq" = some (.ofNat seq) ∧ 3 * index ≤ seq ∧
            seq < 3 * index + 3 := by
          unfold messageEvents at here
          split at here
          all_goals
            simp only [List.mem_cons, List.not_mem_nil, or_false] at here
            obtain rfl | rfl | rfl := here
            · exact ⟨_, rfl, by omega, by omega⟩
            · exact ⟨_, rfl, by omega, by omega⟩
            · exact ⟨_, rfl, by omega, by omega⟩
        obtain ⟨seq, same, low, high⟩ := cases_
        exact ⟨seq, same, low, by omega⟩
      · obtain ⟨seq, same, low, high⟩ := ih later
        exact ⟨seq, same, by omega, by omega⟩

/-- What is cut out from a message on are the events of that message and those after it. -/
theorem turnEventsFrom_append (earlier added : List ChatMessage)
    (numbered : 3 * (earlier ++ added).length ≤ 2 ^ 64) :
    turnEventsFrom time (earlier ++ added) earlier.length =
      eventsFrom time earlier.length added := by
  have below : ∀ event ∈ eventsFrom time 0 earlier,
      ¬ (eventSeq event).any (fun seq => 3 * earlier.length ≤ seq) = true := by
    intro event member
    obtain ⟨seq, same, -, high⟩ := seq_of_mem_eventsFrom member
    rw [List.length_append] at numbered
    simp only [eventSeq, same, Option.bind_some, Value.asU64_ofNat (show seq < 2 ^ 64 by omega),
      Option.any_some, decide_eq_true_eq]
    omega
  have above : ∀ event ∈ eventsFrom time earlier.length added,
      (eventSeq event).any (fun seq => 3 * earlier.length ≤ seq) = true := by
    intro event member
    obtain ⟨seq, same, low, high⟩ := seq_of_mem_eventsFrom member
    rw [List.length_append] at numbered
    simp only [eventSeq, same, Option.bind_some, Value.asU64_ofNat (show seq < 2 ^ 64 by omega),
      Option.any_some, decide_eq_true_eq]
    exact low
  have dropped := List.filter_eq_nil_iff.mpr below
  have kept := List.filter_eq_self.mpr above
  unfold turnEventsFrom
  rw [sessionEventValues_eq, eventsFrom_append, firstEventSeqForMessage_eq, List.filter_append,
    Nat.zero_add]
  exact (congrArg₂ (· ++ ·) dropped kept).trans (List.nil_append _)

/-- An event without its time. -/
def withoutTime : Value → Value
  | .object members =>
      .object (members.map fun member =>
        if member.1 = "time" then (member.1, .null) else member)
  | other => other

theorem withoutTime_sessionEvent (seq time later : Nat) (eventType : String) (data : Value)
    (surfaceAppend : Bool) :
    withoutTime (sessionEvent seq time eventType data surfaceAppend) =
      withoutTime (sessionEvent seq later eventType data surfaceAppend) := by
  cases surfaceAppend <;> simp [sessionEvent, withoutTime]

/-- When the clock is read does not matter but for the times. -/
theorem eventsFrom_withoutTime (later index : Nat) (messages : List ChatMessage) :
    (eventsFrom time index messages).map withoutTime =
      (eventsFrom later index messages).map withoutTime := by
  induction messages generalizing index with
  | nil => rfl
  | cons message rest ih =>
      have here : (messageEvents time index message).map withoutTime =
          (messageEvents later index message).map withoutTime := by
        unfold messageEvents
        split
        all_goals
          simp only [List.map_cons, List.map_nil]
          rw [withoutTime_sessionEvent _ time later, withoutTime_sessionEvent _ time later,
            withoutTime_sessionEvent _ time later]
      rw [eventsFrom, eventsFrom, List.map_append, List.map_append, here, ih]

/-- The events of a history are numbered from zero on, each number once and in order. -/
theorem eventsFrom_seqs (index : Nat) (messages : List ChatMessage) :
    (eventsFrom time index messages).map (fun event => event.get "seq") =
      (List.range' (3 * index) (3 * messages.length)).map fun seq => some (.ofNat seq) := by
  induction messages generalizing index with
  | nil => rfl
  | cons message rest ih =>
      have here : (messageEvents time index message).map (fun event => event.get "seq") =
          [some (.ofNat (3 * index)), some (.ofNat (3 * index + 1)),
            some (.ofNat (3 * index + 2))] := by
        unfold messageEvents
        split <;> rfl
      have longer : 3 * (message :: rest).length = 3 + 3 * rest.length := by
        rw [List.length_cons]
        omega
      have next : 3 * index + 3 = 3 * (index + 1) := by omega
      rw [eventsFrom, List.map_append, here, ih, longer,
        ← List.range'_append_1, List.map_append, next]
      rfl

end Web
end YunXi
