import YunXi.Protocol.Chat
import YunXi.Protocol.JsonAccess

/-!
# Event history of a web session

The events of a session are computed from its messages: a turn opens with a message of the
user and closes with the answer, and every event carries its position as its number.
-/

namespace YunXi
namespace Web

open Protocol (Value ChatMessage ChatRole)

/-- `web_message_value`. -/
def webMessageValue (index : Nat) (message : ChatMessage) : Value :=
  let source : Value := match message.role with
    | .assistant => .object [("kind", .string "model"), ("model", .string "yunxi-next"),
        ("provider", .string "yunxi")]
    | _ => .object [("kind", .string "user")]
  .object [("content", .array [.object [("text", .string message.content),
      ("type", .string "text")]]),
    ("id", .string ("web-message-" ++ toString index)),
    ("role", .string (match message.role with
      | .assistant => "assistant"
      | .user | .system | .tool => "user")),
    ("source", source)]

/-- One event with its number and time. -/
def sessionEvent (seq time : Nat) (eventType : String) (data : Value) (surfaceAppend : Bool) :
    Value :=
  .object ([("data", data), ("seq", .ofNat seq)] ++
    (if surfaceAppend then [("surfaceOp", .string "append")] else []) ++
    [("time", .ofNat time), ("type", .string eventType)])

/-- `push_session_event`: the number of an event is how many there are before it. -/
def pushSessionEvent (events : List Value) (time : Nat) (eventType : String) (data : Value)
    (surfaceAppend : Bool) : List Value :=
  events ++ [sessionEvent events.length time eventType data surfaceAppend]

def stepData (turn : Nat) : Value :=
  .object [("step", .ofNat 0), ("turn", .ofNat turn)]

/-- The events of the message that opens a turn. -/
def pushOpening (time turn : Nat) (user : ChatMessage) (events : List Value) : List Value :=
  let events := pushSessionEvent events time "turn/start" (.object [("turn", .ofNat turn)]) false
  let events := pushSessionEvent events time "user/message" (webMessageValue (turn * 2) user) true
  pushSessionEvent events time "step/start" (stepData turn) false

/-- The events of the message that closes a turn. -/
def pushClosing (time turn : Nat) (assistant : ChatMessage) (events : List Value) :
    List Value :=
  let events := pushSessionEvent events time "assistant/message"
    (.object [("message", webMessageValue (turn * 2 + 1) assistant), ("step", .ofNat 0),
      ("turn", .ofNat turn)]) true
  let events := pushSessionEvent events time "step/end" (stepData turn) false
  pushSessionEvent events time "turn/end"
    (.object [("reason", .object [("kind", .string "completed")]), ("turn", .ofNat turn)]) false

/-- The loop of `session_event_values` over pairs of messages. -/
def pushTurns (time : Nat) : Nat → List Value → List ChatMessage → List Value
  | _, events, [] => events
  | turn, events, [user] => pushOpening time turn user events
  | turn, events, user :: assistant :: rest =>
      pushTurns time (turn + 1)
        (pushClosing time turn assistant (pushOpening time turn user events)) rest

/-- `session_event_values` at a time of the clock. -/
def sessionEventValues (time : Nat) (messages : List ChatMessage) : List Value :=
  pushTurns time 0 [] messages

/-- `first_event_seq_for_message`. -/
def firstEventSeqForMessage (messageIndex : Nat) : Nat :=
  let turn := messageIndex / 2
  if messageIndex % 2 = 0 then turn * 6 else turn * 6 + 3

/-- The events that `publish_turn_events` cuts out, from a message on. -/
def turnEventsFrom (time : Nat) (messages : List ChatMessage) (start : Nat) : List Value :=
  (sessionEventValues time messages).filter fun event =>
    (event.get "seq" |>.bind Value.asU64).any fun seq => firstEventSeqForMessage start ≤ seq

/-- `session_event_payload`. -/
def sessionEventPayload (sessionId : String) (event : Value) : Value :=
  .object [("event", event), ("sessionId", .string sessionId), ("type", .string "session/event")]

/-- `event_type`. -/
def eventType (event : Value) : Option String :=
  event.get "type" |>.bind Value.asStr

def isMessageEvent (event : Option Value) : Bool :=
  event.bind eventType = some "user/message" ∨ event.bind eventType = some "assistant/message"

/-- The first loop of `history_page`: go back until enough messages were seen. -/
def backByMessages (events : List Value) (maximumMessages : Nat) : Nat → Nat → Nat
  | 0, _ => 0
  | start + 1, seenMessages =>
      if seenMessages < maximumMessages then
        backByMessages events maximumMessages start
          (if isMessageEvent events[start]? then seenMessages + 1 else seenMessages)
      else start + 1

/-- The second loop: go back to the start of a turn. -/
def backToTurnStart (events : List Value) : Nat → Nat
  | 0 => 0
  | start + 1 =>
      if (events[start + 1]?).bind eventType = some "turn/start" then start + 1
      else backToTurnStart events start

/-- `history_page`: a page of events and whether there are older ones. -/
def historyPage (time : Nat) (messages : List ChatMessage) (beforeSeq : Option Nat)
    (maximumMessages : Nat) : List Value × Bool :=
  let events := sessionEventValues time messages
  let stop := min (beforeSeq.getD events.length) events.length
  let start := backToTurnStart events (backByMessages events maximumMessages stop 0)
  ((events.drop start).take (stop - start) |>.map fun event => .object [("event", event)],
    start > 0)

/-- `bounded_message`. -/
def boundedMessage (message : String) : String :=
  if message.toList.length > 512 then String.ofList (message.toList.take 512) ++ "..."
  else message

end Web
end YunXi
