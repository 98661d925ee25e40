import YunXi.WebHost.EventNumbers
import YunXi.WebHost.Gate

/-!
# Live events and replayed events

What is published while a session is prompted is, but for the times, what its history gives
when it is asked for.
-/

namespace YunXi
namespace Web

open Fallible
open Protocol (Value ChatMessage)
open Settings
open WebContract
open WebGateway

/-- An event payload without the time of its event. -/
def timeless : Value → Value
  | .object members =>
      .object (members.map fun member =>
        if member.1 = "event" then (member.1, withoutTime member.2) else member)
  | other => other

variable (sessionId : String)

/-- The events of a session among payloads. -/
def isEventOf (payload : Value) : Bool :=
  textField payload "type" = some "session/event" ∧
    textField payload "sessionId" = some sessionId

theorem isEventOf_sessionEventPayload (event : Value) :
    isEventOf sessionId (sessionEventPayload sessionId event) = true := by
  simp [isEventOf, textField, sessionEventPayload, Value.get, Value.asStr, List.lookup_cons]

/-- The events a history gives when it is asked for, without their times. -/
def replayed (history : List ChatMessage) : List Value :=
  (sessionEventValues 0 history).map fun event => timeless (sessionEventPayload sessionId event)

/-- The events of a session among published payloads, without their times. -/
def live (published : List Value) : List Value :=
  (published.filter (isEventOf sessionId)).map timeless

theorem live_append (first second : List Value) :
    live sessionId (first ++ second) = live sessionId first ++ live sessionId second := by
  simp [live]

theorem replayed_append (time : Nat) (earlier added : List ChatMessage) :
    replayed sessionId (earlier ++ added) = replayed sessionId earlier ++
      (eventsFrom time earlier.length added).map fun event =>
        timeless (sessionEventPayload sessionId event) := by
  have sameTimes : ∀ first second : List Value,
      first.map withoutTime = second.map withoutTime →
      (first.map fun event => timeless (sessionEventPayload sessionId event)) =
        second.map fun event => timeless (sessionEventPayload sessionId event) := by
    intro first second same
    have payloads := congrArg (List.map (sessionEventPayload sessionId)) same
    simp only [List.map_map] at payloads
    exact payloads
  unfold replayed
  rw [sessionEventValues_eq, sessionEventValues_eq, eventsFrom_append, List.map_append,
    Nat.zero_add]
  exact congrArg _ (sameTimes _ _ (eventsFrom_withoutTime _ _ _ _))

variable {ω σ : Type} {backend : Backend ω σ} {host after : WebHost ω σ}

variable {sessionId : String}

/-- The events of a turn, from its first message on, are those of the messages added. -/
theorem live_turnPayloads {earlier added : List ChatMessage}
    (history : host.webHistory = earlier ++ added)
    (numbered : 3 * host.webHistory.length ≤ 2 ^ 64) :
    replayed sessionId earlier ++
        live sessionId (turnPayloads backend host sessionId earlier.length) =
      replayed sessionId host.webHistory := by
  have fits : 3 * (earlier ++ added).length ≤ 2 ^ 64 := by rwa [← history]
  have all : ∀ payload ∈ turnPayloads backend host sessionId earlier.length,
      isEventOf sessionId payload = true := by
    intro payload member
    unfold turnPayloads at member
    obtain ⟨event, -, rfl⟩ := List.mem_map.mp member
    exact isEventOf_sessionEventPayload sessionId event
  unfold live
  rw [List.filter_eq_self.mpr all, history]
  unfold turnPayloads
  rw [history, turnEventsFrom_append _ _ _ fits, List.map_map,
    replayed_append sessionId (backend.nowMillis host.world)]
  rfl

/-- The payloads a poll hands over when it succeeds. -/
def handedOver : Except WebHostError (List ServerRequest) → List Value
  | .ok events => events.map fun event => event.payload
  | .error _ => []

/-- What an operation hands out of the stream of turns. -/
def handedOut (host : WebHost ω σ) : Operation → List Value
  | .poll .mux maximumEvents maximumEncodedBytes =>
      handedOver ((takeEvents .mux maximumEvents maximumEncodedBytes).exec host).1
  | .refresh | .request _ | .response _ | .poll .host .. => []

/-- What an operation adds to the stream of turns: what is handed out and what waits after it,
less what waited before. -/
def publishedBy (backend : Backend ω σ) (host : WebHost ω σ) (action : Operation) : List Value :=
  (handedOut host action ++ (step backend host action).events.payloads .mux).drop
    (host.events.payloads .mux).length

theorem publishedBy_eq {action : Operation} {added : List Value}
    (nothing : handedOut host action = [])
    (published : (step backend host action).events.payloads .mux =
      host.events.payloads .mux ++ added) :
    publishedBy backend host action = added := by
  unfold publishedBy
  rw [nothing, published, List.nil_append, List.drop_left]

theorem isEventOf_approvalPayload (sessionId : String) (pending : WebPendingApproval) :
    isEventOf sessionId (approvalPayload pending) = false := by
  have otherType : textField (approvalPayload pending) "type" = some "approval/requested" := rfl
  simp [isEventOf, otherType]

variable {result : Except WebHostError (List ServerRequest)}

/-- Events that were taken from the front, handed out or lost, leave nothing new. -/
theorem drop_taken {queues after : EventBuffer} {taken : List ServerRequest}
    (took : EventBuffer.Taken .mux taken queues after)
    (returned : ∀ events, result = .ok events → events = taken) :
    (handedOver result ++ after.payloads .mux).drop (queues.payloads .mux).length = [] := by
  have front : queues.payloads .mux =
      (taken.map fun event => event.payload) ++ after.payloads .mux := by
    unfold EventBuffer.payloads
    rw [took.front, List.map_append]
  cases result with
  | ok events =>
      rw [returned events rfl, front]
      exact List.drop_length
  | error error =>
      refine List.drop_eq_nil_of_le ?_
      rw [front, List.length_append, List.length_append]
      exact Nat.add_le_add_right (Nat.zero_le _) _

variable {payload : Value}

/-- What is taken, whether it is handed over or lost, and what is left were there before. -/
theorem mem_of_taken {queues after : EventBuffer} {taken : List ServerRequest}
    (took : EventBuffer.Taken .mux taken queues after)
    (returned : ∀ events, result = .ok events → events = taken)
    (member : payload ∈ handedOver result ++ after.payloads .mux) :
    payload ∈ queues.payloads .mux := by
  unfold EventBuffer.payloads at member ⊢
  rw [took.front, List.map_append]
  cases result with
  | ok events => rwa [returned events rfl] at member
  | error error => exact List.mem_append_right _ member

theorem takeFromGateway_taken (host : WebHost ω σ) (channel : EventChannel)
    (maximumEvents maximumEncodedBytes : Nat) :
    ∃ result taken queues, (takeFromGateway channel maximumEvents maximumEncodedBytes).exec host =
        (result, { host with events := queues }) ∧
      EventBuffer.Taken channel taken host.events queues ∧
      ∀ events, result = .ok events → events = taken := by
  obtain ⟨taken, took, returned⟩ :=
    EventBuffer.takeBounded_taken channel maximumEvents maximumEncodedBytes host.events
  refine ⟨_, taken, _, exec_takeFromGateway host channel maximumEvents maximumEncodedBytes, took,
    ?_⟩
  intro events same
  exact returned events (Except.mapError_eq_ok.mp same)

/-- A poll adds nothing to the stream of turns but the approval that waits. -/
theorem takeEvents_published (host : WebHost ω σ) (maximumEvents maximumEncodedBytes : Nat) :
    (takeEvents .mux maximumEvents maximumEncodedBytes).wp
      (fun result after => ∀ payload ∈
        (handedOver result ++ after.events.payloads .mux).drop (host.events.payloads .mux).length,
        ∃ pending, payload = approvalPayload pending) host := by
  obtain ⟨session, world, disk, projection, queues, history, current, gate, next, busy⟩ := host
  unfold takeEvents wp
  obtain ⟨result, taken, middle, ran, took, returned⟩ := takeFromGateway_taken
    (⟨session, world, disk, projection, queues, history, current, gate, next, busy⟩ :
      WebHost ω σ) .mux maximumEvents maximumEncodedBytes
  rw [exec_bind, ran]
  have nothing : ∀ payload ∈ (handedOver result ++ middle.payloads .mux).drop
      (queues.payloads .mux).length, ∃ pending, payload = approvalPayload pending := by
    rw [drop_taken took returned]
    exact fun _ member => nomatch member
  cases result with
  | error error => exact nothing
  | ok events =>
      simp only
      rw [exec_get_bind]
      cases gate with
      | none => exact nothing
      | some pending =>
          simp only
          split
          case isFalse => exact nothing
          case isTrue again =>
            obtain ⟨-, handsNothing, isEmpty⟩ := again
            have empty : (middle.queue .mux).events = [] := by
              simpa [EventBuffer.hasEvents] using isEmpty
            have held : ∀ {final : EventBuffer}, final = middle ∨
                EventBuffer.Extended .mux [approvalPayload pending] middle final →
                ∀ payload ∈ final.payloads .mux, payload = approvalPayload pending := by
              intro final extended payload member
              have none : middle.payloads .mux = [] := by rw [EventBuffer.payloads, empty]; rfl
              obtain rfl | extended := extended
              · rw [none] at member
                cases member
              · rw [extended.1, none] at member
                exact List.mem_singleton.mp member
            obtain ⟨published, final, ranAgain, extended⟩ := exec_publishPendingApproval_again
              pending.sessionId (show (⟨session, world, disk, projection, middle, history, current,
                some pending, next, busy⟩ : WebHost ω σ).pendingApproval = some pending from rfl)
            rw [exec_bind, ranAgain]
            intro payload member
            replace member := List.mem_of_mem_drop member
            refine ⟨pending, ?_⟩
            cases published with
            | error error => exact held extended payload member
            | ok _ =>
                obtain ⟨second, takenAgain, last, ranLast, tookLast, returnedLast⟩ :=
                  takeFromGateway_taken (⟨session, world, disk, projection, final, history, current,
                    some pending, next, busy⟩ : WebHost ω σ) .mux maximumEvents
                    maximumEncodedBytes
                simp only [ranLast] at member
                exact held extended payload (mem_of_taken tookLast returnedLast member)

/-- A poll of the other stream leaves the stream of turns alone. -/
theorem takeEvents_host (host : WebHost ω σ) (maximumEvents maximumEncodedBytes : Nat) :
    ((takeEvents .host maximumEvents maximumEncodedBytes).exec host).2.events.payloads .mux =
      host.events.payloads .mux := by
  obtain ⟨session, world, disk, projection, queues, history, current, gate, next, busy⟩ := host
  obtain ⟨result, taken, middle, ran, took, -⟩ := takeFromGateway_taken
    (⟨session, world, disk, projection, queues, history, current, gate, next, busy⟩ :
      WebHost ω σ) .host maximumEvents maximumEncodedBytes
  have same : middle.payloads .mux = queues.payloads .mux := by
    unfold EventBuffer.payloads
    rw [took.other .mux (by decide)]
  unfold takeEvents
  rw [exec_bind, ran]
  cases result with
  | error error => exact same
  | ok events =>
      simp only
      rw [exec_get_bind]
      cases gate with
      | none => exact same
      | some pending =>
          simp only
          split
          case isTrue again => cases again.1
          case isFalse => exact same

/-- A poll adds no event of a turn. -/
theorem live_poll (backend : Backend ω σ) (sessionId : String) (host : WebHost ω σ) (channel : EventChannel)
    (maximumEvents maximumEncodedBytes : Nat) :
    live sessionId
      (publishedBy backend host (.poll channel maximumEvents maximumEncodedBytes)) = [] := by
  have approvals : ∀ payload ∈
      publishedBy backend host (.poll channel maximumEvents maximumEncodedBytes),
      ∃ pending, payload = approvalPayload pending := by
    cases channel with
    | mux => exact takeEvents_published host maximumEvents maximumEncodedBytes
    | host =>
        intro payload member
        unfold publishedBy at member
        rw [show (step backend host (.poll .host maximumEvents maximumEncodedBytes)).events.payloads
          .mux = host.events.payloads .mux from takeEvents_host host _ _] at member
        rw [show handedOut host (.poll .host maximumEvents maximumEncodedBytes) = [] from rfl,
          List.nil_append, List.drop_length] at member
        cases member
  unfold live
  rw [List.filter_eq_nil_iff.mpr, List.map_nil]
  intro payload member
  obtain ⟨pending, rfl⟩ := approvals payload member
  rw [isEventOf_approvalPayload]
  exact Bool.false_ne_true

/-- What was published for the current session is what its history gives. -/
structure Streamed (sessionId : String) (published : List Value) (host : WebHost ω σ) : Prop where
  current : host.webSessionId = some sessionId
  gate : ∀ pending, host.pendingApproval = some pending → pending.sessionId = sessionId
  same : live sessionId published = replayed sessionId host.webHistory

/-- A request that stays with the current session. -/
def StaysWith (host : WebHost ω σ) (payload : Value) : Prop :=
  ∀ sessionId, stringField payload "sessionId" = some sessionId →
    host.webSessionId = some sessionId

/-- An operation stays with the current session and its publishes succeed. -/
def Streams (backend : Backend ω σ) (host : WebHost ω σ) : Operation → Prop
  | .request request =>
      request.method ≠ sessionCreateMethod ∧
      (MovesTurn request.method → StaysWith host request.payload) ∧
      ∃ response, ((dispatch backend request).exec host).1 = .ok response
  | .response response => ∃ value, ((respond backend response).exec host).1 = .ok value
  | .refresh | .poll .. => True

theorem requiredText_eq_ok {field message : String}
    (parsed : requiredText payload field message = .ok sessionId) :
    stringField payload field = some sessionId := by
  unfold requiredText at parsed
  split at parsed
  next text found =>
    cases parsed
    exact found
  next => cases parsed

theorem promptRequest_eq_ok {content : String}
    (parsed : promptRequest payload = .ok (sessionId, content)) :
    stringField payload "sessionId" = some sessionId := by
  unfold promptRequest at parsed
  obtain ⟨id, named, rest⟩ := Except.bind_eq_ok.mp parsed
  split at rest
  · cases rest
  · simp only at rest
    split at rest
    · cases rest
    · split at rest
      · cases rest
      · cases rest
        exact requiredText_eq_ok named

/-- An answered request whose handler did not stop with an error of the host. -/
theorem answered_handler {request : ClientRequest} {error : WebHostError}
    {response : ServerResponse}
    (answered : ((dispatch backend request).exec host).1 = .ok response) :
    ((handler backend request).exec (refreshed backend host)).1 ≠ .error (.error error) := by
  intro stopped
  unfold dispatch answer at answered
  rw [exec_bind, exec_refresh] at answered
  simp only [exec_ofFunction] at answered
  rcases ran : (handler backend request).exec (refreshed backend host) with ⟨result, final⟩
  rw [ran] at answered stopped
  simp only at stopped
  subst stopped
  cases answered

variable {published : List Value}

theorem Streamed.of_same {added : List Value}
    (streamed : Streamed sessionId published host) (current : after.webSessionId = host.webSessionId)
    (gate : after.pendingApproval = host.pendingApproval)
    (history : after.webHistory = host.webHistory) (none : live sessionId added = []) :
    Streamed sessionId (published ++ added) after := by
  refine ⟨current.trans streamed.current, fun pending waits => ?_, ?_⟩
  · exact streamed.gate pending (gate.symm.trans waits)
  · rw [live_append, none, List.append_nil, history, streamed.same]

/-- A prompt that is answered publishes the events of the messages it adds. -/
theorem Streamed.of_prompt {content : String}
    {result : Except Stop Value} (streamed : Streamed sessionId published host)
    (answered : ∀ error, result ≠ .error (.error error))
    (numbered : 3 * after.webHistory.length ≤ 2 ^ 64)
    (effect : PromptEffect backend host sessionId content result after) :
    ∃ added, after.events.payloads .mux = host.events.payloads .mux ++ added ∧
      Streamed sessionId (published ++ added) after := by
  cases effect with
  | unannounced error | unsettled error | untold _ error | unregistered _ _ error
  | unasked _ _ error => exact absurd rfl (answered error)
  | finished reply events settled completed told publishes =>
      refine ⟨_, publishes.mux, streamed.current, streamed.gate, ?_⟩
      rw [live_append, streamed.same]
      exact live_turnPayloads (List.append_assoc _ _ _) numbered
  | suspended approval failure events settled stopped pending told publishes =>
      refine ⟨_, publishes.mux, streamed.current, fun pending waits => by cases waits; rfl, ?_⟩
      have nothing : live sessionId
          [approvalPayload (registration host.nextWebId sessionId approval)] = [] := by
        rw [live, List.filter_cons_of_neg, List.filter_nil, List.map_nil]
        rw [isEventOf_approvalPayload]
        exact Bool.false_ne_true
      rw [live_append, live_append, nothing, List.append_nil, streamed.same]
      exact live_turnPayloads rfl numbered
  | failed failure events settled stopped idle publishes =>
      refine ⟨[], publishes.mux, ?_⟩
      exact streamed.of_same rfl rfl rfl rfl

theorem HistoryEffect.same {result : Except Stop Value}
    (stays : StaysWith host payload)
    (effect : HistoryEffect backend host payload result after) : SameTurn host after := by
  cases effect with
  | unnamed | elsewhere | malformed | shown => exact .refl _
  | unavailable => exact asked_same _ _ _
  | activated sessionId request snapshot plugins world parsed free page differs =>
      exact absurd (stays sessionId (requiredText_eq_ok parsed)) differs

/-- Preparing a prompt for the current session changes nothing of the turn. -/
theorem PrepareEffect.same {result : Except Stop (String × String)}
    (stays : StaysWith host payload)
    (effect : PrepareEffect backend host payload result after) :
    SameTurn host after ∧ ∀ sessionId content, result = .ok (sessionId, content) →
      after = host ∧ host.webSessionId = some sessionId := by
  cases effect with
  | malformed | elsewhere | busy => exact ⟨.refl _, fun _ _ failed => by cases failed⟩
  | unavailable =>
      refine ⟨asked_same _ _ _, fun _ _ failed => ?_⟩
      unfold sessionFailure at failed
      cases failed
  | ready sessionId content parsed isCurrent free =>
      refine ⟨.refl _, fun _ _ same => ?_⟩
      cases same
      exact ⟨rfl, isCurrent⟩
  | switched sessionId content snapshot plugins world parsed free differs activates =>
      exact absurd (stays sessionId (promptRequest_eq_ok parsed)) differs

theorem stream_request {request : ClientRequest}
    (streamed : Streamed sessionId published host)
    (streams : Streams backend host (.request request))
    (numbered : 3 * (step backend host (.request request)).webHistory.length ≤ 2 ^ 64) :
    Streamed sessionId (published ++ publishedBy backend host (.request request))
      (step backend host (.request request)) := by
  obtain ⟨notCreate, stays, response, answered⟩ := streams
  have notStopped : ∀ error, ((handler backend request).exec (refreshed backend host)).1 ≠
      .error (.error error) := fun error => answered_handler answered
  have reached : ∃ added, (step backend host (.request request)).events.payloads .mux =
      host.events.payloads .mux ++ added ∧
      Streamed sessionId (published ++ added) (step backend host (.request request)) := by
    have same : ∀ {final : WebHost ω σ}, SameTurn (refreshed backend host) final →
        ∃ added, final.events.payloads .mux = host.events.payloads .mux ++ added ∧
          Streamed sessionId (published ++ added) final := by
      intro final kept
      refine ⟨[], ?_, streamed.of_same kept.sessionId kept.gate kept.history rfl⟩
      rw [List.append_nil]
      exact kept.mux
    rw [step_request_eq] at numbered ⊢
    by_cases moves : MovesTurn request.method
    · have current := stays moves
      obtain isCreate | isHistory | isPrompt := moves
      · exact absurd isCreate notCreate
      · rw [handler_history isHistory]
        have effect := dispatchSessionHistory_effect backend (refreshed backend host)
          request.payload
        exact same (HistoryEffect.same current effect)
      · rw [handler_prompt isPrompt, dispatchSessionPrompt_eq] at numbered notStopped ⊢
        have effect := preparePrompt_effect backend (refreshed backend host) request.payload
        rcases prepared : (preparePrompt backend request.payload).exec
          (refreshed backend host) with ⟨result, start⟩
        unfold wp at effect
        rw [prepared] at effect
        obtain ⟨kept, ready⟩ := PrepareEffect.same
          (show StaysWith (refreshed backend host) request.payload from current) effect
        cases result with
        | error stop =>
            rw [exec_bind_of_error prepared]
            exact same kept
        | ok prompt =>
            obtain ⟨promptSession, content⟩ := prompt
            obtain ⟨rfl, isCurrent⟩ := ready promptSession content rfl
            rw [exec_bind_of_ok prepared] at numbered notStopped ⊢
            have sameSession : sessionId = promptSession :=
              Option.some.inj (streamed.current.symm.trans isCurrent)
            subst sameSession
            have free := (prepared_ready backend prepared).2
            have ran : (runPrompt backend sessionId content).wp
                (PromptEffect backend (refreshed backend host) sessionId content)
                (refreshed backend host) := runPrompt_effect free
            have here : Streamed sessionId published (refreshed backend host) :=
              ⟨streamed.current, streamed.gate, streamed.same⟩
            exact here.of_prompt notStopped numbered ran
    · exact same (handler_same backend moves (refreshed backend host))
  obtain ⟨added, mux, streamedAfter⟩ := reached
  rw [publishedBy_eq rfl mux]
  exact streamedAfter

/-- Payloads of another kind are no events of a turn. -/
theorem live_cons_of_not (rest : List Value)
    (other : isEventOf sessionId payload = false) :
    live sessionId (payload :: rest) = live sessionId rest := by
  rw [live, List.filter_cons_of_neg, live]
  rw [other]
  exact Bool.false_ne_true

theorem isEventOf_resolvedPayload (sessionId : String) (pending : WebPendingApproval)
    (outcome : String) : isEventOf sessionId (resolvedPayload pending outcome) = false := by
  have otherType : textField (resolvedPayload pending outcome) "type" =
      some "approval/resolved" := rfl
  simp [isEventOf, otherType]

theorem isEventOf_errorPayload (sessionId current message : String) :
    isEventOf sessionId (errorPayload current message) = false := by
  have otherType : textField (errorPayload current message) "type" = some "session/error" := rfl
  simp [isEventOf, otherType]

/-- A resolution that is answered publishes the events of the reply, if there is one. -/
theorem Streamed.of_resolution {outcome : String}
    {pending : WebPendingApproval} {result : Except WebHostError Value}
    (streamed : Streamed sessionId published host) (waits : host.pendingApproval = some pending)
    (answered : ∀ error, result ≠ .error error)
    (numbered : 3 * after.webHistory.length ≤ 2 ^ 64)
    (effect : ResolutionEffect backend host pending outcome result after) :
    ∃ added, after.events.payloads .mux = host.events.payloads .mux ++ added ∧
      Streamed sessionId (published ++ added) after := by
  have sameSession := streamed.gate pending waits
  subst sameSession
  cases effect with
  | unannounced error | untold _ error | unasked _ error | unreported _ error =>
      exact absurd rfl (answered error)
  | finished reply events announced completed idle told publishes =>
      refine ⟨_, publishes.mux, streamed.current, (fun _ still => nomatch still), ?_⟩
      rw [live_append, live_cons_of_not _ (isEventOf_resolvedPayload _ _ _), streamed.same]
      exact live_turnPayloads rfl numbered
  | suspended approval events announced continues still told publishes =>
      refine ⟨_, publishes.mux, streamed.current, fun other again => by cases again; rfl, ?_⟩
      rw [live_append, live_cons_of_not _ (isEventOf_resolvedPayload _ _ _),
        live_cons_of_not _ (isEventOf_approvalPayload _ _), streamed.same]
      exact List.append_nil _
  | failed failure events announced stopped idle told publishes =>
      refine ⟨_, publishes.mux, streamed.current, (fun _ still => nomatch still), ?_⟩
      rw [live_append, live_cons_of_not _ (isEventOf_resolvedPayload _ _ _),
        live_cons_of_not _ (isEventOf_errorPayload _ _ _), streamed.same]
      exact List.append_nil _

theorem stream_response {response : ClientResponse}
    (streamed : Streamed sessionId published host)
    (streams : Streams backend host (.response response))
    (numbered : 3 * (step backend host (.response response)).webHistory.length ≤ 2 ^ 64) :
    Streamed sessionId (published ++ publishedBy backend host (.response response))
      (step backend host (.response response)) := by
  by_cases resolves : ∃ pending, Resolves host response pending
  · obtain ⟨pending, resolved⟩ := resolves
    obtain ⟨value, answered⟩ := streams
    have effect : ResolutionEffect backend host pending (responseOutcome response)
        ((respond backend response).exec host).1 (step backend host (.response response)) :=
      step_response response resolved
    rw [answered] at effect
    obtain ⟨added, mux, streamedAfter⟩ := streamed.of_resolution resolved.1
      (fun error failed => by cases failed) numbered effect
    rw [publishedBy_eq rfl mux]
    exact streamedAfter
  · have unchanged : step backend host (.response response) = host :=
      step_response_other response (not_exists.mp resolves)
    have nothing : publishedBy backend host (.response response) = [] := by
      refine publishedBy_eq rfl ?_
      rw [unchanged, List.append_nil]
    rw [nothing, unchanged, List.append_nil]
    exact streamed

theorem stream_step (action : Operation)
    (streamed : Streamed sessionId published host) (streams : Streams backend host action)
    (numbered : 3 * (step backend host action).webHistory.length ≤ 2 ^ 64) :
    Streamed sessionId (published ++ publishedBy backend host action)
      (step backend host action) := by
  cases action with
  | request request => exact stream_request streamed streams numbered
  | response response => exact stream_response streamed streams numbered
  | refresh =>
      refine streamed.of_same rfl rfl rfl ?_
      rw [publishedBy_eq rfl (List.append_nil _).symm]
      rfl
  | poll channel maximumEvents maximumEncodedBytes =>
      obtain ⟨events, polled⟩ := step_poll backend host channel maximumEvents maximumEncodedBytes
      have none := live_poll backend sessionId host channel maximumEvents maximumEncodedBytes
      rw [polled]
      exact streamed.of_same rfl rfl rfl none

/-- In every run on one web session, from when it was created, whose publishes succeed, the
events published on the stream of turns are, but for their times, those its history gives:
numbered from zero on, each once and in order. -/
theorem liveEvents_eq_replayed {start : WebHost ω σ}
    (current : start.webSessionId = some sessionId) (created : start.webHistory = [])
    (free : start.pendingApproval = none) (actions : List Operation)
    (streams : EachStep (step backend) (Streams backend) start actions)
    (numbered : EachStep (step backend)
      (fun host action => 3 * (step backend host action).webHistory.length ≤ 2 ^ 64)
      start actions) :
    live sessionId (givenOff (step backend) (publishedBy backend) start actions) =
        replayed sessionId (finalState (step backend) start actions).webHistory ∧
      (sessionEventValues 0 (finalState (step backend) start actions).webHistory).map
          (fun event => event.get "seq") =
        (List.range (3 * (finalState (step backend) start actions).webHistory.length)).map
          fun seq => some (.ofNat seq) := by
  have run : ∀ (actions : List Operation) (host : WebHost ω σ) (published : List Value),
      Streamed sessionId published host →
      EachStep (step backend) (Streams backend) host actions →
      EachStep (step backend)
        (fun host action => 3 * (step backend host action).webHistory.length ≤ 2 ^ 64)
        host actions →
      Streamed sessionId
        (published ++ givenOff (step backend) (publishedBy backend) host actions)
        (finalState (step backend) host actions) := by
    intro actions
    induction actions with
    | nil =>
        intro host published streamed _ _
        rw [givenOff, List.append_nil]
        exact streamed
    | cons action actions ih =>
        intro host published streamed streams numbered
        have later := ih _ _ (stream_step action streamed streams.1 numbered.1)
          streams.2 numbered.2
        rwa [List.append_assoc] at later
  have atStart : Streamed sessionId [] start := by
    refine ⟨current, fun pending waits => ?_, ?_⟩
    · rw [free] at waits
      cases waits
    · rw [created]
      rfl
  have streamed := run actions start [] atStart streams numbered
  refine ⟨streamed.same, ?_⟩
  rw [sessionEventValues_eq, eventsFrom_seqs, List.range_eq_range']

set_option maxRecDepth 4000 in
theorem greeting_answered :
    ((dispatch askingBackend greetingRequest).exec createdHost).1.isOk = true ∧
      ((respond askingBackend allowResponse).exec
        (step askingBackend createdHost (.request greetingRequest))).1.isOk = true := by
  decide +kernel

set_option maxRecDepth 4000 in
theorem greeting_numbered :
    3 * (step askingBackend createdHost (.request greetingRequest)).webHistory.length ≤ 2 ^ 64 ∧
      3 * (step askingBackend (step askingBackend createdHost (.request greetingRequest))
        (.response allowResponse)).webHistory.length ≤ 2 ^ 64 := by
  decide +kernel

/-- A turn that waits for an approval is published in two parts. -/
theorem liveEvents_greeting :
    live "s" (givenOff (step askingBackend) (publishedBy askingBackend) createdHost
        [.request greetingRequest, .response allowResponse]) =
      replayed "s" (finalState (step askingBackend) createdHost
        [.request greetingRequest, .response allowResponse]).webHistory := by
  have current : createdHost.webSessionId = some "s" := by decide +kernel
  have created : createdHost.webHistory = [] := List.isEmpty_iff.mp (by decide +kernel)
  have free : createdHost.pendingApproval = none :=
    Option.isNone_iff_eq_none.mp (by decide +kernel)
  have stays : StaysWith createdHost greetingRequest.payload := by
    intro sessionId named
    cases named
    exact current
  have streams : EachStep (step askingBackend) (Streams askingBackend) createdHost
      [.request greetingRequest, .response allowResponse] :=
    ⟨⟨by decide, fun _ => stays, Except.exists_of_isOk greeting_answered.1⟩,
      Except.exists_of_isOk greeting_answered.2, trivial⟩
  have numbered : EachStep (step askingBackend)
      (fun host action => 3 * (step askingBackend host action).webHistory.length ≤ 2 ^ 64)
      createdHost [.request greetingRequest, .response allowResponse] :=
    ⟨greeting_numbered.1, greeting_numbered.2, trivial⟩
  exact (liveEvents_eq_replayed current created free _ streams numbered).1

end Web
end YunXi
