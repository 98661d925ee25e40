import YunXi.WebHost.Frames

/-!
# What a turn does to a host

Every way a prompt can end and every way the resolution of an approval can end, each with the
condition under which it happens and the host it leaves behind.
-/

namespace YunXi
namespace Web

open Fallible
open Protocol (Value ChatMessage)
open WebContract
open WebGateway

variable {ω σ : Type} (backend : Backend ω σ)

/-- What was published on each stream between two states of the queues. -/
structure Published (before after : EventBuffer) (onHost onMux : List Value) : Prop where
  host : after.payloads .host = before.payloads .host ++ onHost
  mux : after.payloads .mux = before.payloads .mux ++ onMux

variable {before after : EventBuffer}

theorem Published.of_host {added : List Value}
    (extended : EventBuffer.Extended .host added before after) :
    Published before after added [] :=
  ⟨extended.1, by rw [extended.2 .mux (by decide), List.append_nil]⟩

theorem Published.of_mux {added : List Value}
    (extended : EventBuffer.Extended .mux added before after) :
    Published before after [] added :=
  ⟨by rw [extended.2 .host (by decide), List.append_nil], extended.1⟩

variable {middle : EventBuffer}

theorem Published.trans {firstHost firstMux secondHost secondMux : List Value}
    (first : Published before middle firstHost firstMux)
    (second : Published middle after secondHost secondMux) :
    Published before after (firstHost ++ secondHost) (firstMux ++ secondMux) :=
  ⟨by rw [second.host, first.host, List.append_assoc],
    by rw [second.mux, first.mux, List.append_assoc]⟩

/-- Room on the stream of turns is not touched by what goes to the host stream. -/
theorem Published.publishable_mux {onHost payloads : List Value}
    (published : Published before after onHost []) :
    after.Publishable .mux payloads ↔ before.Publishable .mux payloads := by
  have sameLength : (after.queue .mux).events.length = (before.queue .mux).events.length := by
    rw [← EventBuffer.length_payloads, ← EventBuffer.length_payloads, published.mux,
      List.append_nil]
  unfold EventBuffer.Publishable
  rw [sameLength]

/-- Room on the stream of turns for more, after some was published there. -/
theorem Published.publishable_after
    {onHost first second : List Value} (published : Published before after onHost first)
    (fit : ∀ payload ∈ first, payload.encodedSize ≤ maxPayloadBytes) :
    after.Publishable .mux second ↔ before.Publishable .mux (first ++ second) := by
  have grown : (after.queue .mux).events.length =
      (before.queue .mux).events.length + first.length := by
    rw [← EventBuffer.length_payloads, ← EventBuffer.length_payloads, published.mux,
      List.length_append]
  unfold EventBuffer.Publishable
  rw [grown, List.length_append, List.forall_mem_append, Nat.add_assoc]
  exact ⟨fun ⟨room, fits⟩ => ⟨room, fit, fits⟩, fun ⟨room, _, fits⟩ => ⟨room, fits⟩⟩

section Prompt

variable (host : WebHost ω σ) (sessionId content : String)

/-- Both announcements of a prompt. -/
def statusPayloads : List Value := [statusPayload sessionId true, statusPayload sessionId false]

/-- The events of a turn from a message on, as they are published. -/
def turnPayloads (start : Nat) : List Value :=
  (turnEventsFrom (backend.nowMillis host.world) host.webHistory start).map
    (sessionEventPayload sessionId)

/-- The host when the model is asked. -/
def prompted : WebHost ω σ :=
  { host with webHistory := host.webHistory ++ [.user content] }

/-- What the session makes of the prompt. -/
def promptTurn : Except ChatFailure String × ChatSession σ × ω :=
  (ChatSession.complete backend (host.webHistory ++ [.user content])).exec
    (host.session, host.world)

/-- The host when the session is done with the prompt. -/
def turned : WebHost ω σ :=
  { prompted host content with
    session := (promptTurn backend host content).2.1
    world := (promptTurn backend host content).2.2 }

/-- The host with the answer of the model in its history. -/
def replied (reply : String) : WebHost ω σ :=
  { turned backend host content with
    webHistory := host.webHistory ++ [.user content] ++ [.assistant reply] }

/-- The host with the approval registered that the session waits for. -/
def registered (approval : PendingApprovalView) : WebHost ω σ :=
  { turned backend host content with
    pendingApproval := some (registration host.nextWebId sessionId approval)
    nextWebId := saturatingSucc host.nextWebId }

/-- The outcomes of `runPrompt`. -/
inductive PromptEffect : Except Stop Value → WebHost ω σ → Prop
  | unannounced (error : WebHostError) (events : EventBuffer)
      (refused : ¬ host.events.Publishable .host [statusPayload sessionId true]) :
      PromptEffect (.error (.error error)) { prompted host content with events }
  | unsettled (error : WebHostError) (events : EventBuffer)
      (announced : host.events.Publishable .host [statusPayload sessionId true])
      (refused : ¬ host.events.Publishable .host (statusPayloads sessionId)) :
      PromptEffect (.error (.error error)) { turned backend host content with events }
  | untold (reply : String) (error : WebHostError) (events : EventBuffer)
      (settled : host.events.Publishable .host (statusPayloads sessionId))
      (completed : (promptTurn backend host content).1 = .ok reply)
      (refused : ¬ host.events.Publishable .mux
        (turnPayloads backend (replied backend host content reply) sessionId
          host.webHistory.length)) :
      PromptEffect (.error (.error error)) { replied backend host content reply with events }
  | finished (reply : String) (events : EventBuffer)
      (settled : host.events.Publishable .host (statusPayloads sessionId))
      (completed : (promptTurn backend host content).1 = .ok reply)
      (told : host.events.Publishable .mux
        (turnPayloads backend (replied backend host content reply) sessionId
          host.webHistory.length))
      (published : Published host.events events (statusPayloads sessionId)
        (turnPayloads backend (replied backend host content reply) sessionId
          host.webHistory.length)) :
      PromptEffect (.ok acceptedValue) { replied backend host content reply with events }
  | unregistered (approval : PendingApprovalView) (failure : ChatFailure)
      (error : WebHostError) (events : EventBuffer)
      (settled : host.events.Publishable .host (statusPayloads sessionId))
      (stopped : (promptTurn backend host content).1 = .error failure)
      (pending : (turned backend host content).session.pending = some approval)
      (refused : ¬ host.events.Publishable .mux
        (turnPayloads backend (turned backend host content) sessionId
          host.webHistory.length)) :
      PromptEffect (.error (.error error)) { turned backend host content with events }
  | unasked (approval : PendingApprovalView) (failure : ChatFailure) (error : WebHostError)
      (events : EventBuffer)
      (settled : host.events.Publishable .host (statusPayloads sessionId))
      (stopped : (promptTurn backend host content).1 = .error failure)
      (pending : (turned backend host content).session.pending = some approval)
      (told : host.events.Publishable .mux
        (turnPayloads backend (turned backend host content) sessionId host.webHistory.length))
      (refused : ¬ host.events.Publishable .mux
        (turnPayloads backend (turned backend host content) sessionId
          host.webHistory.length ++
            [approvalPayload (registration host.nextWebId sessionId approval)])) :
      PromptEffect (.error (.error error))
        { registered backend host sessionId content approval with events }
  | suspended (approval : PendingApprovalView) (failure : ChatFailure)
      (events : EventBuffer)
      (settled : host.events.Publishable .host (statusPayloads sessionId))
      (stopped : (promptTurn backend host content).1 = .error failure)
      (pending : (turned backend host content).session.pending = some approval)
      (told : host.events.Publishable .mux
        (turnPayloads backend (turned backend host content) sessionId
          host.webHistory.length ++
            [approvalPayload (registration host.nextWebId sessionId approval)]))
      (published : Published host.events events (statusPayloads sessionId)
        (turnPayloads backend (turned backend host content) sessionId
          host.webHistory.length ++
            [approvalPayload (registration host.nextWebId sessionId approval)])) :
      PromptEffect (.ok acceptedValue)
        { registered backend host sessionId content approval with events }
  | failed (failure : ChatFailure) (events : EventBuffer)
      (settled : host.events.Publishable .host (statusPayloads sessionId))
      (stopped : (promptTurn backend host content).1 = .error failure)
      (idle : (turned backend host content).session.pending = none)
      (published : Published host.events events (statusPayloads sessionId) []) :
      PromptEffect
        (.error (.failure "model-error" "the model could not complete the prompt"
          (.object [("message", .string (boundedMessage failure.display))])))
        { turned backend host content with webHistory := host.webHistory, events }

end Prompt

theorem exec_publishTurnEvents (host : WebHost ω σ) (start : Nat) (sessionId : String) :
    (publishTurnEvents backend start sessionId).exec host =
      (publishAll .mux (turnPayloads backend host sessionId start)).exec host := by
  unfold publishTurnEvents
  rw [exec_get_bind]
  rfl

variable {backend} {host : WebHost ω σ} {sessionId content : String}

theorem exec_publishPendingApproval {approval : PendingApprovalView}
    (pending : host.session.pending = some approval) (free : host.pendingApproval = none) :
    (publishPendingApproval sessionId).exec host =
      (publishEventWithId .mux (registration host.nextWebId sessionId approval).rpcId
        (approvalPayload (registration host.nextWebId sessionId approval))).exec
        { host with
          nextWebId := saturatingSucc host.nextWebId
          pendingApproval := some (registration host.nextWebId sessionId approval) } := by
  unfold publishPendingApproval
  rw [exec_get_bind]
  simp only [pending, free]
  rw [exec_modify_bind]

/-- Publishing the events of a turn, when there is room for them. -/
theorem exec_publishTurnEvents_of_room {start : Nat}
    (told : host.events.Publishable .mux (turnPayloads backend host sessionId start)) :
    ∃ events, (publishTurnEvents backend start sessionId).exec host =
        (.ok (), { host with events }) ∧
      Published host.events events [] (turnPayloads backend host sessionId start) := by
  obtain ⟨events, ran, extended⟩ := exec_publishAll told
  exact ⟨events, (exec_publishTurnEvents backend host start sessionId).trans ran,
    .of_mux extended⟩

theorem exec_publishTurnEvents_of_full {start : Nat}
    (refused : ¬ host.events.Publishable .mux (turnPayloads backend host sessionId start)) :
    ∃ error events, (publishTurnEvents backend start sessionId).exec host =
      (.error error, { host with events }) := by
  obtain ⟨error, events, ran⟩ := exec_publishAll_of_not refused
  exact ⟨error, events, (exec_publishTurnEvents backend host start sessionId).trans ran⟩

/-- A reply was given: it is kept, and its events are published if they fit. -/
theorem finishPrompt_completed {reply : String}
    (settled : host.events.Publishable .host (statusPayloads sessionId))
    (published : Published host.events middle (statusPayloads sessionId) [])
    (completed : (promptTurn backend host content).1 = .ok reply) :
    (finishPrompt backend sessionId host.webHistory.length (.ok reply)).wp
      (PromptEffect backend host sessionId content)
      { turned backend host content with events := middle } := by
  let answered : WebHost ω σ := { replied backend host content reply with events := middle }
  unfold finishPrompt wp
  rw [exec_modify_bind]
  change PromptEffect _ _ _ _ (Fallible.exec _ answered).1 (Fallible.exec _ answered).2
  rw [exec_bind, exec_orFail]
  by_cases told : host.events.Publishable .mux
      (turnPayloads backend (replied backend host content reply) sessionId
        host.webHistory.length)
  · have room : answered.events.Publishable .mux
        (turnPayloads backend answered sessionId host.webHistory.length) :=
      published.publishable_mux.mpr told
    obtain ⟨events, ran, later⟩ := exec_publishTurnEvents_of_room room
    have whole := published.trans later
    rw [List.append_nil, List.nil_append] at whole
    rw [ran]
    exact .finished reply events settled completed told whole
  · have full : ¬ answered.events.Publishable .mux
        (turnPayloads backend answered sessionId host.webHistory.length) :=
      fun room => told (published.publishable_mux.mp room)
    obtain ⟨error, events, ran⟩ := exec_publishTurnEvents_of_full full
    rw [ran]
    exact .untold reply error events settled completed told

/-- A tool call waits for the user: the turn so far and the approval are published. -/
theorem finishPrompt_suspended {failure : ChatFailure}
    {approval : PendingApprovalView} (free : host.pendingApproval = none)
    (settled : host.events.Publishable .host (statusPayloads sessionId))
    (published : Published host.events middle (statusPayloads sessionId) [])
    (stopped : (promptTurn backend host content).1 = .error failure)
    (pending : (turned backend host content).session.pending = some approval) :
    (finishPrompt backend sessionId host.webHistory.length (.error failure)).wp
      (PromptEffect backend host sessionId content)
      { turned backend host content with events := middle } := by
  let waiting : WebHost ω σ := { turned backend host content with events := middle }
  have isPending : (turned backend host content).session.pending.isSome = true := by
    rw [pending]
    rfl
  unfold finishPrompt wp
  rw [exec_get_bind]
  change PromptEffect _ _ _ _ (Fallible.exec _ waiting).1 (Fallible.exec _ waiting).2
  simp only [isPending, if_true]
  rw [exec_bind, exec_orFail]
  by_cases told : host.events.Publishable .mux
      (turnPayloads backend (turned backend host content) sessionId host.webHistory.length)
  · have room : waiting.events.Publishable .mux
        (turnPayloads backend waiting sessionId host.webHistory.length) :=
      published.publishable_mux.mpr told
    obtain ⟨events, ran, later⟩ := exec_publishTurnEvents_of_room room
    have sofar := published.trans later
    rw [List.append_nil, List.nil_append] at sofar
    rw [ran]
    change PromptEffect _ _ _ _ (Fallible.exec _ { waiting with events }).1
      (Fallible.exec _ { waiting with events }).2
    let entered : WebHost ω σ :=
      { registered backend host sessionId content approval with events }
    have asked : (publishPendingApproval sessionId).exec { waiting with events } =
        (publishEventWithId .mux (registration host.nextWebId sessionId approval).rpcId
          (approvalPayload (registration host.nextWebId sessionId approval))).exec entered :=
      exec_publishPendingApproval pending free
    rw [exec_bind, exec_orFail, asked]
    by_cases toldAll : host.events.Publishable .mux
        (turnPayloads backend (turned backend host content) sessionId host.webHistory.length ++
          [approvalPayload (registration host.nextWebId sessionId approval)])
    · have admits : entered.events.Admits .mux
          (approvalPayload (registration host.nextWebId sessionId approval)) :=
        EventBuffer.publishable_singleton.mp
          ((sofar.publishable_after told.2).mpr toldAll)
      obtain ⟨final, answered, last⟩ := exec_publishEventWithId_of_admits
        (registration host.nextWebId sessionId approval).rpcId admits
      have whole := sofar.trans (.of_mux last)
      rw [List.append_nil] at whole
      rw [answered]
      exact .suspended approval failure final settled stopped pending toldAll whole
    · have full : ¬ entered.events.Admits .mux
          (approvalPayload (registration host.nextWebId sessionId approval)) :=
        fun admits => toldAll ((sofar.publishable_after told.2).mp
          (EventBuffer.publishable_singleton.mpr admits))
      obtain ⟨error, failed⟩ := exec_publishEventWithId_of_not_admits
        (registration host.nextWebId sessionId approval).rpcId full
      rw [failed]
      exact .unasked approval failure error events settled stopped pending told toldAll
  · have full : ¬ waiting.events.Publishable .mux
        (turnPayloads backend waiting sessionId host.webHistory.length) :=
      fun room => told (published.publishable_mux.mp room)
    obtain ⟨error, events, ran⟩ := exec_publishTurnEvents_of_full full
    rw [ran]
    exact .unregistered approval failure error events settled stopped pending told

/-- Nothing waits and there is no reply: the message is taken back. -/
theorem finishPrompt_failed {failure : ChatFailure}
    (settled : host.events.Publishable .host (statusPayloads sessionId))
    (published : Published host.events middle (statusPayloads sessionId) [])
    (stopped : (promptTurn backend host content).1 = .error failure)
    (idle : (turned backend host content).session.pending = none) :
    (finishPrompt backend sessionId host.webHistory.length (.error failure)).wp
      (PromptEffect backend host sessionId content)
      { turned backend host content with events := middle } := by
  have isIdle : ¬ (turned backend host content).session.pending.isSome = true := by
    rw [idle]
    exact Bool.false_ne_true
  unfold finishPrompt wp
  rw [exec_get_bind]
  simp only [isIdle, Bool.false_eq_true, if_false]
  rw [exec_modify_bind]
  change PromptEffect _ _ _ _
    (.error (.failure "model-error" "the model could not complete the prompt"
      (.object [("message", .string (boundedMessage failure.display))])))
    { turned backend host content with
      webHistory := (host.webHistory ++ [ChatMessage.user content]).take host.webHistory.length
      events := middle }
  rw [List.take_left]
  exact .failed failure middle settled stopped idle published

theorem finishPrompt_effect (free : host.pendingApproval = none)
    (settled : host.events.Publishable .host (statusPayloads sessionId))
    (published : Published host.events middle (statusPayloads sessionId) []) :
    (finishPrompt backend sessionId host.webHistory.length
      (promptTurn backend host content).1).wp
      (PromptEffect backend host sessionId content)
      { turned backend host content with events := middle } := by
  cases ended : (promptTurn backend host content).1 with
  | ok reply => exact finishPrompt_completed settled published ended
  | error failure =>
      cases pending : (turned backend host content).session.pending with
      | some approval => exact finishPrompt_suspended free settled published ended pending
      | none => exact finishPrompt_failed settled published ended pending

theorem runPrompt_effect (free : host.pendingApproval = none) :
    (runPrompt backend sessionId content).wp (PromptEffect backend host sessionId content)
      host := by
  unfold runPrompt publishSessionStatus wp
  rw [exec_get_bind, exec_modify_bind]
  change PromptEffect _ _ _ _ (Fallible.exec _ (prompted host content)).1
    (Fallible.exec _ (prompted host content)).2
  rw [exec_bind, exec_orFail]
  by_cases announced : host.events.Publishable .host [statusPayload sessionId true]
  · have admits : (prompted host content).events.Admits .host (statusPayload sessionId true) :=
      EventBuffer.publishable_singleton.mp announced
    obtain ⟨first, ran, extended⟩ := exec_publishEvent_of_admits admits
    rw [ran]
    change PromptEffect _ _ _ _ (Fallible.exec _ { prompted host content with events := first }).1
      (Fallible.exec _ { prompted host content with events := first }).2
    rw [exec_get_bind, exec_bind, exec_useSession]
    change PromptEffect _ _ _ _
      (Fallible.exec _ { turned backend host content with events := first }).1
      (Fallible.exec _ { turned backend host content with events := first }).2
    rw [exec_bind, exec_orFail]
    by_cases settled : host.events.Publishable .host (statusPayloads sessionId)
    · have admitsNext : first.Admits .host (statusPayload sessionId false) :=
        EventBuffer.publishable_singleton.mp ((extended.publishable announced.2).mpr settled)
      obtain ⟨second, ranNext, extendedNext⟩ := exec_publishEvent_of_admits
        (show ({ turned backend host content with events := first } :
          WebHost ω σ).events.Admits .host (statusPayload sessionId false) from admitsNext)
      rw [ranNext]
      exact finishPrompt_effect free settled (.of_host (extended.trans extendedNext))
    · have full : ¬ first.Admits .host (statusPayload sessionId false) := fun admitsNext =>
        settled ((extended.publishable announced.2).mp
          (EventBuffer.publishable_singleton.mpr admitsNext))
      obtain ⟨error, events, failed⟩ := exec_publishEvent_of_not_admits
        (show ¬ ({ turned backend host content with events := first } :
          WebHost ω σ).events.Admits .host (statusPayload sessionId false) from full)
      rw [failed]
      exact .unsettled error events announced settled
  · have full : ¬ (prompted host content).events.Admits .host (statusPayload sessionId true) :=
      fun admits => announced (EventBuffer.publishable_singleton.mpr admits)
    obtain ⟨error, events, failed⟩ := exec_publishEvent_of_not_admits full
    rw [failed]
    exact .unannounced error events announced

end Web
end YunXi
