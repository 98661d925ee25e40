import YunXi.WebHost.Host

/-!
# What publishing does to a host

Publishing changes the event queues only, and a sequence of events is published as a whole
exactly when there is room for all of it.
-/

namespace YunXi
namespace Web

open Protocol (Value)
open WebContract
open WebGateway

variable {ω σ : Type} {host : WebHost ω σ}

theorem exec_embedEvents {α : Type} (program : EventBuffer.BufferProgram α) :
    (Fallible.embed WebHostError.gateway (fun host : WebHost ω σ => host.events)
      (fun events host => { host with events }) program).exec host =
      ((program.exec host.events).1.mapError .gateway,
        { host with events := (program.exec host.events).2 }) := rfl

variable {channel : EventChannel} {payload : Value}

theorem exec_publishEvent_of_admits (admits : host.events.Admits channel payload) :
    ∃ events, (publishEvent channel payload).exec host = (.ok (), { host with events }) ∧
      EventBuffer.Extended channel [payload] host.events events := by
  obtain ⟨events, published, extended⟩ := EventBuffer.exec_publish_of_admits admits
  refine ⟨events, ?_, extended⟩
  unfold publishEvent
  rw [exec_embedEvents, published]
  rfl

theorem exec_publishEvent_of_not_admits (refused : ¬ host.events.Admits channel payload) :
    ∃ error events, (publishEvent channel payload).exec host =
      (.error error, { host with events }) := by
  obtain ⟨error, events, failed, -⟩ := EventBuffer.exec_publish_of_not_admits refused
  refine ⟨.gateway error, events, ?_⟩
  unfold publishEvent
  rw [exec_embedEvents, failed]
  rfl

/-- Whether an event is taken or refused, the other stream is left alone. -/
theorem exec_publishEvent_other (host : WebHost ω σ) {other : EventChannel}
    (payload : Value) (differ : other ≠ channel) :
    ∃ events, ((publishEvent channel payload).exec host).2 = { host with events } ∧
      events.payloads other = host.events.payloads other := by
  unfold publishEvent
  rw [exec_embedEvents]
  refine ⟨_, rfl, ?_⟩
  by_cases admits : host.events.Admits channel payload
  · obtain ⟨events, published, extended⟩ := EventBuffer.exec_publish_of_admits admits
    rw [published]
    exact extended.2 other differ
  · obtain ⟨error, events, failed, same⟩ := EventBuffer.exec_publish_of_not_admits admits
    rw [failed]
    exact same other

theorem exec_publishEventWithId_of_admits
    (rpcId : RpcId) (admits : host.events.Admits channel payload) :
    ∃ events, (publishEventWithId channel rpcId payload).exec host =
        (.ok (), { host with events }) ∧
      EventBuffer.Extended channel [payload] host.events events := by
  obtain ⟨events, published, extended⟩ :=
    EventBuffer.exec_publishWithId_of_admits rpcId admits
  refine ⟨events, ?_, extended⟩
  unfold publishEventWithId
  rw [exec_embedEvents, published]
  rfl

theorem exec_publishEventWithId_of_not_admits
    (rpcId : RpcId) (refused : ¬ host.events.Admits channel payload) :
    ∃ error, (publishEventWithId channel rpcId payload).exec host = (.error error, host) := by
  obtain ⟨error, failed⟩ := EventBuffer.exec_publishWithId_of_not_admits rpcId refused
  refine ⟨.gateway error, ?_⟩
  unfold publishEventWithId
  rw [exec_embedEvents, failed]
  rfl

/-- A sequence that fits is published as a whole. -/
theorem exec_publishAll {payloads : List Value}
    (publishable : host.events.Publishable channel payloads) :
    ∃ events, (publishAll channel payloads).exec host = (.ok (), { host with events }) ∧
      EventBuffer.Extended channel payloads host.events events := by
  induction payloads generalizing host with
  | nil => exact ⟨host.events, rfl, .refl channel host.events⟩
  | cons payload rest ih =>
      have admits := EventBuffer.publishable_cons publishable
      obtain ⟨middle, published, first⟩ := exec_publishEvent_of_admits admits
      have restFits : middle.Publishable channel rest :=
        (first.publishable (by simpa using admits.2)).mpr publishable
      have later := @ih { host with events := middle } restFits
      obtain ⟨events, publishedRest, extended⟩ := later
      refine ⟨events, ?_, first.trans extended⟩
      unfold publishAll
      rw [Fallible.exec_bind, published]
      exact publishedRest

/-- A sequence that does not fit is given up at the first event that is refused. -/
theorem exec_publishAll_of_not {payloads : List Value}
    (refused : ¬ host.events.Publishable channel payloads) :
    ∃ error events, (publishAll channel payloads).exec host =
      (.error error, { host with events }) := by
  induction payloads generalizing host with
  | nil => exact absurd (EventBuffer.publishable_nil _ _) refused
  | cons payload rest ih =>
      unfold publishAll
      by_cases admits : host.events.Admits channel payload
      · obtain ⟨middle, published, first⟩ := exec_publishEvent_of_admits admits
        have restRefused : ¬ middle.Publishable channel rest := fun fits =>
          refused ((first.publishable (by simpa using admits.2)).mp fits)
        have later := @ih { host with events := middle } restRefused
        obtain ⟨error, events, failed⟩ := later
        refine ⟨error, events, ?_⟩
        rw [Fallible.exec_bind, published]
        exact failed
      · obtain ⟨error, events, failed⟩ := exec_publishEvent_of_not_admits admits
        refine ⟨error, events, ?_⟩
        rw [Fallible.exec_bind, failed]

end Web
end YunXi
