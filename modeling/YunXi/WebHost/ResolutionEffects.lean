import YunXi.WebHost.TurnEffects

/-!
# What the resolution of an approval does to a host

Once a response answers the pending approval, the session goes on with the turn.  Each way
this can end has its condition and the host it leaves behind.
-/

namespace YunXi
namespace Web

open Fallible
open Protocol (Value ChatMessage)
open WebContract
open WebGateway

variable {ω σ : Type} (backend : Backend ω σ)

section Resolution

variable (host : WebHost ω σ) (pending : WebPendingApproval) (outcome : String)

/-- What the session makes of the decision. -/
def decision : Except String (Option String) × ChatSession σ × ω :=
  (if outcome = "allowed-once" then ChatSession.approvePendingModelTool backend
    else ChatSession.denyPendingModelTool backend).exec (host.session, host.world)

/-- The host when the session is done with the decision: the approval has been taken out. -/
def decided : WebHost ω σ :=
  { host with
    session := (decision backend host outcome).2.1
    world := (decision backend host outcome).2.2
    pendingApproval := none }

/-- The host with the rest of the turn in its history. -/
def concluded (reply : String) : WebHost ω σ :=
  { decided backend host outcome with
    webHistory := host.webHistory ++ [.assistant reply] }

/-- The host with the next approval of the turn registered. -/
def reregistered (approval : PendingApprovalView) : WebHost ω σ :=
  { decided backend host outcome with
    pendingApproval := some (registration host.nextWebId pending.sessionId approval)
    nextWebId := saturatingSucc host.nextWebId }

/-- The outcomes of `resolveApproval`. -/
inductive ResolutionEffect : Except WebHostError Value → WebHost ω σ → Prop
  | unannounced (error : WebHostError) (events : EventBuffer)
      (refused : ¬ host.events.Publishable .mux [resolvedPayload pending outcome]) :
      ResolutionEffect (.error error) { decided backend host outcome with events }
  | untold (reply : String) (error : WebHostError) (events : EventBuffer)
      (announced : host.events.Publishable .mux [resolvedPayload pending outcome])
      (completed : (decision backend host outcome).1 = .ok (some reply))
      (idle : (decided backend host outcome).session.pending = none)
      (refused : ¬ host.events.Publishable .mux (resolvedPayload pending outcome ::
        turnPayloads backend (concluded backend host outcome reply) pending.sessionId
          host.webHistory.length)) :
      ResolutionEffect (.error error) { concluded backend host outcome reply with events }
  | finished (reply : String) (events : EventBuffer)
      (announced : host.events.Publishable .mux [resolvedPayload pending outcome])
      (completed : (decision backend host outcome).1 = .ok (some reply))
      (idle : (decided backend host outcome).session.pending = none)
      (told : host.events.Publishable .mux (resolvedPayload pending outcome ::
        turnPayloads backend (concluded backend host outcome reply) pending.sessionId
          host.webHistory.length))
      (published : Published host.events events [] (resolvedPayload pending outcome ::
        turnPayloads backend (concluded backend host outcome reply) pending.sessionId
          host.webHistory.length)) :
      ResolutionEffect (.ok (receipt true none))
        { concluded backend host outcome reply with events }
  | unasked (approval : PendingApprovalView) (error : WebHostError) (events : EventBuffer)
      (announced : host.events.Publishable .mux [resolvedPayload pending outcome])
      (continues : (decision backend host outcome).1 = .ok none)
      (waits : (decided backend host outcome).session.pending = some approval)
      (refused : ¬ host.events.Publishable .mux [resolvedPayload pending outcome,
        approvalPayload (registration host.nextWebId pending.sessionId approval)]) :
      ResolutionEffect (.error error)
        { reregistered backend host pending outcome approval with events }
  | suspended (approval : PendingApprovalView) (events : EventBuffer)
      (announced : host.events.Publishable .mux [resolvedPayload pending outcome])
      (continues : (decision backend host outcome).1 = .ok none)
      (waits : (decided backend host outcome).session.pending = some approval)
      (told : host.events.Publishable .mux [resolvedPayload pending outcome,
        approvalPayload (registration host.nextWebId pending.sessionId approval)])
      (published : Published host.events events [] [resolvedPayload pending outcome,
        approvalPayload (registration host.nextWebId pending.sessionId approval)]) :
      ResolutionEffect (.ok (receipt true none))
        { reregistered backend host pending outcome approval with events }
  | unreported (failure : String) (error : WebHostError) (events : EventBuffer)
      (announced : host.events.Publishable .mux [resolvedPayload pending outcome])
      (stopped : (decision backend host outcome).1 = .error failure)
      (idle : (decided backend host outcome).session.pending = none)
      (refused : ¬ host.events.Publishable .mux [resolvedPayload pending outcome,
        errorPayload pending.sessionId failure]) :
      ResolutionEffect (.error error) { decided backend host outcome with events }
  | failed (failure : String) (events : EventBuffer)
      (announced : host.events.Publishable .mux [resolvedPayload pending outcome])
      (stopped : (decision backend host outcome).1 = .error failure)
      (idle : (decided backend host outcome).session.pending = none)
      (told : host.events.Publishable .mux [resolvedPayload pending outcome,
        errorPayload pending.sessionId failure])
      (published : Published host.events events [] [resolvedPayload pending outcome,
        errorPayload pending.sessionId failure]) :
      ResolutionEffect (.ok (receipt true none)) { decided backend host outcome with events }

/-- How the decision of the session ends: with a reply, before another approval, or with an
error. -/
inductive DecisionEnd : Except String (Option String) → Option PendingApprovalView → Prop
  | completed (reply : String) : DecisionEnd (.ok (some reply)) none
  | waiting (approval : PendingApprovalView) : DecisionEnd (.ok none) (some approval)
  | failed (failure : String) : DecisionEnd (.error failure) none

end Resolution

theorem resolve_end {decide : σ → ω → TurnOutcome × σ × ω} {session : ChatSession σ}
    {world : ω} :
    DecisionEnd ((ChatSession.resolve decide).exec (session, world)).1
      ((ChatSession.resolve decide).exec (session, world)).2.1.pending := by
  obtain ⟨waits, settings, plugins⟩ := session
  cases waits with
  | none => exact .failed "there is no pending model tool action"
  | some approval =>
      rcases ended : decide plugins world with ⟨ending, after, later⟩
      simp only [ChatSession.resolve, exec_ofFunction, ended, ChatSession.afterTurn]
      cases ending with
      | completed reply => exact .completed reply
      | awaitingApproval approval => exact .waiting approval
      | failed failure => exact .failed failure.display

theorem decision_end (host : WebHost ω σ) (outcome : String) :
    DecisionEnd (decision backend host outcome).1
      (decided backend host outcome).session.pending := by
  unfold decided decision
  split
  · exact resolve_end
  · exact resolve_end

variable {backend} {host : WebHost ω σ} {pending : WebPendingApproval} {outcome : String}

/-- The turn ends with a reply, and its events are published if they fit. -/
theorem finishResolution_completed {middle : EventBuffer} {reply : String}
    (announced : host.events.Publishable .mux [resolvedPayload pending outcome])
    (published : Published host.events middle [] [resolvedPayload pending outcome])
    (completed : (decision backend host outcome).1 = .ok (some reply))
    (idle : (decided backend host outcome).session.pending = none) :
    (finishResolution backend pending (.ok (some reply)) >>= fun _ =>
        return receipt true none).wp
      (ResolutionEffect backend host pending outcome)
      { decided backend host outcome with events := middle } := by
  let answered : WebHost ω σ := { concluded backend host outcome reply with events := middle }
  have isIdle : ¬ answered.session.pending.isSome = true := by
    change ¬ (decided backend host outcome).session.pending.isSome = true
    rw [idle]
    exact Bool.false_ne_true
  unfold finishResolution wp
  simp only [bind_assoc]
  rw [exec_get_bind, exec_modify_bind]
  change ResolutionEffect _ _ _ _ (Fallible.exec _ answered).1 (Fallible.exec _ answered).2
  rw [exec_bind]
  by_cases told : host.events.Publishable .mux (resolvedPayload pending outcome ::
      turnPayloads backend (concluded backend host outcome reply) pending.sessionId
        host.webHistory.length)
  · have room : answered.events.Publishable .mux
        (turnPayloads backend answered pending.sessionId host.webHistory.length) :=
      (published.publishable_after announced.2).mpr told
    obtain ⟨events, ran, later⟩ := exec_publishTurnEvents_of_room room
    have whole := published.trans later
    have ranHere : (publishTurnEvents backend
        (decided backend host outcome).webHistory.length pending.sessionId).exec answered =
        (.ok (), { answered with events }) := ran
    rw [ranHere]
    simp only [exec_get_bind, if_neg isIdle]
    exact .finished reply events announced completed idle told whole
  · have full : ¬ answered.events.Publishable .mux
        (turnPayloads backend answered pending.sessionId host.webHistory.length) :=
      fun room => told ((published.publishable_after announced.2).mp room)
    obtain ⟨error, events, ran⟩ := exec_publishTurnEvents_of_full full
    have ranHere : (publishTurnEvents backend
        (decided backend host outcome).webHistory.length pending.sessionId).exec answered =
        (.error error, { answered with events }) := ran
    rw [ranHere]
    exact .untold reply error events announced completed idle told

/-- The turn waits for another approval, which is registered and published if it fits. -/
theorem finishResolution_suspended {middle : EventBuffer} {approval : PendingApprovalView}
    (announced : host.events.Publishable .mux [resolvedPayload pending outcome])
    (published : Published host.events middle [] [resolvedPayload pending outcome])
    (continues : (decision backend host outcome).1 = .ok none)
    (waits : (decided backend host outcome).session.pending = some approval) :
    (finishResolution backend pending (.ok none) >>= fun _ => return receipt true none).wp
      (ResolutionEffect backend host pending outcome)
      { decided backend host outcome with events := middle } := by
  let waiting : WebHost ω σ := { decided backend host outcome with events := middle }
  let entered : WebHost ω σ :=
    { reregistered backend host pending outcome approval with events := middle }
  have isPending : waiting.session.pending.isSome = true := by
    change (decided backend host outcome).session.pending.isSome = true
    rw [waits]
    rfl
  have asked : (publishPendingApproval pending.sessionId).exec waiting =
      (publishEventWithId .mux (registration host.nextWebId pending.sessionId approval).rpcId
        (approvalPayload (registration host.nextWebId pending.sessionId approval))).exec
        entered :=
    exec_publishPendingApproval waits rfl
  unfold finishResolution wp
  change ResolutionEffect _ _ _ _ (Fallible.exec _ waiting).1 (Fallible.exec _ waiting).2
  simp only [bind_assoc]
  rw [exec_get_bind, if_pos isPending, exec_bind, asked]
  by_cases told : host.events.Publishable .mux [resolvedPayload pending outcome,
      approvalPayload (registration host.nextWebId pending.sessionId approval)]
  · have admits : entered.events.Admits .mux
        (approvalPayload (registration host.nextWebId pending.sessionId approval)) :=
      EventBuffer.publishable_singleton.mp ((published.publishable_after announced.2).mpr told)
    obtain ⟨events, ran, extended⟩ := exec_publishEventWithId_of_admits
      (registration host.nextWebId pending.sessionId approval).rpcId admits
    rw [ran]
    exact .suspended approval events announced continues waits told
      (published.trans (.of_mux extended))
  · have full : ¬ entered.events.Admits .mux
        (approvalPayload (registration host.nextWebId pending.sessionId approval)) :=
      fun admits => told ((published.publishable_after announced.2).mp
        (EventBuffer.publishable_singleton.mpr admits))
    obtain ⟨error, failed⟩ := exec_publishEventWithId_of_not_admits
      (registration host.nextWebId pending.sessionId approval).rpcId full
    rw [failed]
    exact .unasked approval error middle announced continues waits told

/-- The turn ends with an error, which is published if it fits. -/
theorem finishResolution_failed {middle : EventBuffer} {failure : String}
    (announced : host.events.Publishable .mux [resolvedPayload pending outcome])
    (published : Published host.events middle [] [resolvedPayload pending outcome])
    (stopped : (decision backend host outcome).1 = .error failure)
    (idle : (decided backend host outcome).session.pending = none) :
    (finishResolution backend pending (.error failure) >>= fun _ => return receipt true none).wp
      (ResolutionEffect backend host pending outcome)
      { decided backend host outcome with events := middle } := by
  let ended : WebHost ω σ := { decided backend host outcome with events := middle }
  unfold finishResolution wp
  change ResolutionEffect _ _ _ _ (Fallible.exec _ ended).1 (Fallible.exec _ ended).2
  rw [exec_bind]
  by_cases told : host.events.Publishable .mux [resolvedPayload pending outcome,
      errorPayload pending.sessionId failure]
  · have admits : ended.events.Admits .mux (errorPayload pending.sessionId failure) :=
      EventBuffer.publishable_singleton.mp ((published.publishable_after announced.2).mpr told)
    obtain ⟨events, ran, extended⟩ := exec_publishEvent_of_admits admits
    rw [ran]
    exact .failed failure events announced stopped idle told
      (published.trans (.of_mux extended))
  · have full : ¬ ended.events.Admits .mux (errorPayload pending.sessionId failure) :=
      fun admits => told ((published.publishable_after announced.2).mp
        (EventBuffer.publishable_singleton.mpr admits))
    obtain ⟨error, events, ran⟩ := exec_publishEvent_of_not_admits full
    rw [ran]
    exact .unreported failure error events announced stopped idle told

theorem resolveApproval_effect (host : WebHost ω σ) (pending : WebPendingApproval)
    (outcome : String) :
    (resolveApproval backend pending outcome).wp
      (ResolutionEffect backend host pending outcome) host := by
  unfold resolveApproval wp
  rw [exec_modify_bind, exec_bind, exec_useSession]
  change ResolutionEffect _ _ _ _ (Fallible.exec _ (decided backend host outcome)).1
    (Fallible.exec _ (decided backend host outcome)).2
  rw [exec_bind]
  by_cases announced : host.events.Publishable .mux [resolvedPayload pending outcome]
  · have admits : (decided backend host outcome).events.Admits .mux
        (resolvedPayload pending outcome) :=
      EventBuffer.publishable_singleton.mp announced
    obtain ⟨middle, ran, extended⟩ := exec_publishEvent_of_admits admits
    have published : Published host.events middle [] [resolvedPayload pending outcome] :=
      .of_mux extended
    rw [ran]
    change (finishResolution backend pending (decision backend host outcome).1 >>= fun _ =>
      return receipt true none).wp (ResolutionEffect backend host pending outcome)
      { decided backend host outcome with events := middle }
    have ends := decision_end backend host outcome
    generalize ended : (decision backend host outcome).1 = result at ends ⊢
    generalize left : (decided backend host outcome).session.pending = waits at ends
    cases ends with
    | completed reply => exact finishResolution_completed announced published ended left
    | waiting approval => exact finishResolution_suspended announced published ended left
    | failed failure => exact finishResolution_failed announced published ended left
  · have full : ¬ (decided backend host outcome).events.Admits .mux
        (resolvedPayload pending outcome) :=
      fun admits => announced (EventBuffer.publishable_singleton.mpr admits)
    obtain ⟨error, events, failed⟩ := exec_publishEvent_of_not_admits full
    rw [failed]
    exact .unannounced error events announced

end Web
end YunXi
