import YunXi.WebHost.Operations
import YunXi.WebHost.SettingsEffects

/-!
# What requests leave alone

Most requests neither touch the turn of the current session nor its event stream.  Only
prompting and opening another session do.
-/

namespace YunXi
namespace Web

open Protocol (Value ChatMessage)
open Settings
open WebContract
open WebGateway

variable {ω σ : Type} (backend : Backend ω σ)

variable {α : Type}

@[simp] theorem exec_orFail (program : HostProgram ω σ α) (host : WebHost ω σ) :
    (orFail program).exec host =
      ((program.exec host).1.mapError .error, (program.exec host).2) := rfl

@[simp] theorem exec_useSession {ε ε' : Type} (program : SessionProgram ω σ ε α)
    (host : WebHost ω σ) :
    (useSession program : Fallible (WebHost ω σ) ε' (Except ε α)).exec host =
      (.ok (program.exec (host.session, host.world)).1,
        { host with
          session := (program.exec (host.session, host.world)).2.1
          world := (program.exec (host.session, host.world)).2.2 }) := rfl

/-- The turn of the current session is where it was, and so is its event stream. -/
structure SameTurn (host after : WebHost ω σ) : Prop where
  pending : after.session.pending = host.session.pending
  gate : after.pendingApproval = host.pendingApproval
  sessionId : after.webSessionId = host.webSessionId
  history : after.webHistory = host.webHistory
  nextWebId : after.nextWebId = host.nextWebId
  mux : after.events.payloads .mux = host.events.payloads .mux

instance : IsPreorder (WebHost ω σ) SameTurn where
  refl _ := ⟨rfl, rfl, rfl, rfl, rfl, rfl⟩
  trans _ _ _ first second :=
    ⟨second.pending.trans first.pending, second.gate.trans first.gate,
      second.sessionId.trans first.sessionId, second.history.trans first.history,
      second.nextWebId.trans first.nextWebId, second.mux.trans first.mux⟩

theorem SameTurn.refl (host : WebHost ω σ) : SameTurn host host :=
  ⟨rfl, rfl, rfl, rfl, rfl, rfl⟩

/-- The turn stays where it was if the session waits for nothing. -/
def SameWhenIdle (host after : WebHost ω σ) : Prop :=
  host.session.pending = none → SameTurn host after

instance : IsPreorder (WebHost ω σ) SameWhenIdle where
  refl _ _ := .refl _
  trans _ _ _ first second idle :=
    IsTrans.trans (r := SameTurn) _ _ _ (first idle) (second ((first idle).pending.trans idle))

open Fallible

theorem publishEvent_host_same (payload : Value) :
    Preserves SameTurn (publishEvent .host payload : HostProgram ω σ Unit) := by
  intro host
  obtain ⟨events, ran, same⟩ :=
    exec_publishEvent_other host payload (show EventChannel.mux ≠ .host by decide)
  rw [ran]
  exact ⟨rfl, rfl, rfl, rfl, rfl, same⟩

theorem orFail_same {program : HostProgram ω σ α}
    (same : Preserves SameTurn program) : Preserves SameTurn (orFail program) :=
  fun host => same host

theorem query_same {ε' : Type} (ask : σ → ω → Except String α × σ × ω) :
    Preserves SameTurn
      (useSession (ChatSession.query ask) : Fallible (WebHost ω σ) ε' (Except String α)) :=
  fun _ => ⟨rfl, rfl, rfl, rfl, rfl, rfl⟩

theorem throwIf_same (condition : Prop) [Decidable condition] (stop : Stop) :
    Preserves SameTurn (.throwIf condition stop : Handler ω σ Unit) :=
  fun host => .refl host

theorem ofExcept_same (result : Except Stop α) :
    Preserves SameTurn (.ofExcept result : Handler ω σ α) :=
  fun host => .refl host

theorem subagentContext_same (parentSessionId : String) :
    Preserves SameTurn (subagentContext backend parentSessionId : Handler ω σ _) := by
  refine Preserves.bind .get fun host => ?_
  split
  · exact .pure _
  · refine Preserves.bind (query_same _) fun result => ?_
    split
    · exact .pure _
    · split
      · exact .pure _
      · split <;> exact .pure _

theorem dispatchSubagentList_same (payload : Value) :
    Preserves SameTurn (dispatchSubagentList backend payload : Handler ω σ Value) := by
  refine Preserves.bind (ofExcept_same _) fun parent => Preserves.bind .get fun host => ?_
  split
  · exact .pure _
  · refine Preserves.bind (subagentContext_same backend parent) fun context => ?_
    split
    · exact .throw _
    · exact .pure _
    · exact .pure _

theorem dispatchSubagentHistory_same (payload : Value) :
    Preserves SameTurn (dispatchSubagentHistory backend payload : Handler ω σ Value) := by
  refine Preserves.bind (ofExcept_same _) fun request => Preserves.bind .get fun host =>
    Preserves.bind (throwIf_same _ _) fun _ =>
      Preserves.bind (subagentContext_same backend _) fun context => ?_
  split
  · exact .throw _
  · exact .throw _
  · refine Preserves.bind (throwIf_same _ _) fun _ =>
      Preserves.bind (query_same _) fun transcript => ?_
    split
    · exact .throw _
    · exact Preserves.bind .get fun host => .pure _

theorem gatewayHandler_same (request : ClientRequest) :
    Preserves SameTurn (gatewayHandler backend request : Handler ω σ Value) := by
  refine Preserves.bind .get fun host => ?_
  split
  · exact .pure _
  · exact .throw _

theorem dispatchSettingsDescribe_same (payload : Value) :
    Preserves SameTurn (dispatchSettingsDescribe payload : Handler ω σ Value) :=
  Preserves.bind (throwIf_same _ _) fun _ => Preserves.bind .get fun _ => .pure _

/-- What keeps the turn keeps it when the session waits for nothing. -/
theorem whenIdle {ε : Type} {program : Fallible (WebHost ω σ) ε α}
    (same : Preserves SameTurn program) : Preserves SameWhenIdle program :=
  fun host _ => same host

theorem modify_same {ε : Type} {update : WebHost ω σ → WebHost ω σ}
    (same : ∀ host, SameTurn host (update host)) :
    Preserves SameTurn (modify update : Fallible (WebHost ω σ) ε PUnit) :=
  same

theorem captureSettingsSnapshot_same :
    Preserves SameTurn (captureSettingsSnapshot backend : Handler ω σ SettingsSnapshot) := by
  refine Preserves.bind .get fun host => ?_
  split
  · exact .throw _
  · exact .pure _

theorem useSettings_same (program : CapabilitySettingsStore.Writer → StoreProgram Bool) :
    Preserves SameTurn (useSettings backend program : Handler ω σ _) :=
  fun _ => ⟨rfl, rfl, rfl, rfl, rfl, rfl⟩

/-- A session that takes over waits for nothing, as the one before. -/
theorem rebuildInner_same (previous : SettingsSnapshot) :
    Preserves SameWhenIdle
      (rebuildInner backend previous : Handler ω σ (Option SettingsApplyFailure)) := by
  intro host idle
  have effect := rebuildInner_effect backend previous host
  unfold wp at effect
  generalize ((rebuildInner backend previous).exec host).1 = result at effect
  generalize ((rebuildInner backend previous).exec host).2 = after at effect ⊢
  cases effect with
  | rebuilt replacement world replacementIdle runsWith =>
      exact ⟨replacementIdle.trans idle.symm, rfl, rfl, rfl, rfl, rfl⟩
  | takenBack cause world => exact ⟨rfl, rfl, rfl, rfl, rfl, rfl⟩

theorem rebuildAfterSettingsChange_same (previous : SettingsSnapshot) :
    Preserves SameWhenIdle (rebuildAfterSettingsChange backend previous : Handler ω σ _) :=
  Preserves.bind (whenIdle (modify_same fun _ => ⟨rfl, rfl, rfl, rfl, rfl, rfl⟩)) fun _ =>
    Preserves.bind (rebuildInner_same backend previous) fun _ =>
      Preserves.bind (whenIdle (modify_same fun _ => ⟨rfl, rfl, rfl, rfl, rfl, rfl⟩)) fun _ =>
        .pure _

theorem currentView_same :
    Preserves SameTurn (finishSettingsWrite.currentView : Handler ω σ Value) :=
  Preserves.bind .get fun _ => .pure _

theorem finishSettingsWrite_same (previous : SettingsSnapshot)
    (result : Except CapabilitySettingsError Bool) :
    Preserves SameWhenIdle (finishSettingsWrite backend previous result : Handler ω σ Value) := by
  match result with
  | .error error => exact whenIdle (ofExcept_same _)
  | .ok false => exact whenIdle currentView_same
  | .ok true =>
      refine Preserves.bind (rebuildAfterSettingsChange_same backend previous) fun failure => ?_
      split
      · exact .throw _
      · exact Preserves.bind .get fun host =>
          Preserves.bind (whenIdle (orFail_same (publishEvent_host_same _))) fun _ =>
            whenIdle currentView_same

/-- A settings write once it was seen that the session waits for nothing. -/
theorem settingsWriteRest_same (method : String) (payload : Value) :
    Preserves SameWhenIdle (do
      let operation ← .ofExcept (settingsWrite method payload)
      match expectedRevision payload with
      | .error () =>
          .ofExcept (invalidPayload "expectedRevision must be a non-negative integer"
            "expectedRevision")
      | .ok revision => do
          let previous ← captureSettingsSnapshot backend
          let result ← useSettings backend fun writer =>
            CapabilitySettingsStore.perform writer operation revision
          finishSettingsWrite backend previous result : Handler ω σ Value) := by
  refine Preserves.bind (whenIdle (ofExcept_same _)) fun operation => ?_
  split
  · exact whenIdle (ofExcept_same _)
  · exact Preserves.bind (whenIdle (captureSettingsSnapshot_same backend)) fun previous =>
      Preserves.bind (whenIdle (useSettings_same backend _)) fun result =>
        finishSettingsWrite_same backend previous result

/-- A settings write is refused while something is pending, and otherwise nothing is pending
after it either. -/
theorem dispatchSettingsWrite_same (method : String) (payload : Value) :
    Preserves SameTurn (dispatchSettingsWrite backend method payload : Handler ω σ Value) := by
  intro host
  have rest := settingsWriteRest_same backend method payload host
  unfold dispatchSettingsWrite validateSettingsChangeAllowed throwIf
  rw [exec_bind, exec_ofExcept]
  cases validateSettingsNamespace payload with
  | error stop => exact .refl host
  | ok _ =>
      simp only [bind_assoc]
      rw [exec_get_bind, exec_bind, exec_ofExcept]
      by_cases busy : host.rebuildInProgress ∨ host.pendingApproval.isSome ∨
          host.session.pending.isSome
      · rw [if_pos busy]
        exact .refl host
      · rw [if_neg busy]
        refine rest ?_
        cases waits : host.session.pending with
        | none => rfl
        | some approval => exact absurd (.inr (.inr (by rw [waits]; rfl))) busy

/-- The methods that may start a turn or open another session. -/
def MovesTurn (method : String) : Prop :=
  method = sessionCreateMethod ∨ method = sessionHistoryMethod ∨ method = sessionPromptMethod

instance (method : String) : Decidable (MovesTurn method) :=
  inferInstanceAs (Decidable (_ ∨ _))

theorem handler_same {request : ClientRequest} (stays : ¬ MovesTurn request.method) :
    Preserves SameTurn (handler backend request : Handler ω σ Value) := by
  simp only [MovesTurn, not_or] at stays
  obtain ⟨notCreate, notHistory, notPrompt⟩ := stays
  simp only [handler, notCreate, notHistory, notPrompt, if_false]
  split
  · exact dispatchSubagentList_same backend request.payload
  · split
    · exact dispatchSubagentHistory_same backend request.payload
    · split
      · exact dispatchSettingsDescribe_same request.payload
      · split
        · exact dispatchSettingsWrite_same backend request.method request.payload
        · exact gatewayHandler_same backend request

end Web
end YunXi
