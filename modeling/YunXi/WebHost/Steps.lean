import YunXi.WebHost.ResolutionEffects

/-!
# What one operation does to a host

Opening and creating sessions, the prompt behind its checks, the response behind its checks,
and polls: each as the host it leaves behind.
-/

namespace YunXi
namespace Web

open Fallible
open Protocol (Value ChatMessage)
open WebContract
open WebGateway

variable {ω σ : Type} (backend : Backend ω σ)

/-- The host with another session's messages, and nothing to wait for. -/
def opened (host : WebHost ω σ) (sessionId : String) (messages : List ChatMessage) (plugins : σ)
    (world : ω) : WebHost ω σ :=
  { host with
    session := { host.session with pending := none, plugins }
    world
    webHistory := messages
    webSessionId := some sessionId
    pendingApproval := none }

/-- The host when the plugins were asked in vain. -/
def asked (host : WebHost ω σ) (plugins : σ) (world : ω) : WebHost ω σ :=
  { host with session := { host.session with plugins }, world }

/-- The outcomes of opening a session: it is the current one, it becomes the current one, or
it cannot be opened. -/
inductive OpenEffect (host : WebHost ω σ) (sessionId : String) :
    Except Stop Unit → WebHost ω σ → Prop
  | current (isCurrent : host.webSessionId = some sessionId) :
      OpenEffect host sessionId (.ok ()) host
  | activated (snapshot : SessionSnapshot) (plugins : σ) (world : ω)
      (differs : host.webSessionId ≠ some sessionId)
      (activates : backend.activateSession sessionId host.session.plugins host.world =
        (.ok snapshot, plugins, world)) :
      OpenEffect host sessionId (.ok ()) (opened host sessionId snapshot.messages plugins world)
  | unavailable (error : String) (plugins : σ) (world : ω)
      (differs : host.webSessionId ≠ some sessionId)
      (fails : backend.activateSession sessionId host.session.plugins host.world =
        (.error error, plugins, world)) :
      OpenEffect host sessionId (sessionFailure (some sessionId) error)
        (asked host plugins world)

theorem openSession_effect (host : WebHost ω σ) (sessionId : String) :
    (openSession backend sessionId).wp (OpenEffect backend host sessionId) host := by
  unfold openSession ensureWebSession wp
  simp only [bind_assoc]
  rw [exec_get_bind]
  by_cases isCurrent : host.webSessionId = some sessionId
  · simp only [if_pos isCurrent]
    exact .current isCurrent
  · simp only [if_neg isCurrent, bind_assoc]
    rw [exec_bind, exec_useSession]
    simp only [ChatSession.activateWebSession, ChatSession.switchSession,
      exec_ofFunction]
    rcases activates : backend.activateSession sessionId host.session.plugins host.world with
      ⟨result, plugins, world⟩
    cases result with
    | error error => exact .unavailable error plugins world isCurrent activates
    | ok snapshot => exact .activated snapshot plugins world isCurrent activates

def sessionAddedPayload (session : SessionSnapshot) : Value :=
  .object [("blank", .bool true), ("cwd", .string session.cwd),
    ("sessionId", .string session.id), ("type", .string "host/session-added")]

def subscribedPayload (sessionId : String) : Value :=
  .object [("lastSeq", .number "-1"), ("sessionId", .string sessionId),
    ("type", .string "session/subscribed")]

/-- The outcomes of `dispatch_session_create`. -/
inductive CreateEffect (host : WebHost ω σ) (payload : Value) :
    Except Stop Value → WebHost ω σ → Prop
  | malformed (notObject : payload.isObject = false) :
      CreateEffect host payload
        (.error (.failure "invalid-payload" "session.create payload must be an object"
          (.object []))) host
  | busy (waits : host.pendingApproval.isSome = true) :
      CreateEffect host payload
        (.error (.failure "agent-busy"
          "resolve the pending approval before creating another session" (.object []))) host
  | unavailable (error : String) (plugins : σ) (world : ω)
      (fails : backend.createSession host.session.plugins host.world =
        (.error error, plugins, world)) :
      CreateEffect host payload (sessionFailure none error) (asked host plugins world)
  | unannounced (snapshot : SessionSnapshot) (plugins : σ) (world : ω) (error : WebHostError)
      (events : EventBuffer) (free : host.pendingApproval = none)
      (creates : backend.createSession host.session.plugins host.world =
        (.ok snapshot, plugins, world))
      (refused : ¬ (host.events.Publishable .host [sessionAddedPayload snapshot] ∧
        host.events.Publishable .mux [subscribedPayload snapshot.id])) :
      CreateEffect host payload (.error (.error error))
        { opened host snapshot.id [] plugins world with events }
  | created (snapshot : SessionSnapshot) (plugins : σ) (world : ω) (events : EventBuffer)
      (free : host.pendingApproval = none)
      (creates : backend.createSession host.session.plugins host.world =
        (.ok snapshot, plugins, world))
      (announced : host.events.Publishable .host [sessionAddedPayload snapshot] ∧
        host.events.Publishable .mux [subscribedPayload snapshot.id])
      (published : Published host.events events [sessionAddedPayload snapshot]
        [subscribedPayload snapshot.id]) :
      CreateEffect host payload (.ok (.object [("sessionId", .string snapshot.id)]))
        { opened host snapshot.id [] plugins world with events }

variable {host : WebHost ω σ}

variable {payload : Value}

/-- The announcements of a new session. -/
theorem createSession_announced {snapshot : SessionSnapshot} {plugins : σ} {world : ω}
    (free : host.pendingApproval = none)
    (creates : backend.createSession host.session.plugins host.world =
      (.ok snapshot, plugins, world)) :
    (do
      orFail (publishEvent .host (sessionAddedPayload snapshot))
      orFail (publishEvent .mux (subscribedPayload snapshot.id))
      return .object [("sessionId", .string snapshot.id)] : Handler ω σ Value).wp
      (CreateEffect backend host payload) (opened host snapshot.id [] plugins world) := by
  unfold wp
  rw [exec_bind, exec_orFail]
  by_cases added : host.events.Admits .host (sessionAddedPayload snapshot)
  · obtain ⟨middle, ran, first⟩ := exec_publishEvent_of_admits
      (show (opened host snapshot.id [] plugins world).events.Admits .host
        (sessionAddedPayload snapshot) from added)
    have published : Published host.events middle [sessionAddedPayload snapshot] [] :=
      .of_host first
    rw [ran]
    change CreateEffect _ _ _
      (Fallible.exec _ { opened host snapshot.id [] plugins world with events := middle }).1
      (Fallible.exec _ { opened host snapshot.id [] plugins world with events := middle }).2
    rw [exec_bind, exec_orFail]
    by_cases subscribed : host.events.Publishable .mux [subscribedPayload snapshot.id]
    · have admits : middle.Admits .mux (subscribedPayload snapshot.id) :=
        EventBuffer.publishable_singleton.mp (published.publishable_mux.mpr subscribed)
      obtain ⟨events, ranNext, second⟩ := exec_publishEvent_of_admits
        (show ({ opened host snapshot.id [] plugins world with events := middle } :
          WebHost ω σ).events.Admits .mux (subscribedPayload snapshot.id) from admits)
      rw [ranNext]
      exact .created snapshot plugins world events free creates
        ⟨EventBuffer.publishable_singleton.mpr added, subscribed⟩
        (published.trans (.of_mux second))
    · have full : ¬ middle.Admits .mux (subscribedPayload snapshot.id) := fun admits =>
        subscribed (published.publishable_mux.mp (EventBuffer.publishable_singleton.mpr admits))
      obtain ⟨error, events, failed⟩ := exec_publishEvent_of_not_admits
        (show ¬ ({ opened host snapshot.id [] plugins world with events := middle } :
          WebHost ω σ).events.Admits .mux (subscribedPayload snapshot.id) from full)
      rw [failed]
      exact .unannounced snapshot plugins world error events free creates
        fun announced => subscribed announced.2
  · obtain ⟨error, events, failed⟩ := exec_publishEvent_of_not_admits
      (show ¬ (opened host snapshot.id [] plugins world).events.Admits .host
        (sessionAddedPayload snapshot) from added)
    rw [failed]
    exact .unannounced snapshot plugins world error events free creates
      fun announced => added (EventBuffer.publishable_singleton.mp announced.1)

theorem dispatchSessionCreate_effect (host : WebHost ω σ) (payload : Value) :
    (dispatchSessionCreate backend payload).wp (CreateEffect backend host payload) host := by
  unfold dispatchSessionCreate throwIf wp
  rw [exec_bind, exec_ofExcept]
  by_cases notObject : payload.isObject = false
  · rw [if_pos notObject]
    exact .malformed notObject
  · rw [if_neg notObject]
    simp only
    rw [exec_get_bind, exec_bind, exec_ofExcept]
    by_cases waits : host.pendingApproval.isSome = true
    · rw [if_pos waits]
      exact .busy waits
    · rw [if_neg waits]
      simp only
      rw [exec_bind, exec_useSession]
      simp only [ChatSession.createWebSession, ChatSession.switchSession,
        exec_ofFunction]
      rcases creates : backend.createSession host.session.plugins host.world with
        ⟨result, plugins, world⟩
      cases result with
      | error error => exact .unavailable error plugins world creates
      | ok snapshot =>
          simp only
          rw [exec_modify_bind]
          exact createSession_announced backend
            (Option.not_isSome_iff_eq_none.mp waits) creates

/-- The failure of a request for another session than the one that waits. -/
def elsewhereFailure (host : WebHost ω σ) : Stop :=
  .failure "agent-busy" "resolve the pending approval before switching sessions"
    (.object [("sessionId", optionalText host.webSessionId)])

/-- An approval waits, and not in this session. -/
def WaitsElsewhere (host : WebHost ω σ) (sessionId : String) : Prop :=
  host.pendingApproval.isSome ∧ host.webSessionId ≠ some sessionId

instance (host : WebHost ω σ) (sessionId : String) : Decidable (WaitsElsewhere host sessionId) :=
  inferInstanceAs (Decidable (_ ∧ _))

theorem exec_requireFreeFor (host : WebHost ω σ) (sessionId : String) :
    (requireFreeFor sessionId).exec host =
      (if WaitsElsewhere host sessionId then .error (elsewhereFailure host) else .ok (),
        host) := by
  unfold requireFreeFor
  rw [exec_get_bind]
  rfl

variable {sessionId : String}

/-- A session that is opened while nothing waits elsewhere: no approval was pending. -/
theorem free_of_differs
    (free : ¬ WaitsElsewhere host sessionId) (differs : host.webSessionId ≠ some sessionId) :
    host.pendingApproval = none := by
  cases waits : host.pendingApproval with
  | none => rfl
  | some pending => exact absurd ⟨by rw [waits]; rfl, differs⟩ free

/-- The outcomes of `dispatch_session_history`. -/
inductive HistoryEffect (host : WebHost ω σ) (payload : Value) :
    Except Stop Value → WebHost ω σ → Prop
  | unnamed (stop : Stop)
      (parsed : requiredText payload "sessionId"
        "session.history requires a string sessionId" = .error stop) :
      HistoryEffect host payload (.error stop) host
  | elsewhere (sessionId : String)
      (parsed : requiredText payload "sessionId"
        "session.history requires a string sessionId" = .ok sessionId)
      (waits : WaitsElsewhere host sessionId) :
      HistoryEffect host payload (.error (elsewhereFailure host)) host
  | malformed (sessionId : String) (stop : Stop)
      (parsed : requiredText payload "sessionId"
        "session.history requires a string sessionId" = .ok sessionId)
      (free : ¬ WaitsElsewhere host sessionId)
      (page : pageRequest "session.history" payload = .error stop) :
      HistoryEffect host payload (.error stop) host
  | unavailable (sessionId : String) (request : PageRequest) (error : String) (plugins : σ)
      (world : ω)
      (parsed : requiredText payload "sessionId"
        "session.history requires a string sessionId" = .ok sessionId)
      (free : ¬ WaitsElsewhere host sessionId)
      (page : pageRequest "session.history" payload = .ok request)
      (differs : host.webSessionId ≠ some sessionId)
      (fails : backend.activateSession sessionId host.session.plugins host.world =
        (.error error, plugins, world)) :
      HistoryEffect host payload (sessionFailure (some sessionId) error)
        (asked host plugins world)
  | shown (sessionId : String) (request : PageRequest)
      (parsed : requiredText payload "sessionId"
        "session.history requires a string sessionId" = .ok sessionId)
      (free : ¬ WaitsElsewhere host sessionId)
      (page : pageRequest "session.history" payload = .ok request)
      (isCurrent : host.webSessionId = some sessionId) :
      HistoryEffect host payload
        (.ok (pageValue (historyPage (backend.nowMillis host.world) host.webHistory
          request.beforeSeq request.maximum))) host
  | activated (sessionId : String) (request : PageRequest) (snapshot : SessionSnapshot)
      (plugins : σ) (world : ω)
      (parsed : requiredText payload "sessionId"
        "session.history requires a string sessionId" = .ok sessionId)
      (free : ¬ WaitsElsewhere host sessionId)
      (page : pageRequest "session.history" payload = .ok request)
      (differs : host.webSessionId ≠ some sessionId)
      (activates : backend.activateSession sessionId host.session.plugins host.world =
        (.ok snapshot, plugins, world)) :
      HistoryEffect host payload
        (.ok (pageValue (historyPage (backend.nowMillis world) snapshot.messages
          request.beforeSeq request.maximum)))
        (opened host sessionId snapshot.messages plugins world)

theorem dispatchSessionHistory_effect (host : WebHost ω σ) (payload : Value) :
    (dispatchSessionHistory backend payload).wp (HistoryEffect backend host payload) host := by
  unfold dispatchSessionHistory wp
  rw [exec_bind, exec_ofExcept]
  cases parsed : requiredText payload "sessionId"
      "session.history requires a string sessionId" with
  | error stop => exact .unnamed stop parsed
  | ok sessionId =>
      simp only
      rw [exec_bind, exec_requireFreeFor]
      by_cases waits : WaitsElsewhere host sessionId
      · rw [if_pos waits]
        exact .elsewhere sessionId parsed waits
      · rw [if_neg waits]
        simp only
        rw [exec_bind, exec_ofExcept]
        cases page : pageRequest "session.history" payload with
        | error stop => exact .malformed sessionId stop parsed waits page
        | ok request =>
            simp only
            rw [exec_bind]
            have effect := openSession_effect backend host sessionId
            unfold wp at effect
            generalize (openSession backend sessionId).exec host = ran at effect
            obtain ⟨result, after⟩ := ran
            cases effect with
            | current isCurrent => exact .shown sessionId request parsed waits page isCurrent
            | activated snapshot plugins world differs activates =>
                exact .activated sessionId request snapshot plugins world parsed waits page
                  differs activates
            | unavailable error plugins world differs fails =>
                exact .unavailable sessionId request error plugins world parsed waits page
                  differs fails

def promptBusyFailure (sessionId : String) : Stop :=
  .failure "agent-busy" "resolve the pending approval before sending another prompt"
    (.object [("sessionId", .string sessionId)])

/-- The checks of `dispatch_session_prompt`, with its session opened: the session and text. -/
def preparePrompt (payload : Value) : Handler ω σ (String × String) := do
  let (sessionId, content) ← .ofExcept (promptRequest payload)
  requireFreeFor sessionId
  openSession backend sessionId
  let host ← get
  .throwIf (host.pendingApproval.isSome = true) (promptBusyFailure sessionId)
  return (sessionId, content)

theorem dispatchSessionPrompt_eq (payload : Value) :
    (dispatchSessionPrompt backend payload : Handler ω σ Value) =
      preparePrompt backend payload >>= fun (sessionId, content) =>
        runPrompt backend sessionId content := by
  unfold dispatchSessionPrompt preparePrompt
  simp only [bind_assoc, pure_bind]
  rfl

/-- The outcomes of preparing a prompt. -/
inductive PrepareEffect (host : WebHost ω σ) (payload : Value) :
    Except Stop (String × String) → WebHost ω σ → Prop
  | malformed (stop : Stop) (parsed : promptRequest payload = .error stop) :
      PrepareEffect host payload (.error stop) host
  | elsewhere (sessionId content : String)
      (parsed : promptRequest payload = .ok (sessionId, content))
      (waits : WaitsElsewhere host sessionId) :
      PrepareEffect host payload (.error (elsewhereFailure host)) host
  | unavailable (sessionId content error : String) (plugins : σ) (world : ω)
      (parsed : promptRequest payload = .ok (sessionId, content))
      (free : ¬ WaitsElsewhere host sessionId)
      (differs : host.webSessionId ≠ some sessionId)
      (fails : backend.activateSession sessionId host.session.plugins host.world =
        (.error error, plugins, world)) :
      PrepareEffect host payload (sessionFailure (some sessionId) error)
        (asked host plugins world)
  | busy (sessionId content : String)
      (parsed : promptRequest payload = .ok (sessionId, content))
      (isCurrent : host.webSessionId = some sessionId)
      (waits : host.pendingApproval.isSome = true) :
      PrepareEffect host payload (.error (promptBusyFailure sessionId)) host
  | ready (sessionId content : String)
      (parsed : promptRequest payload = .ok (sessionId, content))
      (isCurrent : host.webSessionId = some sessionId)
      (free : host.pendingApproval = none) :
      PrepareEffect host payload (.ok (sessionId, content)) host
  | switched (sessionId content : String) (snapshot : SessionSnapshot) (plugins : σ) (world : ω)
      (parsed : promptRequest payload = .ok (sessionId, content))
      (free : ¬ WaitsElsewhere host sessionId)
      (differs : host.webSessionId ≠ some sessionId)
      (activates : backend.activateSession sessionId host.session.plugins host.world =
        (.ok snapshot, plugins, world)) :
      PrepareEffect host payload (.ok (sessionId, content))
        (opened host sessionId snapshot.messages plugins world)

theorem preparePrompt_effect (host : WebHost ω σ) (payload : Value) :
    (preparePrompt backend payload).wp (PrepareEffect backend host payload) host := by
  unfold preparePrompt wp
  rw [exec_bind, exec_ofExcept]
  cases parsed : promptRequest payload with
  | error stop => exact .malformed stop parsed
  | ok prompt =>
      obtain ⟨sessionId, content⟩ := prompt
      simp only
      rw [exec_bind, exec_requireFreeFor]
      by_cases waits : WaitsElsewhere host sessionId
      · rw [if_pos waits]
        exact .elsewhere sessionId content parsed waits
      · rw [if_neg waits]
        simp only
        rw [exec_bind]
        have effect := openSession_effect backend host sessionId
        unfold wp at effect
        generalize (openSession backend sessionId).exec host = ran at effect
        obtain ⟨result, after⟩ := ran
        cases effect with
        | unavailable error plugins world differs fails =>
            exact .unavailable sessionId content error plugins world parsed waits differs fails
        | activated snapshot plugins world differs activates =>
            simp only
            rw [exec_get_bind]
            exact .switched sessionId content snapshot plugins world parsed waits differs
              activates
        | current isCurrent =>
            simp only
            rw [exec_get_bind]
            unfold throwIf
            rw [exec_bind, exec_ofExcept]
            by_cases pending : after.pendingApproval.isSome = true
            · rw [if_pos pending]
              exact .busy sessionId content parsed isCurrent pending
            · rw [if_neg pending]
              exact .ready sessionId content parsed isCurrent
                (Option.not_isSome_iff_eq_none.mp pending)

/-- A prompt that was prepared goes to the current session, which waits for nothing. -/
theorem prepared_ready {start : WebHost ω σ} {content : String}
    (prepared : (preparePrompt backend payload).exec host = (.ok (sessionId, content), start)) :
    start.webSessionId = some sessionId ∧ start.pendingApproval = none := by
  have effect := of_wp (preparePrompt_effect backend host payload) prepared
  generalize result : (Except.ok (sessionId, content) : Except Stop (String × String)) = prompt
    at effect
  cases effect with
  | ready id text parsed isCurrent free =>
      cases result
      exact ⟨isCurrent, free⟩
  | switched id text snapshot plugins world parsed free differs activates =>
      cases result
      exact ⟨rfl, rfl⟩
  | unavailable => unfold sessionFailure at result; cases result
  | malformed | elsewhere | busy => cases result

/-- A prompt for the current session is prepared at once while nothing waits. -/
theorem prepared_of_current {content : String}
    (parsed : promptRequest payload = .ok (sessionId, content))
    (isCurrent : host.webSessionId = some sessionId) (free : host.pendingApproval = none) :
    (preparePrompt backend payload).exec host = (.ok (sessionId, content), host) := by
  have effect := preparePrompt_effect backend host payload
  unfold wp at effect
  generalize (preparePrompt backend payload).exec host = ran at effect ⊢
  obtain ⟨result, after⟩ := ran
  change PrepareEffect backend host payload result after at effect
  have samePrompt : ∀ {id text : String}, promptRequest payload = .ok (id, text) →
      id = sessionId ∧ text = content := by
    intro id text again
    rw [parsed] at again
    cases again
    exact ⟨rfl, rfl⟩
  cases effect with
  | malformed stop failed =>
      rw [parsed] at failed
      cases failed
  | elsewhere id text again waits =>
      obtain ⟨rfl, rfl⟩ := samePrompt again
      exact absurd isCurrent waits.2
  | unavailable id text error plugins world again _ differs =>
      obtain ⟨rfl, rfl⟩ := samePrompt again
      exact absurd isCurrent differs
  | busy id text again _ waits =>
      rw [free] at waits
      cases waits
  | ready id text again =>
      obtain ⟨rfl, rfl⟩ := samePrompt again
      rfl
  | switched id text snapshot plugins world again _ differs =>
      obtain ⟨rfl, rfl⟩ := samePrompt again
      exact absurd isCurrent differs

/-- Messages that a new or a stored session has when it becomes the current one. -/
inductive Stored (host : WebHost ω σ) : List ChatMessage → Prop
  | created : Stored host []
  | activated (id : String) (snapshot : SessionSnapshot) (plugins : σ) (world : ω)
      (activates : backend.activateSession id host.session.plugins host.world =
        (.ok snapshot, plugins, world)) :
      Stored host snapshot.messages

/-- What a request does to a host that was refreshed: it keeps the turn, opens a session while
nothing waits, or runs a prompt. -/
inductive RequestEffect (host : WebHost ω σ) (request : ClientRequest) :
    WebHost ω σ → Prop
  | kept (after : WebHost ω σ) (same : SameTurn host after) : RequestEffect host request after
  | opened (moves : MovesTurn request.method) (sessionId : String) (messages : List ChatMessage)
      (plugins : σ) (world : ω) (events : EventBuffer) (free : host.pendingApproval = none)
      (stored : Stored backend host messages) :
      RequestEffect host request { opened host sessionId messages plugins world with events }
  | prompted (isPrompt : request.method = sessionPromptMethod) (sessionId content : String)
      (start after : WebHost ω σ) (result : Except Stop Value)
      (prepared : (preparePrompt backend request.payload).exec host =
        (.ok (sessionId, content), start))
      (effect : PromptEffect backend start sessionId content result after) :
      RequestEffect host request after

variable {backend} {host : WebHost ω σ} {request : ClientRequest}

theorem asked_same (host : WebHost ω σ) (plugins : σ) (world : ω) :
    SameTurn host (asked host plugins world) :=
  ⟨rfl, rfl, rfl, rfl, rfl, rfl⟩

theorem dispatchSessionCreate_request (isCreate : request.method = sessionCreateMethod) :
    (dispatchSessionCreate backend request.payload).wp
      (fun _ after => RequestEffect backend host request after) host := by
  refine wp_mono (dispatchSessionCreate_effect backend host request.payload) ?_
  intro result after effect
  cases effect with
  | malformed => exact .kept _ (.refl _)
  | busy => exact .kept _ (.refl _)
  | unavailable error plugins world fails => exact .kept _ (asked_same _ _ _)
  | unannounced snapshot plugins world error events free creates refused =>
      exact .opened (.inl isCreate) snapshot.id [] plugins world events free .created
  | created snapshot plugins world events free creates announced published =>
      exact .opened (.inl isCreate) snapshot.id [] plugins world events free .created

theorem dispatchSessionHistory_request (isHistory : request.method = sessionHistoryMethod) :
    (dispatchSessionHistory backend request.payload).wp
      (fun _ after => RequestEffect backend host request after) host := by
  refine wp_mono (dispatchSessionHistory_effect backend host request.payload) ?_
  intro result after effect
  cases effect with
  | unnamed => exact .kept _ (.refl _)
  | elsewhere => exact .kept _ (.refl _)
  | malformed => exact .kept _ (.refl _)
  | unavailable => exact .kept _ (asked_same _ _ _)
  | shown => exact .kept _ (.refl _)
  | activated sessionId page snapshot plugins world parsed free paged differs activates =>
      exact .opened (.inr (.inl isHistory)) sessionId snapshot.messages plugins world host.events
        (free_of_differs free differs) (.activated sessionId snapshot plugins world activates)

theorem dispatchSessionPrompt_request (isPrompt : request.method = sessionPromptMethod) :
    (dispatchSessionPrompt backend request.payload).wp
      (fun _ after => RequestEffect backend host request after) host := by
  rw [dispatchSessionPrompt_eq]
  have effect := preparePrompt_effect backend host request.payload
  unfold wp at effect ⊢
  rw [exec_bind]
  rcases prepared : (preparePrompt backend request.payload).exec host with ⟨result, start⟩
  rw [prepared] at effect
  cases result with
  | ok prompt =>
      obtain ⟨sessionId, content⟩ := prompt
      have free := (prepared_ready backend prepared).2
      exact .prompted isPrompt sessionId content start _ _ prepared (runPrompt_effect free)
  | error stop =>
      change PrepareEffect backend host request.payload (.error stop) start at effect
      generalize failed : (Except.error stop : Except Stop (String × String)) = result at effect
      cases effect with
      | malformed => exact .kept _ (.refl _)
      | elsewhere => exact .kept _ (.refl _)
      | busy => exact .kept _ (.refl _)
      | unavailable => exact .kept _ (asked_same _ _ _)
      | ready | switched => cases failed

theorem handler_create (isCreate : request.method = sessionCreateMethod) :
    (handler backend request : Handler ω σ Value) =
      dispatchSessionCreate backend request.payload := by
  simp only [handler, isCreate, if_true]

theorem handler_history (isHistory : request.method = sessionHistoryMethod) :
    (handler backend request : Handler ω σ Value) =
      dispatchSessionHistory backend request.payload := by
  simp only [handler, isHistory, if_true]
  rfl

theorem handler_prompt (isPrompt : request.method = sessionPromptMethod) :
    (handler backend request : Handler ω σ Value) =
      dispatchSessionPrompt backend request.payload := by
  simp only [handler, isPrompt, if_true]
  rfl

theorem handler_request :
    (handler backend request).wp (fun _ after => RequestEffect backend host request after)
      host := by
  by_cases moves : MovesTurn request.method
  · obtain isCreate | isHistory | isPrompt := moves
    · rw [handler_create isCreate]
      exact dispatchSessionCreate_request isCreate
    · rw [handler_history isHistory]
      exact dispatchSessionHistory_request isHistory
    · rw [handler_prompt isPrompt]
      exact dispatchSessionPrompt_request isPrompt
  · exact .kept _ (handler_same backend moves host)

theorem step_request_eq (backend : Backend ω σ) (host : WebHost ω σ) (request : ClientRequest) :
    step backend host (.request request) =
      ((handler backend request).exec (refreshed backend host)).2 := by
  change ((dispatch backend request).exec host).2 = _
  unfold dispatch answer
  rw [exec_bind, exec_refresh]
  simp only [exec_ofFunction]
  rcases (handler backend request).exec (refreshed backend host) with ⟨result, after⟩
  rcases result with stop | value
  · cases stop <;> rfl
  · rfl

theorem step_request (backend : Backend ω σ) (host : WebHost ω σ) (request : ClientRequest) :
    RequestEffect backend (refreshed backend host) request
      (step backend host (.request request)) := by
  rw [step_request_eq]
  exact handler_request

/-- A response that names the approval that waits and says how it is resolved. -/
def Resolves (host : WebHost ω σ) (response : ClientResponse) (pending : WebPendingApproval) :
    Prop :=
  host.pendingApproval = some pending ∧ response.rpcId = pending.rpcId ∧
    Answers response pending

/-- Any other response leaves the host as it was. -/
theorem step_response_other (response : ClientResponse)
    (other : ∀ pending, ¬ Resolves host response pending) :
    step backend host (.response response) = host := by
  change ((respond backend response).exec host).2 = host
  unfold respond
  rw [exec_get_bind]
  cases waits : host.pendingApproval with
  | none => rfl
  | some pending =>
      simp only
      by_cases differs : response.rpcId ≠ pending.rpcId
      · rw [if_pos differs]
        rfl
      · rw [if_neg differs]
        have notAnswered : ¬ Answers response pending := fun answers =>
          other pending ⟨waits, not_not.mp differs, answers⟩
        rw [if_pos notAnswered]
        rfl

variable {pending : WebPendingApproval}

theorem exec_respond (backend : Backend ω σ) (response : ClientResponse)
    (resolves : Resolves host response pending) :
    (respond backend response).exec host =
      (resolveApproval backend pending (responseOutcome response)).exec host := by
  obtain ⟨waits, same, answers⟩ := resolves
  unfold respond
  rw [exec_get_bind]
  simp only [waits, same, answers, ne_eq, not_true_eq_false, if_false]

theorem step_response (response : ClientResponse)
    (resolves : Resolves host response pending) :
    ResolutionEffect backend host pending (responseOutcome response)
      ((respond backend response).exec host).1 (step backend host (.response response)) := by
  change ResolutionEffect _ _ _ _ _ ((respond backend response).exec host).2
  rw [exec_respond backend response resolves]
  exact resolveApproval_effect host pending (responseOutcome response)

theorem exec_takeFromGateway (host : WebHost ω σ) (channel : EventChannel)
    (maximumEvents maximumEncodedBytes : Nat) :
    (takeFromGateway channel maximumEvents maximumEncodedBytes).exec host =
      (((EventBuffer.takeBounded channel maximumEvents maximumEncodedBytes).exec
          host.events).1.mapError .gateway,
        { host with
          events := ((EventBuffer.takeBounded channel maximumEvents maximumEncodedBytes).exec
            host.events).2 }) := rfl

/-- Publishing what is registered again changes the event queues only. -/
theorem exec_publishPendingApproval_again {host : WebHost ω σ}
    (sessionId : String) (waits : host.pendingApproval = some pending) :
    ∃ result events, (publishPendingApproval sessionId).exec host =
        (result, { host with events }) ∧
      (events = host.events ∨
        EventBuffer.Extended .mux [approvalPayload pending] host.events events) := by
  have again : (publishPendingApproval sessionId).exec host =
      if host.session.pending.isSome then
        (publishEventWithId .mux pending.rpcId (approvalPayload pending)).exec host
      else (.ok (), host) := by
    unfold publishPendingApproval
    rw [exec_get_bind, waits]
    cases host.session.pending <;> rfl
  rw [again]
  by_cases admits : host.events.Admits .mux (approvalPayload pending)
  · obtain ⟨events, ran, extended⟩ := exec_publishEventWithId_of_admits pending.rpcId admits
    split
    · exact ⟨_, events, ran, .inr extended⟩
    · exact ⟨_, host.events, rfl, .inl rfl⟩
  · obtain ⟨error, failed⟩ := exec_publishEventWithId_of_not_admits pending.rpcId admits
    split
    · exact ⟨_, host.events, failed, .inl rfl⟩
    · exact ⟨_, host.events, rfl, .inl rfl⟩

/-- A poll changes the event queues only. -/
theorem step_poll (backend : Backend ω σ) (host : WebHost ω σ) (channel : EventChannel)
    (maximumEvents maximumEncodedBytes : Nat) :
    ∃ events, step backend host (.poll channel maximumEvents maximumEncodedBytes) =
      { host with events } := by
  change ∃ events, ((takeEvents channel maximumEvents maximumEncodedBytes).exec host).2 =
    { host with events }
  obtain ⟨session, world, disk, projection, queues, history, current, gate, next, busy⟩ := host
  unfold takeEvents
  rw [exec_bind, exec_takeFromGateway]
  generalize (EventBuffer.takeBounded channel maximumEvents maximumEncodedBytes).exec
    queues = first
  obtain ⟨result, middle⟩ := first
  cases result with
  | error error => exact ⟨middle, rfl⟩
  | ok events =>
      simp only [Except.mapError]
      rw [exec_get_bind]
      cases gate with
      | none => exact ⟨middle, rfl⟩
      | some pending =>
          simp only
          split
          · obtain ⟨published, after, ran, -⟩ := exec_publishPendingApproval_again
              pending.sessionId (show (⟨session, world, disk, projection, middle, history, current,
                some pending, next, busy⟩ : WebHost ω σ).pendingApproval = some pending from rfl)
            rw [exec_bind, ran]
            cases published with
            | error error => exact ⟨after, rfl⟩
            | ok _ => exact ⟨_, rfl⟩
          · exact ⟨middle, rfl⟩

end Web
end YunXi
