import YunXi.Program.Run
import YunXi.WebHost.Steps

/-!
# The approval gate

The host registers what its session waits for, so that the browser can answer it.  A publish
that fails between the session and the registration leaves an approval that no response can
answer; only a later prompt registers it.
-/

namespace YunXi
namespace Web

open Fallible
open Protocol (Value ChatMessage)
open Settings
open WebContract
open WebGateway

variable {ω σ : Type} (backend : Backend ω σ)

/-- What the host has registered against what its session waits for. -/
inductive GateMatches (current : Option String) :
    Option WebPendingApproval → Option PendingApprovalView → Prop
  | closed : GateMatches current none none
  | waiting (pending : WebPendingApproval) (approval : PendingApprovalView)
      (sameCall : pending.callId = approval.callId)
      (sameTool : pending.toolName = approval.toolName)
      (sameSession : current = some pending.sessionId) :
      GateMatches current (some pending) (some approval)

/-- The host has registered what its session waits for, and nothing else. -/
def GateSound (host : WebHost ω σ) : Prop :=
  GateMatches host.webSessionId host.pendingApproval host.session.pending

variable {backend} {host after : WebHost ω σ}

theorem gateSound_closed (free : host.pendingApproval = none)
    (idle : host.session.pending = none) : GateSound host := by
  unfold GateSound
  rw [free, idle]
  exact .closed

variable {pending : WebPendingApproval}

theorem gateSound_waiting {approval : PendingApprovalView}
    (registered : host.pendingApproval = some pending)
    (waits : host.session.pending = some approval) (sameCall : pending.callId = approval.callId)
    (sameTool : pending.toolName = approval.toolName)
    (sameSession : host.webSessionId = some pending.sessionId) : GateSound host := by
  unfold GateSound
  rw [registered, waits]
  exact .waiting pending approval sameCall sameTool sameSession

theorem GateSound.isSome_eq (sound : GateSound host) :
    host.pendingApproval.isSome = host.session.pending.isSome := by
  unfold GateSound at sound
  generalize host.pendingApproval = gate at sound ⊢
  generalize host.session.pending = waits at sound ⊢
  cases sound <;> rfl

theorem GateSound.idle_of_free (sound : GateSound host) (free : host.pendingApproval = none) :
    host.session.pending = none := by
  have same := sound.isSome_eq
  rw [free] at same
  exact Option.not_isSome_iff_eq_none.mp (by rw [← same]; exact Bool.false_ne_true)

theorem GateSound.session_eq (sound : GateSound host)
    (registered : host.pendingApproval = some pending) :
    host.webSessionId = some pending.sessionId := by
  unfold GateSound at sound
  rw [registered] at sound
  generalize host.session.pending = waits at sound
  cases sound with
  | waiting _ approval sameCall sameTool sameSession => exact sameSession

theorem GateSound.of_same (sound : GateSound host) (same : SameTurn host after) :
    GateSound after := by
  unfold GateSound at sound ⊢
  rwa [same.sessionId, same.gate, same.pending]

/-- A gate that is not there while the session waits is not sound. -/
theorem not_gateSound (free : host.pendingApproval = none)
    (waits : host.session.pending.isSome = true) : ¬ GateSound host := by
  intro sound
  rw [sound.idle_of_free free] at waits
  cases waits

/-- If the session comes to wait for an approval, what is published before it is registered
fits. -/
def PromptRegisters (backend : Backend ω σ) (start : WebHost ω σ) (sessionId content : String) :
    Prop :=
  start.events.Publishable .host [statusPayload sessionId true] →
    (turned backend start content).session.pending.isSome = true →
    start.events.Publishable .host (statusPayloads sessionId) ∧
      start.events.Publishable .mux
        (turnPayloads backend (turned backend start content) sessionId start.webHistory.length)

/-- Every approval the session comes to wait for in an operation gets registered: what is
published before it fits the queues. -/
def Registers (backend : Backend ω σ) (host : WebHost ω σ) : Operation → Prop
  | .request request =>
      request.method = sessionPromptMethod → ∀ sessionId content start,
        (preparePrompt backend request.payload).exec (refreshed backend host) =
          (.ok (sessionId, content), start) →
        PromptRegisters backend start sessionId content
  | .response response =>
      ∀ pending, Resolves host response pending →
        (decided backend host (responseOutcome response)).session.pending.isSome = true →
        host.events.Publishable .mux [resolvedPayload pending (responseOutcome response)]
  | .refresh | .poll .. => True

variable {session : ChatSession σ}

/-- A prompt that ends with a reply leaves the session waiting for nothing. -/
theorem complete_idle {messages : List ChatMessage} {world : ω}
    {reply : String}
    (completed : ((ChatSession.complete backend messages).exec (session, world)).1 =
      .ok reply) :
    ((ChatSession.complete backend messages).exec (session, world)).2.1.pending = none := by
  obtain ⟨waits, settings, plugins⟩ := session
  cases waits with
  | some approval => cases completed
  | none =>
      simp only [ChatSession.complete, exec_ofFunction, ChatSession.afterTurn]
        at completed ⊢
      generalize (backend.startTurn messages plugins world).1 = outcome at completed ⊢
      cases outcome with
      | completed => rfl
      | awaitingApproval | failed => cases completed

theorem idle_of_completed {start : WebHost ω σ} {content reply : String}
    (completed : (promptTurn backend start content).1 = .ok reply) :
    (turned backend start content).session.pending = none :=
  complete_idle completed

section Prompt

variable {start : WebHost ω σ} {sessionId content : String} {result : Except Stop Value}

/-- A prompt that registers what it has to leaves a sound gate. -/
theorem PromptEffect.gateSound (sound : GateSound start)
    (isCurrent : start.webSessionId = some sessionId) (free : start.pendingApproval = none)
    (registers : PromptRegisters backend start sessionId content)
    (effect : PromptEffect backend start sessionId content result after) : GateSound after := by
  have closed : ∀ {host : WebHost ω σ}, host.pendingApproval = start.pendingApproval →
      host.session.pending = none → GateSound host :=
    fun same idle => gateSound_closed (same.trans free) idle
  cases effect with
  | unannounced error events refused => exact closed rfl (sound.idle_of_free free)
  | unsettled error events announced refused =>
      refine closed rfl ?_
      cases waits : (turned backend start content).session.pending with
      | none => rfl
      | some approval => exact absurd (registers announced (by rw [waits]; rfl)).1 refused
  | untold reply error events settled completed refused =>
      exact closed rfl (idle_of_completed completed)
  | finished reply events settled completed told published =>
      exact closed rfl (idle_of_completed completed)
  | unregistered approval failure error events settled stopped pending refused =>
      exact absurd (registers settled.of_append (by rw [pending]; rfl)).2 refused
  | unasked approval failure error events settled stopped pending told refused =>
      exact gateSound_waiting rfl pending rfl rfl isCurrent
  | suspended approval failure events settled stopped pending told published =>
      exact gateSound_waiting rfl pending rfl rfl isCurrent
  | failed failure events settled stopped idle published => exact closed rfl idle

/-- A prompt that does not register what it has to leaves an approval that no response answers. -/
theorem PromptEffect.not_gateSound (free : start.pendingApproval = none)
    (misses : ¬ PromptRegisters backend start sessionId content)
    (effect : PromptEffect backend start sessionId content result after) :
    ¬ GateSound after := by
  unfold PromptRegisters at misses
  simp only [not_forall] at misses
  obtain ⟨announced, waits, missing⟩ := misses
  have settledMisses : ∀ {payloads : List Value},
      start.events.Publishable .mux
        (turnPayloads backend (turned backend start content) sessionId start.webHistory.length ++
          payloads) →
      ¬ start.events.Publishable .host (statusPayloads sessionId) :=
    fun told settled => missing ⟨settled, told.of_append⟩
  cases effect with
  | unannounced error events refused => exact absurd announced refused
  | unsettled error events announced refused => exact Web.not_gateSound free waits
  | untold reply error events settled completed refused =>
      rw [idle_of_completed completed] at waits
      cases waits
  | finished reply events settled completed told published =>
      rw [idle_of_completed completed] at waits
      cases waits
  | unregistered approval failure error events settled stopped pending refused =>
      exact Web.not_gateSound free waits
  | unasked approval failure error events settled stopped pending told refused =>
      exact absurd ⟨settled, told⟩ missing
  | suspended approval failure events settled stopped pending told published =>
      exact absurd settled (settledMisses told)
  | failed failure events settled stopped idle published =>
      rw [idle] at waits
      cases waits

end Prompt

section Resolution

variable {pending : WebPendingApproval} {outcome : String} {result : Except WebHostError Value}

theorem ResolutionEffect.gateSound (isCurrent : host.webSessionId = some pending.sessionId)
    (registers : (decided backend host outcome).session.pending.isSome = true →
      host.events.Publishable .mux [resolvedPayload pending outcome])
    (effect : ResolutionEffect backend host pending outcome result after) :
    GateSound after := by
  cases effect with
  | unannounced error events refused =>
      refine gateSound_closed rfl ?_
      cases waits : (decided backend host outcome).session.pending with
      | none => rfl
      | some approval => exact absurd (registers (by rw [waits]; rfl)) refused
  | untold reply error events announced completed idle refused => exact gateSound_closed rfl idle
  | finished reply events announced completed idle told published =>
      exact gateSound_closed rfl idle
  | unasked approval error events announced continues waits refused =>
      exact gateSound_waiting rfl waits rfl rfl isCurrent
  | suspended approval events announced continues waits told published =>
      exact gateSound_waiting rfl waits rfl rfl isCurrent
  | unreported failure error events announced stopped idle refused =>
      exact gateSound_closed rfl idle
  | failed failure events announced stopped idle told published => exact gateSound_closed rfl idle

theorem ResolutionEffect.not_gateSound
    (waits : (decided backend host outcome).session.pending.isSome = true)
    (refused : ¬ host.events.Publishable .mux [resolvedPayload pending outcome])
    (effect : ResolutionEffect backend host pending outcome result after) :
    ¬ GateSound after := by
  cases effect with
  | unannounced error events refused => exact Web.not_gateSound rfl waits
  | untold _ _ _ announced | finished _ _ announced | unasked _ _ _ announced
  | suspended _ _ announced | unreported _ _ _ announced | failed _ _ announced =>
      exact absurd announced refused

end Resolution

theorem refreshed_same (backend : Backend ω σ) (host : WebHost ω σ) : SameTurn host (refreshed backend host) :=
  ⟨rfl, rfl, rfl, rfl, rfl, rfl⟩

/-- The host a prompt starts from has a sound gate. -/
theorem prepared_gateSound {payload : Value} {prompt : String × String}
    (sound : GateSound host)
    (prepared : (preparePrompt backend payload).exec host = (.ok prompt, after)) :
    GateSound after := by
  have effect := of_wp (preparePrompt_effect backend host payload) prepared
  cases effect with
  | ready => exact sound
  | switched => exact gateSound_closed rfl rfl

/-- What a prompt does, from the host it starts in. -/
theorem step_prompt {request : ClientRequest} {sessionId content : String}
    (isPrompt : request.method = sessionPromptMethod)
    (prepared : (preparePrompt backend request.payload).exec (refreshed backend host) =
      (.ok (sessionId, content), after)) :
    PromptEffect backend after sessionId content
      ((runPrompt backend sessionId content).exec after).1
      (step backend host (.request request)) := by
  rw [step_request_eq, handler_prompt isPrompt, dispatchSessionPrompt_eq,
    exec_bind_of_ok prepared]
  exact runPrompt_effect (prepared_ready backend prepared).2

theorem step_gateSound (action : Operation) (sound : GateSound host)
    (registers : Registers backend host action) : GateSound (step backend host action) := by
  cases action with
  | refresh => exact sound.of_same (refreshed_same backend host)
  | poll channel maximumEvents maximumEncodedBytes =>
      obtain ⟨events, polled⟩ := step_poll backend host channel maximumEvents maximumEncodedBytes
      rw [polled]
      exact sound
  | response response =>
      by_cases resolves : ∃ pending, Resolves host response pending
      · obtain ⟨pending, resolved⟩ := resolves
        exact (step_response response resolved).gateSound (sound.session_eq resolved.1)
          (registers pending resolved)
      · rw [step_response_other response (not_exists.mp resolves)]
        exact sound
  | request request =>
      have soundRefreshed := sound.of_same (refreshed_same backend host)
      generalize reached : step backend host (.request request) = final
      have effect := step_request backend host request
      rw [reached] at effect
      cases effect with
      | kept _ same => exact soundRefreshed.of_same same
      | opened => exact gateSound_closed rfl rfl
      | prompted isPrompt sessionId content start _ result prepared effect =>
          obtain ⟨isCurrent, free⟩ := prepared_ready backend prepared
          exact effect.gateSound (prepared_gateSound soundRefreshed prepared) isCurrent free
            (registers isPrompt sessionId content start prepared)

theorem step_not_gateSound (action : Operation)
    (misses : ¬ Registers backend host action) : ¬ GateSound (step backend host action) := by
  cases action with
  | refresh => exact absurd trivial misses
  | poll => exact absurd trivial misses
  | response response =>
      simp only [Registers, not_forall] at misses
      obtain ⟨pending, resolved, waits, refused⟩ := misses
      exact (step_response response resolved).not_gateSound waits refused
  | request request =>
      simp only [Registers, not_forall] at misses
      obtain ⟨isPrompt, sessionId, content, start, prepared, missing⟩ := misses
      exact (step_prompt isPrompt prepared).not_gateSound (prepared_ready backend prepared).2
        missing

/-- The approval an operation resolves. -/
def resolvedBy (host : WebHost ω σ) : Operation → List WebPendingApproval
  | .response response =>
      match host.pendingApproval with
      | some pending =>
          if response.rpcId = pending.rpcId ∧ Answers response pending then [pending] else []
      | none => []
  | .refresh | .request _ | .poll .. => []

/-- The approval an operation registers. -/
def registeredBy (backend : Backend ω σ) (host : WebHost ω σ) (action : Operation) :
    List WebPendingApproval :=
  if host.pendingApproval = none ∨ resolvedBy host action ≠ [] then
    (step backend host action).pendingApproval.toList
  else []

theorem resolvedBy_eq_singleton {response : ClientResponse}
    (resolves : Resolves host response pending) :
    resolvedBy host (.response response) = [pending] := by
  unfold resolvedBy
  rw [resolves.1]
  exact if_pos resolves.2

/-- A prompt is prepared only while nothing is registered. -/
theorem prepared_free {payload : Value} {prompt : String × String}
    (prepared : (preparePrompt backend payload).exec host = (.ok prompt, after)) :
    host.pendingApproval = none := by
  have effect := of_wp (preparePrompt_effect backend host payload) prepared
  cases effect with
  | ready sessionId content parsed isCurrent free => exact free
  | switched sessionId content snapshot plugins world parsed free differs activates =>
      exact free_of_differs free differs

/-- What is registered stays registered until it is resolved. -/
theorem step_keeps_registered (action : Operation)
    (registered : host.pendingApproval = some pending) (unresolved : resolvedBy host action = []) :
    (step backend host action).pendingApproval = some pending := by
  cases action with
  | refresh => exact registered
  | poll channel maximumEvents maximumEncodedBytes =>
      obtain ⟨events, polled⟩ := step_poll backend host channel maximumEvents maximumEncodedBytes
      rw [polled]
      exact registered
  | response response =>
      have other : ∀ pending, ¬ Resolves host response pending := by
        intro pending resolves
        rw [resolvedBy_eq_singleton resolves] at unresolved
        cases unresolved
      rw [step_response_other response other]
      exact registered
  | request request =>
      have waits : (refreshed backend host).pendingApproval = some pending := registered
      generalize reached : step backend host (.request request) = final
      have effect := step_request backend host request
      rw [reached] at effect
      cases effect with
      | kept _ same => exact same.gate.trans waits
      | opened moves sessionId messages plugins world events free =>
          rw [free] at waits
          cases waits
      | prompted isPrompt sessionId content start _ result prepared =>
          rw [prepared_free prepared] at waits
          cases waits

theorem registered_balance (host : WebHost ω σ) (action : Operation) :
    host.pendingApproval.toList ++ registeredBy backend host action =
      resolvedBy host action ++ (step backend host action).pendingApproval.toList := by
  unfold registeredBy
  cases waits : host.pendingApproval with
  | none =>
      have nothing : resolvedBy host action = [] := by
        cases action with
        | response response => unfold resolvedBy; rw [waits]
        | refresh | request | poll => rfl
      rw [if_pos (.inl rfl), nothing, Option.toList_none]
  | some pending =>
      by_cases unresolved : resolvedBy host action = []
      · rw [if_neg (by simp [unresolved]), unresolved,
          step_keeps_registered action waits unresolved, List.append_nil, List.nil_append]
      · have resolved : resolvedBy host action = [pending] := by
          cases action with
          | response response =>
              unfold resolvedBy at unresolved ⊢
              rw [waits] at unresolved ⊢
              by_cases answers : response.rpcId = pending.rpcId ∧ Answers response pending
              · exact if_pos answers
              · exact absurd (if_neg answers) unresolved
          | refresh | request | poll => exact absurd rfl unresolved
        rw [if_pos (.inr unresolved), resolved]
        rfl

/-- A response that approves what waits. -/
def Approves (host : WebHost ω σ) (response : ClientResponse) : Prop :=
  ∃ pending, Resolves host response pending ∧ responseOutcome response = "allowed-once"

theorem resolveApproval_deny (run : σ → ω → TurnOutcome × σ × ω) (pending : WebPendingApproval)
    {outcome : String} (notAllowed : outcome ≠ "allowed-once") :
    (resolveApproval { backend with approve := run } pending outcome : HostProgram ω σ Value) =
      resolveApproval backend pending outcome := by
  unfold resolveApproval
  rw [if_neg notAllowed, if_neg notAllowed]
  rfl

/-- Nothing but a response that approves lets the session run the call that waits. -/
theorem step_approve_irrelevant (run : σ → ω → TurnOutcome × σ × ω) (action : Operation)
    (unapproved : ∀ response, action = .response response → ¬ Approves host response) :
    step { backend with approve := run } host action = step backend host action := by
  cases action with
  | refresh => rfl
  | request request => rfl
  | poll => rfl
  | response response =>
      by_cases resolves : ∃ pending, Resolves host response pending
      · obtain ⟨pending, resolved⟩ := resolves
        have notAllowed : responseOutcome response ≠ "allowed-once" :=
          fun allowed => unapproved response rfl ⟨pending, resolved, allowed⟩
        change ((respond _ response).exec host).2 = ((respond backend response).exec host).2
        rw [exec_respond _ response resolved, exec_respond backend response resolved,
          resolveApproval_deny run pending notAllowed]
      · rw [step_response_other response (not_exists.mp resolves),
          step_response_other response (not_exists.mp resolves)]

/-- A host over a session that was just launched has a sound gate. -/
theorem launched_gateSound {disk : SettingsDisk} {before world : ω}
    (launches : ChatSession.launch backend disk before = (.ok session, world)) :
    GateSound (launched backend session world disk) :=
  gateSound_closed rfl (launch_ok backend launches).1

/-- In a run of a host the gate is sound throughout exactly when every approval the session
comes to wait for gets registered.  Only a response that names the registered approval and
allows it runs the call, every registered approval is resolved at most once, in order, and any
other response leaves the host as it was. -/
theorem approvalGate_iff {disk : SettingsDisk} {before world : ω}
    (launches : ChatSession.launch backend disk before = (.ok session, world))
    (actions : List Operation) :
    (Throughout (step backend) GateSound (launched backend session world disk) actions ↔
      EachStep (step backend) (Registers backend) (launched backend session world disk)
        actions) ∧
    (givenOff (step backend) (registeredBy backend) (launched backend session world disk)
        actions =
      givenOff (step backend) resolvedBy (launched backend session world disk) actions ++
        (finalState (step backend) (launched backend session world disk)
          actions).pendingApproval.toList) ∧
    (∀ (host : WebHost ω σ) (action : Operation) (run : σ → ω → TurnOutcome × σ × ω),
      (∀ response, action = .response response → ¬ Approves host response) →
        step { backend with approve := run } host action = step backend host action) ∧
    ∀ (host : WebHost ω σ) (response : ClientResponse),
      (∀ pending, ¬ Resolves host response pending) →
        step backend host (.response response) = host := by
  refine ⟨?_, ?_, ?_, ?_⟩
  · exact throughout_iff_eachStep GateSound (fun _ _ => True) (fun _ sound => sound)
      (fun _ action sound _ registers => step_gateSound action sound registers)
      (fun _ action _ _ misses => step_not_gateSound action misses)
      (launched_gateSound launches) (eachStep_true _ actions)
  · exact givenOff_balance registered_balance (launched backend session world disk) actions
  · exact fun host action run unapproved => step_approve_irrelevant run action unapproved
  · exact fun host response other => step_response_other response other

def plainProjection : GatewayProjection :=
  ⟨⟨"running", "yunxi", true, 0, 0, 0, none, none⟩, [], [], "/", "/"⟩

/-- A session that has to ask the user before it can answer a prompt. -/
def askingBackend : Backend Unit Unit where
  nowMillis _ := 0
  settingsPath := "settings.json"
  parseDocument _ := .error "unreadable"
  launch _ world := (.ok (), world)
  webProjection plugins world := (plainProjection, plugins, world)
  startTurn _ plugins world :=
    (.awaitingApproval ⟨"call-1", "shell", "run a command"⟩, plugins, world)
  approve plugins world := (.completed "done", plugins, world)
  deny plugins world := (.completed "not done", plugins, world)
  createSession plugins world := (.ok ⟨"s", "/", []⟩, plugins, world)
  activateSession _ plugins world := (.error "missing", plugins, world)
  multiAgentAvailable _ := false
  agentGraph _ plugins world := (.ok [], plugins, world)
  agentTranscript _ _ plugins world := (.ok [], plugins, world)
  readFault _ := none
  writeFault _ _ := none
  restoreFault _ _ := none

def askingSession : ChatSession Unit := ⟨none, .empty "settings.json" [], ()⟩

theorem askingSession_launches :
    ChatSession.launch askingBackend ⟨none, none⟩ () = (.ok askingSession, ()) := rfl

def askingHost : WebHost Unit Unit := launched askingBackend askingSession () ⟨none, none⟩

def requestId : RpcId := ⟨"request-1", by decide⟩

def newSessionRequest : ClientRequest :=
  ⟨requestId, sessionCreateMethod, .object [], by decide, by decide⟩

def greetingRequest : ClientRequest :=
  ⟨requestId, sessionPromptMethod,
    .object [("content", .array [.object [("text", .string "hi"), ("type", .string "text")]]),
      ("mode", .string "queue"), ("sessionId", .string "s")], by decide, by decide⟩

def allowResponse : ClientResponse :=
  ⟨⟨"approval-rpc-1", by decide⟩,
    .success (.object [("approvalId", .string "approval-1"), ("outcome", .string "allowed-once"),
      ("sessionId", .string "s")]), by decide⟩

/-- A host where sessions were created until a queue held so many events. -/
structure Filled (count : Nat) (host : WebHost Unit Unit) : Prop where
  gate : host.pendingApproval = none
  idle : host.session.pending = none
  current : 0 < count → host.webSessionId = some "s"
  onHost : (host.events.payloads .host).length = count
  onMux : (host.events.payloads .mux).length = count

theorem Filled.publishable {count : Nat} {host : WebHost Unit Unit} (filled : Filled count host)
    {channel : EventChannel} {payloads : List Value} (room : count + payloads.length ≤ 256)
    (fits : ∀ payload ∈ payloads, payload.encodedSize ≤ maxPayloadBytes) :
    host.events.Publishable channel payloads := by
  refine ⟨?_, fits⟩
  rw [← EventBuffer.length_payloads]
  cases channel with
  | host => rw [filled.onHost]; exact room
  | mux => rw [filled.onMux]; exact room

/-- Every new session takes up one place in both queues. -/
theorem Filled.create {count : Nat} {host : WebHost Unit Unit} (filled : Filled count host)
    (room : count < 256) :
    Filled (count + 1) (step askingBackend host (.request newSessionRequest)) := by
  have effect := dispatchSessionCreate_effect askingBackend (refreshed askingBackend host)
    newSessionRequest.payload
  rw [step_request_eq, handler_create rfl]
  unfold wp at effect
  generalize (dispatchSessionCreate askingBackend newSessionRequest.payload).exec
    (refreshed askingBackend host) = ran at effect
  obtain ⟨result, after⟩ := ran
  cases effect with
  | malformed notObject => cases notObject
  | busy waits =>
      have free : (refreshed askingBackend host).pendingApproval = none := filled.gate
      rw [free] at waits
      cases waits
  | unavailable error plugins world fails => cases fails
  | unannounced snapshot plugins world error events free creates refused =>
      cases creates
      exact absurd ⟨filled.publishable room (by decide),
        filled.publishable room (by decide)⟩ refused
  | created snapshot plugins world events free creates announced published =>
      cases creates
      refine ⟨rfl, rfl, fun _ => rfl, ?_, ?_⟩
      · change (events.payloads .host).length = count + 1
        rw [published.host, List.length_append]
        exact congrArg (· + 1) filled.onHost
      · change (events.payloads .mux).length = count + 1
        rw [published.mux, List.length_append]
        exact congrArg (· + 1) filled.onMux

theorem filled_creates (count : Nat) (room : count ≤ 256) :
    Filled count (finalState (step askingBackend) askingHost
      (List.replicate count (.request newSessionRequest))) := by
  induction count with
  | zero => exact ⟨rfl, rfl, fun some => absurd some (lt_irrefl 0), rfl, rfl⟩
  | succ count ih =>
      rw [List.replicate_succ', finalState_append]
      exact (ih (by omega)).create (by omega)

/-- When there is room for the start of a turn but not for its end, the approval is not
registered. -/
theorem approvalGate_lost : ¬ GateSound (finalState (step askingBackend) askingHost
      (List.replicate 255 (.request newSessionRequest) ++ [.request greetingRequest])) := by
  rw [finalState_append]
  have filled := filled_creates 255 (by decide)
  generalize finalState (step askingBackend) askingHost
    (List.replicate 255 (.request newSessionRequest)) = host at filled
  obtain ⟨⟨waits, settings, plugins⟩, world, disk, projection, events, history, current, gate,
    next, busy⟩ := host
  have idle : waits = none := filled.idle
  subst idle
  let start : WebHost Unit Unit := ⟨⟨none, settings, plugins⟩, world, disk, projection, events,
    history, current, gate, next, busy⟩
  rw [finalState_cons, finalState_nil]
  refine step_not_gateSound _ fun registers => ?_
  have prepared : (preparePrompt askingBackend greetingRequest.payload).exec
      (refreshed askingBackend start) = (.ok ("s", "hi"), refreshed askingBackend start) :=
    prepared_of_current askingBackend
      (show promptRequest greetingRequest.payload = .ok ("s", "hi") by rfl)
      (filled.current (by decide)) filled.gate
  have settled := (registers rfl "s" "hi" _ prepared (filled.publishable (by decide) (by decide))
    rfl).1
  have room := settled.1
  rw [← EventBuffer.length_payloads] at room
  have held : (events.payloads .host).length = 255 := filled.onHost
  change (events.payloads .host).length + 2 ≤ 256 at room
  omega

/-- The host of a session that was just created. -/
def createdHost : WebHost Unit Unit := step askingBackend askingHost (.request newSessionRequest)

/-- The host that waits for the approval of its first prompt. -/
def askedHost : WebHost Unit Unit := step askingBackend createdHost (.request greetingRequest)

/-- A session is created, asked and allowed to go on. -/
def greeting : List Operation :=
  [.request newSessionRequest, .request greetingRequest, .response allowResponse]

theorem createdHost_prepared : (preparePrompt askingBackend greetingRequest.payload).exec
        (refreshed askingBackend createdHost) =
      (.ok ("s", "hi"), refreshed askingBackend createdHost) :=
  prepared_of_current askingBackend
    (show promptRequest greetingRequest.payload = .ok ("s", "hi") by rfl)
    (show (refreshed askingBackend createdHost).webSessionId = some "s" by decide +kernel)
    (Option.isNone_iff_eq_none.mp (by decide +kernel))

set_option maxRecDepth 4000 in
theorem greeting_registers :
    EachStep (step askingBackend) (Registers askingBackend) askingHost greeting := by
  refine ⟨fun isPrompt => absurd isPrompt (by decide), fun _ sessionId content start prepared => ?_,
    fun pending resolves waits => ?_, trivial⟩
  · cases createdHost_prepared.symm.trans prepared
    intro _ _
    exact ⟨⟨by decide +kernel, by decide +kernel⟩, ⟨by decide +kernel, by decide +kernel⟩⟩
  · have idle : (decided askingBackend askedHost (responseOutcome allowResponse)).session.pending =
        none := Option.isNone_iff_eq_none.mp (by decide +kernel)
    exact nomatch (congrArg Option.isSome idle).symm.trans waits

/-- An approval is registered, and the response that allows the call resolves it. -/
theorem approvalGate_held : Throughout (step askingBackend) GateSound askingHost greeting ∧
      askedHost.pendingApproval.isSome = true ∧
        (finalState (step askingBackend) askingHost greeting).pendingApproval.isNone = true :=
  ⟨(approvalGate_iff askingSession_launches greeting).1.mpr greeting_registers,
    by decide +kernel, by decide +kernel⟩

end Web
end YunXi
