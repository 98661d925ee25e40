import YunXi.WebHost.Gate
import Mathlib.Algebra.Group.Nat.Even

/-!
# Whole turns

A prompt adds its message and the reply to the history, or nothing.  This fails where an event
is refused after the message was added, and where a resolved call ends in an error.
-/

namespace YunXi
namespace Web

open Protocol (Value ChatMessage)
open Settings
open WebContract
open WebGateway

/-- A message of the user and its answer, and so on from the start. -/
inductive WholeTurns : List ChatMessage → Prop
  | nil : WholeTurns []
  | turn {earlier : List ChatMessage} {user assistant : ChatMessage}
      (whole : WholeTurns earlier) (asks : user.role = .user)
      (answers : assistant.role = .assistant) :
      WholeTurns (earlier ++ [user, assistant])

variable {history : List ChatMessage}

theorem WholeTurns.even (whole : WholeTurns history) :
    Even history.length := by
  induction whole with
  | nil => exact Even.zero
  | turn _ _ _ ih =>
      rw [List.length_append]
      exact ih.add ⟨1, rfl⟩

/-- The history between turns, and within the turn of a pending approval. -/
inductive TurnState : List ChatMessage → Option WebPendingApproval → Prop
  | between {history : List ChatMessage} (whole : WholeTurns history) : TurnState history none
  | within {earlier : List ChatMessage} (whole : WholeTurns earlier) (content : String)
      (pending : WebPendingApproval) :
      TurnState (earlier ++ [.user content]) (some pending)

variable {ω σ : Type} (backend : Backend ω σ)

variable (host : WebHost ω σ)

structure TurnSound : Prop where
  gate : GateSound host
  turn : TurnState host.webHistory host.pendingApproval

/-- A prompt is all or nothing: `start` and `after` are the hosts around its turn. -/
structure PromptKept (start after : WebHost ω σ) (content : String)
    (result : Except Stop Value) : Prop where
  accepted : ∀ value, result = .ok value → after.pendingApproval = none →
    ∃ reply, (promptTurn backend start content).1 = .ok reply ∧
      after.webHistory = start.webHistory ++ [.user content, .assistant reply]
  refused : ∀ stop, result = .error stop → after.webHistory = start.webHistory

/-- A turn that ends in an error after a decision takes the message of its prompt, which is the
last one, out of the history. -/
def ResponseKept (after : WebHost ω σ) (outcome : String)
    (result : Except WebHostError Value) : Prop :=
  after.pendingApproval = none →
    (∃ error, result = .error error) ∨
      (∃ error, (decision backend host outcome).1 = .error error) →
    after.webHistory = host.webHistory.dropLast

/-- An operation keeps turns whole: the history holds whole turns when nothing is pending, and
prompts and resolved approvals are all or nothing. -/
def TurnKept (action : Operation) : Prop :=
  ((step backend host action).pendingApproval = none →
    WholeTurns (step backend host action).webHistory) ∧
  match action with
  | .request request =>
      request.method = sessionPromptMethod →
        match (preparePrompt backend request.payload).exec (refreshed backend host) with
        | (.ok (sessionId, content), start) =>
            PromptKept backend start (step backend host action) content
              ((runPrompt backend sessionId content).exec start).1
        | (.error _, _) => (step backend host action).webHistory = host.webHistory
  | .response response =>
      ∀ pending, Resolves host response pending →
        ResponseKept backend host (step backend host action) (responseOutcome response)
          ((respond backend response).exec host).1
  | .refresh | .poll .. => True

/-- All events of a prompt fit the queues. -/
structure PromptTold (start : WebHost ω σ) (sessionId content : String) : Prop where
  settled : start.events.Publishable .host (statusPayloads sessionId)
  completed : ∀ reply, (promptTurn backend start content).1 = .ok reply →
    start.events.Publishable .mux
      (turnPayloads backend (replied backend start content reply) sessionId
        start.webHistory.length)
  waiting : ∀ approval, (turned backend start content).session.pending = some approval →
    start.events.Publishable .mux
      (turnPayloads backend (turned backend start content) sessionId start.webHistory.length ++
        [approvalPayload (registration start.nextWebId sessionId approval)])

/-- The decision does not end in an error, and the events up to the end of the turn fit. -/
structure ResponseTold (pending : WebPendingApproval) (outcome : String) :
    Prop where
  continues : ∀ error, (decision backend host outcome).1 ≠ .error error
  announced : host.events.Publishable .mux [resolvedPayload pending outcome]
  completed : ∀ reply, (decision backend host outcome).1 = .ok (some reply) →
    host.events.Publishable .mux (resolvedPayload pending outcome ::
      turnPayloads backend (concluded backend host outcome reply) pending.sessionId
        host.webHistory.length)

/-- The condition under which an operation keeps turns whole. -/
def Told : Operation → Prop
  | .request request =>
      request.method = sessionPromptMethod → ∀ sessionId content start,
        (preparePrompt backend request.payload).exec (refreshed backend host) =
          (.ok (sessionId, content), start) →
        PromptTold backend start sessionId content
  | .response response =>
      ∀ pending, Resolves host response pending →
        ResponseTold backend host pending (responseOutcome response)
  | .refresh | .poll .. => True

/-- A stored session that is opened holds whole turns. -/
def StoredWhole : Operation → Prop
  | .request _ => ∀ messages, Stored backend (refreshed backend host) messages →
      WholeTurns messages
  | .refresh | .response _ | .poll .. => True

variable {backend} {host start after : WebHost ω σ}

theorem PromptTold.registers {sessionId content : String}
    (told : PromptTold backend start sessionId content) :
    PromptRegisters backend start sessionId content := by
  intro announced waits
  obtain ⟨approval, pending⟩ := Option.isSome_iff_exists.mp waits
  exact ⟨told.settled, (told.waiting approval pending).of_append⟩

section Prompt

variable {sessionId content : String} {result : Except Stop Value}

/-- A prompt is kept exactly when all of its events fit. -/
theorem PromptEffect.kept_iff
    (effect : PromptEffect backend start sessionId content result after) :
    PromptKept backend start after content result ↔
      PromptTold backend start sessionId content := by
  have notKept : ∀ (stop : Stop) (first : ChatMessage) (rest : List ChatMessage),
      result = .error stop → after.webHistory = start.webHistory ++ first :: rest →
      ¬ PromptKept backend start after content result := by
    intro stop first rest failed grown kept
    have same := grown.symm.trans (kept.refused stop failed)
    cases List.append_right_eq_self.mp same
  cases effect with
  | unannounced error events refused =>
      exact iff_of_false (notKept _ _ [] rfl rfl) fun told => refused told.settled.of_append
  | unsettled error events announced refused =>
      exact iff_of_false (notKept _ _ [] rfl rfl) fun told => refused told.settled
  | untold reply error events settled completed refused =>
      exact iff_of_false
        (notKept _ (.user content) [.assistant reply] rfl (List.append_assoc _ _ _))
        fun told => refused (told.completed reply completed)
  | finished reply events settled completed told published =>
      have grown : start.webHistory ++ [.user content] ++ [.assistant reply] =
          start.webHistory ++ [.user content, .assistant reply] := List.append_assoc _ _ _
      refine iff_of_true ⟨fun _ _ _ => ⟨reply, completed, grown⟩, ?_⟩ ⟨settled, ?_, ?_⟩
      · intro stop failed
        cases failed
      · intro other same
        rw [completed] at same
        cases same
        exact told
      · intro approval pending
        rw [idle_of_completed completed] at pending
        cases pending
  | unregistered approval failure error events settled stopped pending refused =>
      exact iff_of_false (notKept _ _ [] rfl rfl)
        fun told => refused (told.waiting approval pending).of_append
  | unasked approval failure error events settled stopped pending told refused =>
      exact iff_of_false (notKept _ _ [] rfl rfl)
        fun told => refused (told.waiting approval pending)
  | suspended approval failure events settled stopped pending told published =>
      refine iff_of_true ⟨fun _ _ gone => ?_, fun stop failed => ?_⟩ ⟨settled, ?_, ?_⟩
      · cases gone
      · cases failed
      · intro reply completed
        rw [stopped] at completed
        cases completed
      · intro other same
        rw [pending] at same
        cases same
        exact told
  | failed failure events settled stopped idle published =>
      refine iff_of_true ⟨fun _ accepted => ?_, fun _ _ => rfl⟩ ⟨settled, ?_, ?_⟩
      · cases accepted
      · intro reply completed
        rw [stopped] at completed
        cases completed
      · intro approval pending
        rw [idle] at pending
        cases pending

/-- After a prompt that was told the turn is where the gate says. -/
theorem PromptEffect.turnState (whole : WholeTurns start.webHistory)
    (free : start.pendingApproval = none)
    (told : PromptTold backend start sessionId content)
    (effect : PromptEffect backend start sessionId content result after) :
    TurnState after.webHistory after.pendingApproval := by
  have between : ∀ {host : WebHost ω σ}, host.pendingApproval = start.pendingApproval →
      WholeTurns host.webHistory → TurnState host.webHistory host.pendingApproval := by
    intro host same wholeAfter
    rw [same, free]
    exact .between wholeAfter
  cases effect with
  | unannounced error events refused => exact absurd told.settled.of_append refused
  | unsettled error events announced refused => exact absurd told.settled refused
  | untold reply error events settled completed refused =>
      exact absurd (told.completed reply completed) refused
  | finished reply events settled completed told published =>
      refine between rfl ?_
      change WholeTurns (start.webHistory ++ [.user content] ++ [.assistant reply])
      rw [List.append_assoc]
      exact .turn whole rfl rfl
  | unregistered approval failure error events settled stopped pending refused =>
      exact absurd (told.waiting approval pending).of_append refused
  | unasked approval | suspended approval => exact .within whole content _
  | failed => exact between rfl whole

end Prompt

section Resolution

variable {pending : WebPendingApproval} {outcome : String} {result : Except WebHostError Value}

/-- A response is kept exactly when the turn goes on and its events fit. -/
theorem ResolutionEffect.kept_iff {earlier : List ChatMessage} {content : String}
    (within : host.webHistory = earlier ++ [.user content])
    (effect : ResolutionEffect backend host pending outcome result after) :
    ResponseKept backend host after outcome result ↔
      ResponseTold backend host pending outcome := by
  have notKept : ∀ (first : ChatMessage) (rest : List ChatMessage),
      after.pendingApproval = none →
      (∃ error, result = .error error) ∨
        (∃ error, (decision backend host outcome).1 = .error error) →
      after.webHistory = earlier ++ first :: rest →
      ¬ ResponseKept backend host after outcome result := by
    intro first rest gone fails grown kept
    have same := kept gone fails
    rw [grown, within, List.dropLast_concat] at same
    cases List.append_right_eq_self.mp same
  cases effect with
  | unannounced error events refused =>
      exact iff_of_false (notKept _ [] rfl (.inl ⟨error, rfl⟩) within)
        fun told => refused told.announced
  | untold reply error events announced completed idle refused =>
      have grown : host.webHistory ++ [.assistant reply] =
          earlier ++ [.user content, .assistant reply] := by
        rw [within, List.append_assoc]
        rfl
      exact iff_of_false (notKept _ _ rfl (.inl ⟨error, rfl⟩) grown)
        fun told => refused (told.completed reply completed)
  | finished reply events announced completed idle told published =>
      refine iff_of_true (fun _ fails => ?_) ⟨?_, announced, ?_⟩
      · obtain ⟨error, failed⟩ | ⟨error, failed⟩ := fails
        · cases failed
        · rw [completed] at failed
          cases failed
      · intro error failed
        rw [completed] at failed
        cases failed
      · intro other same
        rw [completed] at same
        cases same
        exact told
  | unasked approval _ _ announced continues | suspended approval _ announced continues =>
      refine iff_of_true (fun gone _ => ?_) ⟨?_, announced, ?_⟩
      · cases gone
      · intro error failed
        rw [continues] at failed
        cases failed
      · intro reply completed
        rw [continues] at completed
        cases completed
  | unreported failure error events announced stopped idle refused =>
      exact iff_of_false (notKept _ [] rfl (.inl ⟨error, rfl⟩) within)
        fun told => told.continues failure stopped
  | failed failure events announced stopped idle told published =>
      exact iff_of_false (notKept _ [] rfl (.inr ⟨failure, stopped⟩) within)
        fun told => told.continues failure stopped

/-- After a response that was told the turn is where the gate says. -/
theorem ResolutionEffect.turnState {earlier : List ChatMessage} {content : String}
    (whole : WholeTurns earlier) (within : host.webHistory = earlier ++ [.user content])
    (told : ResponseTold backend host pending outcome)
    (effect : ResolutionEffect backend host pending outcome result after) :
    TurnState after.webHistory after.pendingApproval := by
  cases effect with
  | unannounced error events refused => exact absurd told.announced refused
  | untold reply error events announced completed idle refused =>
      exact absurd (told.completed reply completed) refused
  | finished reply events announced completed idle told published =>
      refine .between ?_
      change WholeTurns (host.webHistory ++ [.assistant reply])
      rw [within, List.append_assoc]
      exact .turn whole rfl rfl
  | unasked approval | suspended approval =>
      have ongoing := TurnState.within whole content
        (registration host.nextWebId pending.sessionId approval)
      rw [← within] at ongoing
      exact ongoing
  | unreported failure error events announced stopped | failed failure events announced stopped =>
      exact absurd stopped (told.continues failure)

end Resolution

theorem TurnState.whole_of_none (state : TurnState history none) : WholeTurns history := by
  cases state with
  | between whole => exact whole

theorem TurnState.ongoing {pending : WebPendingApproval}
    (state : TurnState history (some pending)) :
    ∃ earlier content, WholeTurns earlier ∧ history = earlier ++ [.user content] := by
  cases state with
  | within whole content => exact ⟨_, content, whole, rfl⟩

theorem TurnSound.of_same (sound : TurnSound host) (same : SameTurn host after) :
    TurnSound after := by
  refine ⟨sound.gate.of_same same, ?_⟩
  rw [same.history, same.gate]
  exact sound.turn

/-- The host a prompt starts from is between turns. -/
theorem prepared_whole {payload : Value} {prompt : String × String} (sound : TurnSound host)
    (stored : ∀ messages, Stored backend host messages → WholeTurns messages)
    (prepared : (preparePrompt backend payload).exec host = (.ok prompt, after)) :
    WholeTurns after.webHistory := by
  have free := prepared_free prepared
  have effect := Fallible.of_wp (preparePrompt_effect backend host payload) prepared
  cases effect with
  | ready =>
      have between := sound.turn
      rw [free] at between
      exact between.whole_of_none
  | switched sessionId content snapshot plugins world parsed _ differs activates =>
      exact stored _ (.activated sessionId snapshot plugins world activates)

theorem Told.registers {action : Operation} (told : Told backend host action) :
    Registers backend host action := by
  cases action with
  | refresh => trivial
  | poll => trivial
  | request request =>
      intro isPrompt sessionId content start prepared
      exact (told isPrompt sessionId content start prepared).registers
  | response response =>
      intro pending resolves _
      exact (told pending resolves).announced

theorem step_turnSound (action : Operation) (sound : TurnSound host)
    (stored : StoredWhole backend host action) (told : Told backend host action) :
    TurnSound (step backend host action) := by
  refine ⟨step_gateSound action sound.gate told.registers, ?_⟩
  cases action with
  | refresh => exact sound.turn
  | poll channel maximumEvents maximumEncodedBytes =>
      obtain ⟨events, polled⟩ := step_poll backend host channel maximumEvents maximumEncodedBytes
      rw [polled]
      exact sound.turn
  | response response =>
      by_cases resolves : ∃ pending, Resolves host response pending
      · obtain ⟨pending, resolved⟩ := resolves
        have ongoing := sound.turn
        rw [resolved.1] at ongoing
        obtain ⟨earlier, content, whole, within⟩ := ongoing.ongoing
        exact (step_response response resolved).turnState whole within (told pending resolved)
      · rw [step_response_other response (not_exists.mp resolves)]
        exact sound.turn
  | request request =>
      have soundRefreshed := sound.of_same (refreshed_same backend host)
      generalize reached : step backend host (.request request) = final
      have effect := step_request backend host request
      rw [reached] at effect
      cases effect with
      | kept _ same => exact (soundRefreshed.of_same same).turn
      | opened moves sessionId messages plugins world events free isStored =>
          exact .between (stored messages isStored)
      | prompted isPrompt sessionId content start _ result prepared effect =>
          exact effect.turnState (prepared_whole soundRefreshed stored prepared)
            (prepared_ready backend prepared).2 (told isPrompt sessionId content start prepared)

/-- A prompt that is refused before its turn leaves the history alone. -/
theorem step_prompt_refused {request : ClientRequest} {stop : Stop}
    (isPrompt : request.method = sessionPromptMethod)
    (refused : (preparePrompt backend request.payload).exec (refreshed backend host) =
      (.error stop, after)) :
    (step backend host (.request request)).webHistory = host.webHistory := by
  have effect := Fallible.of_wp
    (preparePrompt_effect backend (refreshed backend host) request.payload) refused
  rw [step_request_eq, handler_prompt isPrompt, dispatchSessionPrompt_eq,
    Fallible.exec_bind_of_error refused]
  generalize failed : (Except.error stop : Except Stop (String × String)) = result at effect
  cases effect with
  | malformed | elsewhere | busy | unavailable => rfl
  | ready | switched => cases failed

/-- An operation of a sound host keeps turns whole exactly when its events fit and no decision
ends in an error. -/
theorem turnKept_iff (action : Operation) (sound : TurnSound host)
    (stored : StoredWhole backend host action) :
    TurnKept backend host action ↔ Told backend host action := by
  have whole : Told backend host action →
      (step backend host action).pendingApproval = none →
      WholeTurns (step backend host action).webHistory := by
    intro told gone
    have between := (step_turnSound action sound stored told).turn
    rw [gone] at between
    exact between.whole_of_none
  cases action with
  | refresh => exact ⟨fun _ => trivial, fun told => ⟨whole told, trivial⟩⟩
  | poll => exact ⟨fun _ => trivial, fun told => ⟨whole told, trivial⟩⟩
  | response response =>
      have exact_ : ∀ pending, Resolves host response pending →
          (ResponseKept backend host (step backend host (.response response))
            (responseOutcome response) ((respond backend response).exec host).1 ↔
          ResponseTold backend host pending (responseOutcome response)) := by
        intro pending resolved
        have ongoing := sound.turn
        rw [resolved.1] at ongoing
        obtain ⟨earlier, content, -, within⟩ := ongoing.ongoing
        exact (step_response response resolved).kept_iff within
      exact ⟨fun kept pending resolved => (exact_ pending resolved).mp (kept.2 pending resolved),
        fun told => ⟨whole told,
          fun pending resolved => (exact_ pending resolved).mpr (told pending resolved)⟩⟩
  | request request =>
      constructor
      · rintro ⟨-, kept⟩ isPrompt sessionId content start prepared
        have promptKept := kept isPrompt
        rw [prepared] at promptKept
        exact (step_prompt isPrompt prepared).kept_iff.mp promptKept
      · intro told
        refine ⟨whole told, fun isPrompt => ?_⟩
        split
        next sessionId content start prepared =>
          exact (step_prompt isPrompt prepared).kept_iff.mpr
            (told isPrompt sessionId content start prepared)
        next stop start refused => exact step_prompt_refused isPrompt refused

/-- In a run where the sessions that are opened hold whole turns, every operation keeps turns
whole exactly when at every operation the events fit and no decision ends in an error. -/
theorem turnsKept_iff {disk : SettingsDisk} {before world : ω} {session : ChatSession σ}
    (launches : ChatSession.launch backend disk before = (.ok session, world))
    (actions : List Operation)
    (stored : EachStep (step backend) (StoredWhole backend)
      (launched backend session world disk) actions) :
    EachStep (step backend) (TurnKept backend) (launched backend session world disk) actions ↔
      EachStep (step backend) (Told backend) (launched backend session world disk) actions :=
  eachStep_iff_eachStep TurnSound
    (fun _ action sound isStored => turnKept_iff action sound isStored)
    (fun _ action sound isStored told => step_turnSound action sound isStored told)
    ⟨launched_gateSound launches, .between .nil⟩ stored

/-- New sessions are empty, and no other session can be opened. -/
theorem askingBackend_storedWhole (host : WebHost Unit Unit) (action : Operation) :
    StoredWhole askingBackend host action := by
  cases action with
  | request request =>
      intro messages stored
      cases stored with
      | created => exact .nil
      | activated id snapshot plugins world activates => cases activates
  | refresh | response | poll => trivial

set_option maxRecDepth 4000 in
theorem greeting_promptTold :
    PromptTold askingBackend (refreshed askingBackend createdHost) "s" "hi" where
  settled := ⟨by decide +kernel, by decide +kernel⟩
  completed reply completed := nomatch completed
  waiting approval pending := by
    cases pending
    exact ⟨by decide +kernel, by decide +kernel⟩

set_option maxRecDepth 4000 in
theorem greeting_responseTold {pending : WebPendingApproval}
    (registered : askedHost.pendingApproval = some pending) :
    ResponseTold askingBackend askedHost pending (responseOutcome allowResponse) := by
  have resolved : (decision askingBackend askedHost (responseOutcome allowResponse)).1 =
      .ok (some "done") := by decide +kernel
  have known : askedHost.pendingApproval =
      some (registration 1 "s" ⟨"call-1", "shell", "run a command"⟩) := by decide +kernel
  cases registered.symm.trans known
  refine ⟨fun error fails => ?_, ⟨by decide +kernel, by decide +kernel⟩, fun reply completed => ?_⟩
  · cases resolved.symm.trans fails
  · cases resolved.symm.trans completed
    exact ⟨by decide +kernel, by decide +kernel⟩

/-- A prompt that waits for an approval and the response that lets it end: the history holds the
message and the reply. -/
theorem turnsKept_greeting :
    EachStep (step askingBackend) (TurnKept askingBackend) askingHost greeting ∧
      (finalState (step askingBackend) askingHost greeting).webHistory.length = 2 := by
  refine ⟨(turnsKept_iff askingSession_launches greeting ⟨askingBackend_storedWhole _ _,
    askingBackend_storedWhole _ _, askingBackend_storedWhole _ _, trivial⟩).mpr
    ⟨fun isPrompt => absurd isPrompt (by decide), fun _ sessionId content start prepared => ?_,
      fun pending resolves => greeting_responseTold resolves.1, trivial⟩, by decide +kernel⟩
  cases createdHost_prepared.symm.trans prepared
  exact greeting_promptTold

/-- The model is gone when the approved call has run. -/
def failingBackend : Backend Unit Unit :=
  { askingBackend with
    approve := fun plugins world => (.failed (.unavailable "stopped"), plugins, world) }

def openTurn : List Operation :=
  [.request newSessionRequest, .request greetingRequest, .response allowResponse]

set_option maxRecDepth 4000 in
theorem openTurn_ends :
    (finalState (step failingBackend) (launched failingBackend askingSession () ⟨none, none⟩)
      openTurn).pendingApproval.isNone = true ∧
    (finalState (step failingBackend) (launched failingBackend askingSession () ⟨none, none⟩)
      openTurn).webHistory.length = 1 := by
  decide

/-- The message of the prompt stays in the history when the approved call ends in an error. -/
theorem turnsKept_open : ¬ EachStep (step failingBackend) (TurnKept failingBackend)
      (launched failingBackend askingSession () ⟨none, none⟩) openTurn := by
  rintro ⟨-, -, kept, -⟩
  have ends := openTurn_ends
  rw [openTurn, finalState_cons, finalState_cons, finalState_cons, finalState_nil] at ends
  have whole := (kept.1 (Option.isNone_iff_eq_none.mp ends.1)).even
  rw [ends.2] at whole
  exact absurd whole (by decide)

end Web
end YunXi
