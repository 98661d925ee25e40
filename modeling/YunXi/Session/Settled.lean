import YunXi.Program.Run
import Mathlib.Data.List.Forall2
import YunXi.Session.DirectLoop

/-!
# What a session waits for

After each call a session either waits for the decision on the next call of its
continuation or waits for nothing and takes a prompt.  Two things break this: a turn that
stops at a call whose summary is too long to ask for, and an approval of a call that the
capabilities of the moment no longer decode.
-/

namespace YunXi
namespace Session

open Protocol

variable {ω : Type}

/-- The message is the result of the call. -/
def Answers (call : ToolCall) (message : ChatMessage) : Prop :=
  message.role = .tool ∧ message.toolCallId = some call.id ∧ message.toolName = some call.name

theorem answers_toolResultMessage (call : ToolCall) (outcome : ToolResultOutcome) :
    Answers call (toolResultMessage call outcome) :=
  ⟨rfl, rfl, rfl⟩

/-- After the message with the calls of the batch there is exactly one result for every call
before the next one. -/
def ToolContinuation.Answered (continuation : ToolContinuation) : Prop :=
  ∃ earlier results,
    continuation.messages =
      earlier ++ .assistantToolCalls continuation.batch.calls :: results ∧
    List.Forall₂ Answers (continuation.batch.calls.take continuation.nextCall) results

/-- The session waits for a decision on the next call of its continuation, or for a
prompt. -/
structure ChatSession.Settled (session : ChatSession ω) : Prop where
  pending : session.toolContinuation.isSome ↔
    ∃ call, session.pendingAction = some (.modelTool call)
  next : ∀ continuation call, session.toolContinuation = some continuation →
    session.pendingAction = some (.modelTool call) →
    continuation.batch.calls[continuation.nextCall]? = some call
  answered : ∀ continuation, session.toolContinuation = some continuation →
    continuation.Answered
  accepts : session.toolContinuation = none → session.hasPendingAction = false

namespace ChatSession

variable {session : ChatSession ω} {continuation : ToolContinuation} {call : ToolCall}

/-- A session that waits for nothing is settled. -/
theorem settled_of_idle (continued : session.toolContinuation = none)
    (unasked : session.pendingAction = none) : session.Settled where
  pending := by simp [continued, unasked]
  next := by
    intro other _ found
    rw [continued] at found
    cases found
  answered := by
    intro other found
    rw [continued] at found
    cases found
  accepts := by simp [hasPendingAction, continued, unasked]

/-- A session that waits for the next call is settled. -/
theorem settled_of_waiting (continued : session.toolContinuation = some continuation)
    (asked : session.pendingAction = some (.modelTool call))
    (found : continuation.batch.calls[continuation.nextCall]? = some call)
    (answered : continuation.Answered) : session.Settled where
  pending := by simp [continued, asked]
  next := by
    intro other otherCall continuedOther askedOther
    rw [continued, Option.some.injEq] at continuedOther
    rw [asked, Option.some.injEq, PendingAction.modelTool.injEq] at askedOther
    rw [← continuedOther, ← askedOther]
    exact found
  answered := by
    intro other continuedOther
    rw [continued, Option.some.injEq] at continuedOther
    rw [← continuedOther]
    exact answered
  accepts := by simp [continued]

/-- A continuation without a pending call is not settled. -/
theorem not_settled_of_stuck (continued : session.toolContinuation = some continuation)
    (unasked : session.pendingAction = none) : ¬ session.Settled := by
  intro settled
  obtain ⟨call, asked⟩ := settled.pending.mp (by simp [continued])
  rw [unasked] at asked
  cases asked

/-- A settled session is idle or waits for the next call. -/
theorem Settled.cases (settled : session.Settled) :
    (session.toolContinuation = none ∧ session.pendingAction = none) ∨
      ∃ continuation call, session.toolContinuation = some continuation ∧
        session.pendingAction = some (.modelTool call) ∧
        continuation.batch.calls[continuation.nextCall]? = some call ∧
        continuation.Answered := by
  cases continued : session.toolContinuation with
  | none =>
      have accepts := settled.accepts continued
      unfold hasPendingAction at accepts
      rw [Bool.or_eq_false_iff, Option.isSome_eq_false_iff, Option.isNone_iff_eq_none] at accepts
      exact .inl ⟨rfl, accepts.1⟩
  | some continuation =>
      obtain ⟨call, asked⟩ := settled.pending.mp (by simp [continued])
      exact .inr ⟨continuation, call, rfl, asked, settled.next _ _ continued asked,
        settled.answered _ continued⟩

end ChatSession

/-- A batch that was just asked for has no answers. -/
theorem answered_of_start {messages historyPrefix : List ChatMessage} {batch : ToolCallBatch}
    {prompt : String} :
    ToolContinuation.Answered
      ⟨messages ++ [.assistantToolCalls batch.calls], batch, 0, prompt, historyPrefix⟩ :=
  ⟨messages, [], rfl, .nil⟩

/-- Appending the outcome of the next call answers it. -/
theorem ToolContinuation.Answered.append {continuation : ToolContinuation} {call : ToolCall}
    (answered : continuation.Answered)
    (found : continuation.batch.calls[continuation.nextCall]? = some call)
    (outcome : ToolResultOutcome) :
    ToolContinuation.Answered { continuation with
      messages := continuation.messages ++ [toolResultMessage call outcome]
      nextCall := continuation.nextCall + 1 } := by
  obtain ⟨earlier, results, messages, matched⟩ := answered
  refine ⟨earlier, results ++ [toolResultMessage call outcome], ?_, ?_⟩
  · rw [messages]
    simp
  · obtain ⟨within, same⟩ := List.getElem?_eq_some_iff.mp found
    have more : continuation.batch.calls.take (continuation.nextCall + 1) =
        continuation.batch.calls.take continuation.nextCall ++ [call] := by
      rw [List.take_add_one, found]
      rfl
    dsimp only
    rw [more]
    exact List.rel_append matched (.cons (answers_toolResultMessage call outcome) .nil)

/-- A summary always says something. -/
theorem isBlank_summary (action : ToolAction) : isBlank action.summary = false := by
  cases action with
  | agentList => decide
  | shell | patch | fileSearch | fileRead | agentSpawn | agentMessage | agentInterrupt | mcp
  | skill =>
      unfold ToolAction.summary
      repeat apply isBlank_append_left
      decide

/-- A request for a call of a batch fails exactly when its summary is too long. -/
theorem approvalFor_isOk_iff {capabilities : Capabilities} {batch : ToolCallBatch}
    {call : ToolCall} {action : ToolAction} (asks : runsUnasked action = false) :
    (∃ approval, approvalFor capabilities batch.round call action = .ok approval) ↔
      action.summary.utf8ByteSize ≤ maxToolTextBytes := by
  have round : validateRound batch.round = .ok () := by
    have bounds := ChatSession.batch_bounds batch
    have most : maxToolRounds = 32 := rfl
    unfold validateRound
    rw [if_neg (by omega), if_neg (by omega)]
  have grants : validateGrants (askedGrants capabilities action) = .ok () := by
    cases action with
    | shell | patch | agentSpawn | agentMessage => rfl
    | mcp =>
        unfold askedGrants
        cases capabilities.mcpNetworkGrant <;> cases capabilities.mcpSecretGrant <;> rfl
    | fileSearch | fileRead | agentList | agentInterrupt | skill => cases asks
  have text : validateText "approval summary" action.summary = .ok () ↔
      action.summary.utf8ByteSize ≤ maxToolTextBytes := by
    unfold validateText
    rw [isBlank_summary, if_neg Bool.false_ne_true, Except.ite_error_eq_ok]
    simp
  have check : validateApprovalRequestFields toolProtocolVersion batch.round action.summary
      (askedGrants capabilities action) = .ok () ↔
      action.summary.utf8ByteSize ≤ maxToolTextBytes := by
    unfold validateApprovalRequestFields
    simp only [Except.bind_eq_ok]
    constructor
    · rintro ⟨_, -, _, -, _, summary, -⟩
      exact text.mp summary
    · intro fits
      exact ⟨(), rfl, (), round, (), text.mpr fits, grants⟩
  unfold approvalFor ToolApprovalRequest.new
  rw [← check]
  constructor
  · rintro ⟨approval, built⟩
    exact (build_eq_ok built).1
  · intro passes
    exact ⟨_, build_of_ok passes _⟩

/-- A call at which the loop stops without being able to ask: it has to be approved and its
summary is too long. -/
def Unaskable (call : LoopCall) (session : ChatSession ω) : Prop :=
  call = .queueNextToolApproval ∧ ∃ continuation toolCall action,
    session.toolContinuation = some continuation ∧
    continuation.batch.calls[continuation.nextCall]? = some toolCall ∧
    session.capabilities.decode toolCall = .ok action ∧ runsUnasked action = false ∧
    maxToolTextBytes < action.summary.utf8ByteSize

/-- What holds of a session when a function of the loop is called. -/
def LoopInvariant (call : LoopCall) (session : ChatSession ω) : Prop :=
  session.pendingAction = none ∧
    match call with
    | .runModelLoop .. => session.toolContinuation = none
    | .queueNextToolApproval => ∃ continuation, session.toolContinuation = some continuation ∧
        continuation.Answered ∧ continuation.nextCall < continuation.batch.calls.length
    | .advanceToolContinuation => ∃ continuation, session.toolContinuation = some continuation ∧
        continuation.Answered

/-- What a session is left as when the loop returns. -/
inductive LoopEnd : Except ChatFailure ModelReply → ChatSession ω → Prop
  | idle {result session} (continued : session.toolContinuation = none)
      (unasked : session.pendingAction = none) : LoopEnd result session
  | waiting {session} (tool summary : String) (settled : session.Settled) :
      LoopEnd (.error (.toolApprovalRequired tool summary)) session
  | stuck {session continuation} (message : String)
      (continued : session.toolContinuation = some continuation)
      (unasked : session.pendingAction = none) :
      LoopEnd (.error (.toolLoop message)) session

variable {host : SessionHost ω} {session after : ChatSession ω}

open ChatSession

theorem batch_nonempty (batch : ToolCallBatch) : 0 < batch.calls.length := by
  have valid := batch.valid
  unfold validateBatch at valid
  simp only [Except.bind_eq_ok] at valid
  obtain ⟨_, -, _, -, calls⟩ := valid
  unfold validateCalls at calls
  split_ifs at calls with empty
  rw [List.isEmpty_iff] at empty
  exact List.length_pos_iff.mpr empty

/-- Every function of the loop hands the invariant on. -/
theorem loopInvariant_calls {call next : LoopCall} (holds : LoopInvariant call session)
    (ends : (loop host).body call session = (.calls next, after)) :
    LoopInvariant next after := by
  obtain ⟨unasked, continues⟩ := holds
  cases call with
  | runModelLoop messages prompt historyPrefix round =>
      obtain ⟨rfl, same, batch, -, continued⟩ := runModelLoop_calls ends
      exact ⟨same.trans unasked, _, continued, answered_of_start, batch_nonempty batch⟩
  | queueNextToolApproval =>
      obtain ⟨rfl, same, continuation, call, outcome, continued, found, later⟩ :=
        queueNextToolApproval_calls ends
      obtain ⟨other, continuedOther, answered, -⟩ := continues
      rw [continued, Option.some.injEq] at continuedOther
      subst continuedOther
      exact ⟨same.trans unasked, _, later, answered.append found outcome⟩
  | advanceToolContinuation =>
      obtain ⟨other, continuedOther, answered⟩ := continues
      obtain ⟨continuation, continued, ⟨more, rfl, rfl⟩ | ⟨-, rfl, rfl⟩⟩ :=
        advanceToolContinuation_calls ends
      · rw [continued, Option.some.injEq] at continuedOther
        subst continuedOther
        exact ⟨unasked, continuation, continued, answered, more⟩
      · exact ⟨unasked, rfl⟩

/-- A function of the loop returns to an idle session, to one that waits, or gets stuck at
a call it cannot ask for. -/
theorem loopInvariant_returns {call : LoopCall} {result : Except ChatFailure ModelReply}
    (holds : LoopInvariant call session)
    (ends : (loop host).body call session = (.returns result, after)) :
    LoopEnd result after ∧ (after.Settled ↔ ¬ Unaskable call session) := by
  obtain ⟨unasked, continues⟩ := holds
  have idle : ∀ {result : Except ChatFailure ModelReply} {after : ChatSession ω},
      after.toolContinuation = none → after.pendingAction = none →
      call ≠ .queueNextToolApproval →
      LoopEnd result after ∧ (after.Settled ↔ ¬ Unaskable call session) :=
    fun continued nothing different => ⟨.idle continued nothing,
      iff_of_true (settled_of_idle continued nothing) fun asked => different asked.1⟩
  cases call with
  | runModelLoop messages prompt historyPrefix round =>
      change runModelLoop host messages prompt historyPrefix round session = _ at ends
      have continued : session.toolContinuation = none := continues
      unfold runModelLoop at ends
      split at ends
      · rw [← (Prod.mk.inj ends).2]
        exact idle rfl rfl (by simp)
      · dsimp only at ends
        split_ifs at ends
        · rw [← (Prod.mk.inj ends).2]
          exact idle rfl unasked (by simp)
        · rw [← (Prod.mk.inj ends).2]
          exact idle continued unasked (by simp)
        · split at ends
          · rw [← (Prod.mk.inj ends).2]
            exact idle rfl rfl (by simp)
          · split at ends
            · rw [← (Prod.mk.inj ends).2]
              exact idle rfl rfl (by simp)
            · cases (Prod.mk.inj ends).1
  | queueNextToolApproval =>
      change queueNextToolApproval host session = _ at ends
      obtain ⟨continuation, continued, answered, more⟩ := continues
      have found := List.getElem?_eq_getElem more
      unfold queueNextToolApproval at ends
      rw [continued] at ends
      dsimp only at ends
      rw [found] at ends
      dsimp only at ends
      generalize continuation.batch.calls[continuation.nextCall] = toolCall at found ends
      split at ends
      · cases (Prod.mk.inj ends).1
      · rename_i action decoded
        split_ifs at ends with unaskedFor
        · cases (Prod.mk.inj ends).1
        · have asks : runsUnasked action = false := by simpa using unaskedFor
          have fits : (∃ approval, approvalFor session.capabilities continuation.batch.round
              toolCall action = .ok approval) ↔ _ := approvalFor_isOk_iff asks
          split at ends
          · rename_i error refused
            rw [Prod.mk.injEq, Ending.returns.injEq] at ends
            obtain ⟨rfl, rfl⟩ := ends
            refine ⟨.stuck _ continued unasked,
              iff_of_false (not_settled_of_stuck continued unasked) (not_not.mpr ?_)⟩
            refine ⟨rfl, continuation, toolCall, action, continued, found, decoded, asks, ?_⟩
            apply Nat.lt_of_not_le
            intro short
            obtain ⟨approval, built⟩ := fits.mpr short
            rw [refused] at built
            cases built
          · rename_i approval built
            rw [Prod.mk.injEq, Ending.returns.injEq] at ends
            obtain ⟨rfl, rfl⟩ := ends
            have settled : ChatSession.Settled
                { session with
                  pendingAction := some (.modelTool toolCall)
                  toolContinuation := some continuation } :=
              settled_of_waiting rfl rfl found answered
            refine ⟨.waiting _ _ settled, iff_of_true settled ?_⟩
            rintro ⟨-, other, otherCall, otherAction, continuedOther, foundOther,
              decodedOther, -, long⟩
            rw [continued, Option.some.injEq] at continuedOther
            subst continuedOther
            rw [found, Option.some.injEq] at foundOther
            subst foundOther
            rw [decoded, Except.ok.injEq] at decodedOther
            subst decodedOther
            exact absurd (fits.mp ⟨approval, built⟩) (Nat.not_le_of_lt long)
  | advanceToolContinuation =>
      change advanceToolContinuation session = _ at ends
      obtain ⟨continuation, continued, answered⟩ := continues
      unfold advanceToolContinuation at ends
      rw [continued] at ends
      dsimp only at ends
      split_ifs at ends
      · cases (Prod.mk.inj ends).1
      · rw [← (Prod.mk.inj ends).2]
        exact idle rfl unasked (by simp)
      · cases (Prod.mk.inj ends).1

/-- At a call it cannot ask for the loop returns and leaves the session as it is. -/
theorem unaskable_returns (host : SessionHost ω) {call : LoopCall}
    (unaskable : Unaskable call session) :
    ∃ result, (loop host).body call session = (.returns result, session) := by
  obtain ⟨rfl, continuation, toolCall, action, continued, found, decoded, asks, long⟩ :=
    unaskable
  cases built : approvalFor session.capabilities continuation.batch.round toolCall action with
  | ok approval =>
      exact absurd ((approvalFor_isOk_iff asks).mp ⟨approval, built⟩) (Nat.not_le_of_lt long)
  | error error =>
      refine ⟨.error (.toolLoop error.display), ?_⟩
      change queueNextToolApproval host session = _
      simp [queueNextToolApproval, continued, found, decoded, asks, built]

/-- The start of the loop for a prompt. -/
def promptStart (host : SessionHost ω) (session : ChatSession ω) (messages : List ChatMessage) :
    LoopCall × ChatSession ω :=
  let prompt := (latestUserMessage messages).getD ""
  let (assembled, capabilities, after) :=
    host.assembleMessages messages session.capabilities session.host
  (.runModelLoop assembled prompt [.user prompt] 1, { session with capabilities, host := after })

/-- The condition on a step: a prompt does not come to a call whose summary is too long to
ask for, and an approved call can still be decoded. -/
def Askable (host : SessionHost ω) (session : ChatSession ω) : SessionAction → Prop
  | .complete messages => session.hasPendingAction = false →
      ∀ last, (loop host).Reaches (promptStart host session messages) last →
        ¬ Unaskable last.1 last.2
  | .approve => ∀ call, session.pendingAction = some (.modelTool call) →
      ∃ action, session.capabilities.decode call = .ok action
  | .deny | .cancel | .change _ => True

/-- A prompt leaves a settled session exactly if it can ask for the call it stops at. -/
theorem complete_settled_iff (settled : session.Settled) (messages : List ChatMessage) :
    (session.complete host messages).2.Settled ↔ Askable host session (.complete messages) := by
  unfold complete Askable
  rcases settled.cases with ⟨continued, unasked⟩ | ⟨continuation, call, continued, asked, -⟩
  · have accepts := settled.accepts continued
    have start : LoopInvariant (promptStart host session messages).1
        (promptStart host session messages).2 := ⟨unasked, continued⟩
    rw [if_neg (by simp [accepts])]
    change ((loop host).run (promptStart host session messages).1
      (promptStart host session messages).2).2.Settled ↔ _
    constructor
    · intro ends _ other reached unaskable
      obtain ⟨result, returned⟩ := unaskable_returns host unaskable
      have invariant := reached.invariant loopInvariant_calls start
      rw [reached.run_eq, TailCalls.run_of_returns returned] at ends
      exact (loopInvariant_returns invariant returned).2.mp ends unaskable
    · intro askable
      obtain ⟨last, reached, returned⟩ := (loop host).exists_last
        (promptStart host session messages).1 (promptStart host session messages).2
      have invariant := reached.invariant loopInvariant_calls start
      exact (loopInvariant_returns invariant returned).2.mpr (askable accepts last reached)
  · have pending : session.hasPendingAction = true := by
      simp [hasPendingAction, continued]
    rw [if_pos pending]
    refine iff_of_true settled ?_
    intro accepts
    rw [pending] at accepts
    cases accepts

/-- Going on after an outcome always leaves a settled session. -/
theorem finishModelToolProgress_settled {continuation : ToolContinuation}
    (continued : session.toolContinuation = some continuation)
    (unasked : session.pendingAction = none) (answered : continuation.Answered) :
    (session.finishModelToolProgress host).2.Settled := by
  have start : LoopInvariant .advanceToolContinuation session :=
    ⟨unasked, continuation, continued, answered⟩
  have ended : LoopEnd ((loop host).run .advanceToolContinuation session).1
      ((loop host).run .advanceToolContinuation session).2 :=
    TailCalls.run_ends loopInvariant_calls
      (fun holds ends => (loopInvariant_returns holds ends).1) start
  unfold finishModelToolProgress
  generalize (loop host).run .advanceToolContinuation session = ran at ended
  obtain ⟨result, after⟩ := ran
  dsimp only at ended ⊢
  cases ended with
  | idle continued unasked =>
      split
      · rename_i same
        rw [← (Prod.mk.inj same).2]
        exact settled_of_idle continued unasked
      · rename_i same
        rw [← (Prod.mk.inj same).2]
        exact settled_of_idle continued unasked
      · rename_i same
        rw [← (Prod.mk.inj same).2]
        exact settled_of_idle rfl unasked
  | waiting tool summary settled => exact settled
  | stuck message continued unasked => exact settled_of_idle rfl unasked

/-- A decision leaves a settled session, an approval exactly if the call can be decoded. -/
theorem decision_settled_iff (settled : session.Settled) :
    ((session.approvePendingModelTool host).2.Settled ↔ Askable host session .approve) ∧
    (session.denyPendingModelTool host).2.Settled ∧
    (session.cancelPendingModelTool host).2.Settled := by
  unfold approvePendingModelTool denyPendingModelTool cancelPendingModelTool
    withPendingModelTool Askable
  rcases settled.cases with ⟨continued, unasked⟩ | ⟨continuation, call, continued, asked,
    found, answered⟩
  · rw [unasked]
    have idle : ChatSession.Settled { session with pendingAction := none } :=
      settled_of_idle continued rfl
    refine ⟨iff_of_true idle ?_, idle, idle⟩
    intro call impossible
    cases impossible
  · rw [asked]
    dsimp only
    have goesOn : ∀ outcome (other : ChatSession ω),
        other.toolContinuation = some continuation → other.pendingAction = none →
        ((other.appendToolOutcome call outcome).finishModelToolProgress host).2.Settled :=
      fun outcome other continues nothing =>
        finishModelToolProgress_settled (appendToolOutcome_of_some continues call outcome)
          nothing (answered.append found outcome)
    refine ⟨?_, goesOn _ _ continued rfl, goesOn _ _ continued rfl⟩
    cases decoded : session.capabilities.decode call with
    | error error =>
        refine iff_of_false (not_settled_of_stuck continued rfl) ?_
        intro decodes
        obtain ⟨action, impossible⟩ := decodes call rfl
        rw [decoded] at impossible
        cases impossible
    | ok action =>
        refine iff_of_true (goesOn _ _ continued rfl) ?_
        intro other same
        rw [Option.some.injEq, PendingAction.modelTool.injEq] at same
        rw [← same]
        exact ⟨action, decoded⟩

/-- A step leaves a settled session settled exactly if it meets its condition. -/
theorem sessionStep_settled_iff (settled : session.Settled) (action : SessionAction) :
    (sessionStep host session action).Settled ↔ Askable host session action := by
  cases action with
  | complete messages => exact complete_settled_iff settled messages
  | approve => exact (decision_settled_iff settled).1
  | deny => exact iff_of_true (decision_settled_iff settled).2.1 trivial
  | cancel => exact iff_of_true (decision_settled_iff settled).2.2 trivial
  | change capabilities =>
      have kept : (sessionStep host session (.change capabilities)).Settled :=
        ⟨settled.pending, settled.next, settled.answered, settled.accepts⟩
      exact iff_of_true kept trivial

/-- A session before its first prompt. -/
def freshSession (plugins : ω) (capabilities : Capabilities) (policy : ToolLoopPolicy) :
    ChatSession ω :=
  ⟨plugins, capabilities, policy, none, none⟩

/-- A session is settled after every call of a run exactly if every step of the run meets its
condition. -/
theorem throughout_settled_iff (host : SessionHost ω) (plugins : ω)
    (capabilities : Capabilities) (policy : ToolLoopPolicy) (run : List SessionAction) :
    Throughout (sessionStep host) ChatSession.Settled
        (freshSession plugins capabilities policy) run ↔
      EachStep (sessionStep host) (Askable host)
        (freshSession plugins capabilities policy) run := by
  apply throughout_iff_eachStep ChatSession.Settled (fun _ _ => True)
  · exact fun _ settled => settled
  · exact fun _ action settled _ askable => (sessionStep_settled_iff settled action).mpr askable
  · exact fun _ action settled _ unaskable after =>
      unaskable ((sessionStep_settled_iff settled action).mp after)
  · exact settled_of_idle rfl rfl
  · exact eachStep_true _ _

/-- Capabilities of which only the coordinator may be there. -/
def sampleCapabilities (multiAgent : Bool) : Capabilities where
  shell := false
  patch := false
  files := false
  mcp := false
  multiAgent := multiAgent
  mcpTools := []
  skillTools := []
  mcpNetworkGrant := false
  mcpSecretGrant := false
  distinct := by decide

theorem validateCallId_first : validateCallId "call-1" = .ok () := by decide

theorem validateToolName_spawn : validateToolName agentSpawnToolName = .ok () := by decide

/-- A call that delegates a task. -/
def spawnCall : ToolCall :=
  ⟨⟨"call-1", validateCallId_first⟩, ⟨agentSpawnToolName, validateToolName_spawn⟩,
    .object [("task", .string "inspect")], by decide⟩

/-- A model that always asks to delegate a task. -/
def delegatingHost : SessionHost Unit where
  assembleMessages := fun messages capabilities plugins => (messages, capabilities, plugins)
  invokeModel := fun _ plugins =>
    (.ok ((ChatResult.new "" none).withToolCalls [spawnCall]), plugins)
  executeModelTool := fun _ capabilities plugins => (.completed .null, capabilities, plugins)
  finishTurn := fun _ _ capabilities plugins => (capabilities, plugins)

/-- The coordinator is lost before the call it is needed for is approved. -/
def lostApproval : List SessionAction :=
  [.complete [.user "go"], .change (sampleCapabilities false), .approve]

theorem lostApproval_wedges :
    ¬ Throughout (sessionStep delegatingHost) ChatSession.Settled
      (freshSession () (sampleCapabilities true) ⟨8, 8⟩) lostApproval := by
  intro holds
  have left : (finalState (sessionStep delegatingHost)
      (freshSession () (sampleCapabilities true) ⟨8, 8⟩) lostApproval).toolContinuation.isSome =
      true := by
    decide +kernel
  have unasked : (finalState (sessionStep delegatingHost)
      (freshSession () (sampleCapabilities true) ⟨8, 8⟩) lostApproval).pendingAction.isNone =
      true := by
    decide +kernel
  obtain ⟨call, asked⟩ := holds.last.pending.mp left
  rw [asked] at unasked
  cases unasked

end Session
end YunXi
