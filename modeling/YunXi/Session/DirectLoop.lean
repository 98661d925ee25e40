import YunXi.Program.TailCalls
import YunXi.Session.Plugins
import YunXi.Session.ToolActions

/-!
# The direct tool loop

A session without a spine keeps the calls of a model reply in a continuation and the call
that waits for the user in its pending action.  Three functions that end in calls of each
other ask the model, take the next call of the reply and go on after it; a prompt starts
them and the user's decision on the pending call resumes them.
-/

namespace YunXi
namespace Session

open Protocol

variable {ω : Type}

/-- A failure of a chat turn. -/
inductive ChatFailure
  | request (code message : String) (retryable : Bool)
  | unavailable (message : String)
  | protocolViolation (message : String)
  | toolApprovalRequired (tool summary : String)
  | toolLoop (message : String)
  deriving DecidableEq, Repr

/-- `fmt::Display for ChatFailure`. -/
def ChatFailure.display : ChatFailure → String
  | request code message retryable =>
      "model request failed (" ++ code ++ "): " ++ message ++
        if retryable then " [retryable]" else ""
  | unavailable message => "model plugin unavailable: " ++ message
  | protocolViolation message => "model plugin protocol violation: " ++ message
  | toolApprovalRequired tool summary =>
      "Approval required for model tool action; tool: " ++ tool ++ "; " ++ summary ++
        "; use /approve, /deny, or /cancel"
  | toolLoop message => "model tool loop stopped: " ++ message

/-- `chat_failure_from_plugin`. -/
def chatFailureFromPlugin : PluginCallError → ChatFailure
  | .rejected _ code message retryable => .request code message retryable
  | .protocolViolation _ message => .protocolViolation message
  | other => .unavailable other.display

/-- `ToolContinuation`; the checked batch holds the pending calls and the round. -/
structure ToolContinuation where
  messages : List ChatMessage
  batch : ToolCallBatch
  nextCall : Nat
  prompt : String
  historyPrefix : List ChatMessage

inductive PendingAction
  | shell (command : String)
  | patch (path content : String)
  | modelTool (call : ToolCall)

/-- The fields of `ChatSession` that the direct tool loop uses, with the state of the
plugins behind its host. -/
structure ChatSession (ω : Type) where
  host : ω
  capabilities : Capabilities
  toolLoopPolicy : ToolLoopPolicy
  pendingAction : Option PendingAction
  toolContinuation : Option ToolContinuation

structure ModelReply where
  content : String
  history : List ChatMessage

/-- What a session reaches through its host.  Any of it may find that a plugin is gone and
give up the capability. -/
structure SessionHost (ω : Type) where
  /-- `assemble_messages`. -/
  assembleMessages :
    List ChatMessage → Capabilities → ω → List ChatMessage × Capabilities × ω
  /-- The invocation of the model. -/
  invokeModel : ChatRequest → ω → Except PluginCallError ChatResult × ω
  /-- `execute_model_tool`. -/
  executeModelTool : ToolAction → Capabilities → ω → ToolResultOutcome × Capabilities × ω
  /-- `persist_turn`, `extract_turn_memories` and `evaluate_proactive`. -/
  finishTurn : String → String → Capabilities → ω → Capabilities × ω

variable (session : ChatSession ω)

namespace ChatSession

/-- `has_pending_action` of a session without a spine. -/
def hasPendingAction : Bool :=
  session.pendingAction.isSome || session.toolContinuation.isSome

/-- Drop the continuation and the pending action. -/
def abandon : ChatSession ω :=
  { session with toolContinuation := none, pendingAction := none }

/-- `append_tool_outcome`. -/
def appendToolOutcome (call : ToolCall)
    (outcome : ToolResultOutcome) : ChatSession ω :=
  { session with
    toolContinuation := session.toolContinuation.map fun continuation =>
      { continuation with
        messages := continuation.messages ++ [toolResultMessage call outcome]
        nextCall := continuation.nextCall + 1 } }

theorem appendToolOutcome_of_some {session : ChatSession ω} {continuation : ToolContinuation}
    (continued : session.toolContinuation = some continuation) (call : ToolCall)
    (outcome : ToolResultOutcome) :
    (session.appendToolOutcome call outcome).toolContinuation = some { continuation with
      messages := continuation.messages ++ [toolResultMessage call outcome]
      nextCall := continuation.nextCall + 1 } := by
  rw [appendToolOutcome, continued]
  rfl

/-- `execute_model_tool`, with what it leaves of the session. -/
def executeModelTool (host : SessionHost ω) (session : ChatSession ω) (action : ToolAction) :
    ToolResultOutcome × ChatSession ω :=
  let (outcome, capabilities, after) :=
    host.executeModelTool action session.capabilities session.host
  (outcome, { session with capabilities, host := after })

end ChatSession

/-- The actions that `queue_next_tool_approval` runs without asking. -/
def runsUnasked : ToolAction → Bool
  | .fileSearch .. | .fileRead .. | .skill .. | .agentList | .agentInterrupt .. => true
  | .shell .. | .patch .. | .mcp .. | .agentSpawn .. | .agentMessage .. => false

/-- The grants that `queue_next_tool_approval` asks for. -/
def askedGrants (capabilities : Capabilities) : ToolAction → List GrantKind
  | .shell .. => [.approval, .workspaceRead]
  | .patch .. => [.approval, .workspaceRead, .workspaceWrite]
  | .mcp .. =>
      [.approval] ++ (if capabilities.mcpNetworkGrant then [.network] else []) ++
        if capabilities.mcpSecretGrant then [.secret] else []
  | .agentSpawn .. | .agentMessage .. =>
      [.approval, .workspaceRead, .workspaceWrite, .agentDelegation]
  -- the actions that run unasked; the source asserts that they do not come here
  | .fileSearch .. | .fileRead .. | .skill .. | .agentList | .agentInterrupt .. => []

/-- The request that asks for a call. -/
def approvalFor (capabilities : Capabilities) (round : Nat) (call : ToolCall)
    (action : ToolAction) : Except ToolProtocolError ToolApprovalRequest :=
  ToolApprovalRequest.new round call.id call.name action.summary
    (askedGrants capabilities action)

/-- A call of one of the three functions. -/
inductive LoopCall
  | runModelLoop (messages : List ChatMessage) (prompt : String)
      (historyPrefix : List ChatMessage) (round : Nat)
  | queueNextToolApproval
  | advanceToolContinuation

/-- How a body of the loop ends. -/
abbrev LoopEnding := Ending (Except ChatFailure ModelReply) LoopCall

namespace ChatSession

variable (host : SessionHost ω)

/-- `run_model_loop`. -/
def runModelLoop (messages : List ChatMessage) (prompt : String)
    (historyPrefix : List ChatMessage) (round : Nat) (session : ChatSession ω) :
    LoopEnding × ChatSession ω :=
  match host.invokeModel ⟨messages, session.capabilities.catalog⟩ session.host with
  | (.error error, after) =>
      (.returns (.error (chatFailureFromPlugin error)), { session with host := after }.abandon)
  | (.ok result, after) =>
      let session := { session with host := after }
      if result.toolCalls.isEmpty then
        if isBlank result.content then
          (.returns (.error (.protocolViolation
            "model returned an empty response without tool calls")),
            { session with toolContinuation := none })
        else
          let (capabilities, after) :=
            host.finishTurn prompt result.content session.capabilities session.host
          (.returns (.ok ⟨result.content, historyPrefix ++ [.assistant result.content]⟩),
            { session with capabilities, host := after })
      else
        match ToolCallBatch.new round result.toolCalls with
        | .error error => (.returns (.error (.toolLoop error.display)), session.abandon)
        | .ok batch =>
            match batch.validateWithPolicy session.toolLoopPolicy with
            | .error error => (.returns (.error (.toolLoop error.display)), session.abandon)
            | .ok () =>
                (.calls .queueNextToolApproval,
                  { session with
                    toolContinuation := some {
                      messages := messages ++ [.assistantToolCalls batch.calls]
                      batch
                      nextCall := 0
                      prompt
                      historyPrefix } })

/-- `queue_next_tool_approval`. -/
def queueNextToolApproval (session : ChatSession ω) : LoopEnding × ChatSession ω :=
  match session.toolContinuation with
  | none => (.returns (.error (.toolLoop "tool continuation is missing")), session)
  | some continuation =>
      match continuation.batch.calls[continuation.nextCall]? with
      | none => (.returns (.error (.toolLoop "tool continuation has no pending call")), session)
      | some call =>
          match session.capabilities.decode call with
          | .error error =>
              (.calls .advanceToolContinuation,
                session.appendToolOutcome call (.rejected "invalid_arguments" error.display))
          | .ok action =>
              if runsUnasked action then
                let (outcome, session) := session.executeModelTool host action
                (.calls .advanceToolContinuation, session.appendToolOutcome call outcome)
              else
                match approvalFor session.capabilities continuation.batch.round call action with
                -- the continuation stays behind without a pending action
                | .error error => (.returns (.error (.toolLoop error.display)), session)
                | .ok approval =>
                    (.returns (.error
                      (.toolApprovalRequired approval.toolName.text approval.summary)),
                      { session with pendingAction := some (.modelTool call) })

/-- `advance_tool_continuation`. -/
def advanceToolContinuation : LoopEnding × ChatSession ω :=
  match session.toolContinuation with
  | none => (.returns (.error (.toolLoop "tool continuation is missing")), session)
  | some continuation =>
      if continuation.nextCall < continuation.batch.calls.length then
        (.calls .queueNextToolApproval, session)
      else
        let session := { session with toolContinuation := none }
        let nextRound := min (continuation.batch.round + 1) 65535
        if session.toolLoopPolicy.maxRounds < nextRound then
          (.returns (.error (.toolLoop ("tool loop exceeded " ++
            toString session.toolLoopPolicy.maxRounds ++ " rounds"))), session)
        else
          (.calls (.runModelLoop continuation.messages continuation.prompt
            continuation.historyPrefix nextRound), session)

/-- The body of a call. -/
def body : LoopCall → ChatSession ω → LoopEnding × ChatSession ω
  | .runModelLoop messages prompt historyPrefix round =>
      runModelLoop host messages prompt historyPrefix round
  | .queueNextToolApproval => queueNextToolApproval host
  | .advanceToolContinuation => advanceToolContinuation

/-- What is left of a continuation: its rounds, then its calls. -/
def remaining (continuation : ToolContinuation) : Nat :=
  34 * (33 - continuation.batch.round) +
    2 * (continuation.batch.calls.length - continuation.nextCall)

/-- The rank of a call; every batch has at most 16 calls and its round is at most 32. -/
def rank : LoopCall → ChatSession ω → Nat
  | .runModelLoop _ _ _ round, _ => 34 * (33 - round) + 33
  | .queueNextToolApproval, session => (session.toolContinuation.map remaining).getD 0
  | .advanceToolContinuation, session =>
      (session.toolContinuation.map remaining).elim 0 (· + 1)

variable {host} {session after : ChatSession ω} {next : LoopCall}

/-- `run_model_loop` goes on with the calls of the reply it got. -/
theorem runModelLoop_calls {messages : List ChatMessage} {prompt : String}
    {historyPrefix : List ChatMessage} {round : Nat}
    (ends : runModelLoop host messages prompt historyPrefix round session =
      (.calls next, after)) :
    next = .queueNextToolApproval ∧ after.pendingAction = session.pendingAction ∧
      ∃ batch : ToolCallBatch, batch.round = round ∧
        after.toolContinuation = some {
          messages := messages ++ [.assistantToolCalls batch.calls]
          batch
          nextCall := 0
          prompt
          historyPrefix } := by
  unfold runModelLoop at ends
  split at ends
  · cases (Prod.mk.inj ends).1
  · dsimp only at ends
    split_ifs at ends
    · cases (Prod.mk.inj ends).1
    · cases (Prod.mk.inj ends).1
    · split at ends
      · cases (Prod.mk.inj ends).1
      · rename_i batch built
        split at ends
        · cases (Prod.mk.inj ends).1
        · obtain ⟨same, rfl⟩ := Prod.mk.inj ends
          injection same with same
          obtain ⟨passes, rfl⟩ := build_eq_ok built
          exact ⟨same.symm, rfl, _, rfl, rfl⟩

/-- `queue_next_tool_approval` goes on once it has an outcome of the next call. -/
theorem queueNextToolApproval_calls
    (ends : queueNextToolApproval host session = (.calls next, after)) :
    next = .advanceToolContinuation ∧ after.pendingAction = session.pendingAction ∧
      ∃ continuation call outcome, session.toolContinuation = some continuation ∧
        continuation.batch.calls[continuation.nextCall]? = some call ∧
        after.toolContinuation = some { continuation with
          messages := continuation.messages ++ [toolResultMessage call outcome]
          nextCall := continuation.nextCall + 1 } := by
  unfold queueNextToolApproval at ends
  split at ends
  · cases (Prod.mk.inj ends).1
  · rename_i continuation continued
    split at ends
    · cases (Prod.mk.inj ends).1
    · rename_i call found
      split at ends
      · obtain ⟨same, rfl⟩ := Prod.mk.inj ends
        injection same with same
        exact ⟨same.symm, rfl, continuation, call, _, continued, found,
          appendToolOutcome_of_some continued call _⟩
      · rename_i action decoded
        split_ifs at ends
        · obtain ⟨same, rfl⟩ := Prod.mk.inj ends
          injection same with same
          have kept : (session.executeModelTool host action).2.toolContinuation =
              some continuation := continued
          exact ⟨same.symm, rfl, continuation, call, _, continued, found,
            appendToolOutcome_of_some kept call _⟩
        · split at ends
          · cases (Prod.mk.inj ends).1
          · cases (Prod.mk.inj ends).1

/-- `advance_tool_continuation` goes on with the next call, or with the next round. -/
theorem advanceToolContinuation_calls
    (ends : advanceToolContinuation session = (.calls next, after)) :
    ∃ continuation, session.toolContinuation = some continuation ∧
      (continuation.nextCall < continuation.batch.calls.length ∧
          next = .queueNextToolApproval ∧ after = session ∨
        continuation.batch.calls.length ≤ continuation.nextCall ∧
          next = .runModelLoop continuation.messages continuation.prompt
            continuation.historyPrefix (min (continuation.batch.round + 1) 65535) ∧
          after = { session with toolContinuation := none }) := by
  unfold advanceToolContinuation at ends
  split at ends
  · cases (Prod.mk.inj ends).1
  · rename_i continuation continued
    refine ⟨continuation, continued, ?_⟩
    split_ifs at ends with more
    · obtain ⟨same, rfl⟩ := Prod.mk.inj ends
      injection same with same
      exact .inl ⟨more, same.symm, rfl⟩
    · dsimp only at ends
      split_ifs at ends
      · cases (Prod.mk.inj ends).1
      · obtain ⟨same, rfl⟩ := Prod.mk.inj ends
        injection same with same
        exact .inr ⟨Nat.le_of_not_lt more, same.symm, rfl⟩

/-- Every batch has a round and calls within the limits. -/
theorem batch_bounds (batch : ToolCallBatch) :
    0 < batch.round ∧ batch.round ≤ 32 ∧ batch.calls.length ≤ 16 := by
  have valid := batch.valid
  unfold validateBatch at valid
  simp only [Except.bind_eq_ok] at valid
  obtain ⟨_, -, _, round, calls⟩ := valid
  unfold validateRound at round
  unfold validateCalls at calls
  have rounds : maxToolRounds = 32 := rfl
  have perRound : maxToolCallsPerRound = 16 := rfl
  split_ifs at round calls
  omega

/-- The rank falls with every call. -/
theorem rank_falls {call : LoopCall} (ends : body host call session = (.calls next, after)) :
    rank next after < rank call session := by
  cases call with
  | runModelLoop messages prompt historyPrefix round =>
      obtain ⟨rfl, -, batch, sameRound, continued⟩ := runModelLoop_calls ends
      have bounds := batch_bounds batch
      simp only [rank, continued, Option.map_some, Option.getD_some, remaining]
      omega
  | queueNextToolApproval =>
      obtain ⟨rfl, -, continuation, call, outcome, continued, found, later⟩ :=
        queueNextToolApproval_calls ends
      have within := (List.getElem?_eq_some_iff.mp found).1
      simp only [rank, continued, later, Option.map_some, Option.getD_some,
        Option.elim_some, remaining]
      omega
  | advanceToolContinuation =>
      obtain ⟨continuation, continued, ⟨more, rfl, rfl⟩ | ⟨last, rfl, rfl⟩⟩ :=
        advanceToolContinuation_calls ends
      · simp only [rank, continued, Option.map_some, Option.getD_some, Option.elim_some]
        omega
      · have bounds := batch_bounds continuation.batch
        simp only [rank, continued, Option.map_some, Option.elim_some, remaining]
        omega

/-- The three functions together. -/
def loop (host : SessionHost ω) :
    TailCalls (Except ChatFailure ModelReply) LoopCall (ChatSession ω) where
  body := body host
  rank := rank
  falls := rank_falls

end ChatSession

/-- `latest_user_message`. -/
def latestUserMessage (messages : List ChatMessage) : Option String :=
  (messages.reverse.find? (·.role == .user)).map ChatMessage.content

/-- What a management command returns. -/
inductive ManagementResult
  | assistantReply (content : String) (history : List ChatMessage)
  | lines (lines : List String)

/-- `tool_approval_lines`. -/
def toolApprovalLines (tool summary : String) : List String :=
  ["Approval required for model tool action.", "tool: " ++ tool, summary,
    "Use /approve to run it, /deny to deny it, or /cancel to cancel it."]

namespace ChatSession

/-- The tool and the summary of `pending_approval`. -/
def pendingApproval : Option (String × String) :=
  match session.pendingAction with
  | some (.modelTool call) =>
      some (call.name.text,
        match session.capabilities.decode call with
        | .ok action => action.summary
        | .error _ => "model requested a tool action")
  | _ => none

variable (host : SessionHost ω)

/-- `ChatBackend::complete` of a session without a spine. -/
def complete (messages : List ChatMessage) (session : ChatSession ω) :
    Except ChatFailure String × ChatSession ω :=
  if session.hasPendingAction then
    (.error (.toolApprovalRequired
      (session.pendingApproval.elim "pending action" Prod.fst)
      (session.pendingApproval.elim
        "approve or deny the pending action before starting another turn" Prod.snd)), session)
  else
    let prompt := (latestUserMessage messages).getD ""
    let (assembled, capabilities, after) :=
      host.assembleMessages messages session.capabilities session.host
    let (result, session) := (loop host).run (.runModelLoop assembled prompt [.user prompt] 1)
      { session with capabilities, host := after }
    (result.map ModelReply.content, session)

/-- `finish_model_tool_progress`. -/
def finishModelToolProgress (session : ChatSession ω) :
    Except String ManagementResult × ChatSession ω :=
  match (loop host).run .advanceToolContinuation session with
  | (.ok reply, session) => (.ok (.assistantReply reply.content reply.history), session)
  | (.error (.toolApprovalRequired tool summary), session) =>
      (.ok (.lines (toolApprovalLines tool summary)), session)
  | (.error error, session) =>
      (.error error.display, { session with toolContinuation := none })

/-- Take the pending call and go on with it. -/
def withPendingModelTool
    (decide : ToolCall → ChatSession ω → Except String ManagementResult × ChatSession ω) :
    Except String ManagementResult × ChatSession ω :=
  match session.pendingAction with
  | some (.modelTool call) => decide call { session with pendingAction := none }
  | _ => (.error "there is no pending model tool action", { session with pendingAction := none })

/-- `approve_pending_model_tool`. -/
def approvePendingModelTool (session : ChatSession ω) :
    Except String ManagementResult × ChatSession ω :=
  session.withPendingModelTool fun call session =>
    match session.capabilities.decode call with
    -- the continuation stays behind without a pending action
    | .error error => (.error error.display, session)
    | .ok action =>
        let (outcome, session) := session.executeModelTool host action
        (session.appendToolOutcome call outcome).finishModelToolProgress host

/-- `deny_pending_model_tool`. -/
def denyPendingModelTool (session : ChatSession ω) :
    Except String ManagementResult × ChatSession ω :=
  session.withPendingModelTool fun call session =>
    (session.appendToolOutcome call
      (.rejected "user_denied" "the user denied this tool call")).finishModelToolProgress host

/-- `cancel_pending_model_tool`. -/
def cancelPendingModelTool (session : ChatSession ω) :
    Except String ManagementResult × ChatSession ω :=
  session.withPendingModelTool fun call session =>
    (session.appendToolOutcome call
      (.cancelled "user cancelled the pending tool call")).finishModelToolProgress host

end ChatSession

/-- What can happen to a session: the calls of its owner, and capabilities that change
between them. -/
inductive SessionAction
  | complete (messages : List ChatMessage)
  | approve
  | deny
  | cancel
  | change (capabilities : Capabilities)

/-- A session after an action. -/
def sessionStep (host : SessionHost ω) (session : ChatSession ω) : SessionAction → ChatSession ω
  | .complete messages => (session.complete host messages).2
  | .approve => (session.approvePendingModelTool host).2
  | .deny => (session.denyPendingModelTool host).2
  | .cancel => (session.cancelPendingModelTool host).2
  | .change capabilities => { session with capabilities }

end Session
end YunXi
