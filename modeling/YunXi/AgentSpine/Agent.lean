import YunXi.AgentSpine.Tool

/-!
# The agent and its turn loop

`runTurnInner` and `processToolBatch` update only the session log, the tracker
and the components, so they run on these three parts; the public operations
run on the whole agent.  Updates made before an error survive it, as they do
through the `&mut` references of the source.
-/

namespace YunXi
namespace AgentSpine

open Fallible
open Protocol

/-- Limits of one turn: two `u16` and two `u32` counters. -/
structure TurnBudget where
  maxRounds : Nat
  maxCallsPerRound : Nat
  maxToolCalls : Nat
  maxModelCalls : Nat
  maxToolCalls_le : maxToolCalls ≤ 2 ^ 32 - 1 := by decide
  maxModelCalls_le : maxModelCalls ≤ 2 ^ 32 - 1 := by decide
  deriving DecidableEq

namespace TurnBudget

def conservative : TurnBudget where
  maxRounds := 8
  maxCallsPerRound := 8
  maxToolCalls := 64
  maxModelCalls := 9

def policy (budget : TurnBudget) : ToolLoopPolicy :=
  ⟨budget.maxRounds, budget.maxCallsPerRound⟩

def validate (budget : TurnBudget) : Except AgentError Unit :=
  match budget.policy.validate with
  | .error error => .error (.newInvalidInput "invalid_budget" error.display)
  | .ok () =>
      if budget.maxToolCalls = 0 then
        .error (.newInvalidInput "invalid_budget"
          "max_tool_calls must be greater than zero")
      else if budget.maxModelCalls = 0 then
        .error (.newInvalidInput "invalid_budget"
          "max_model_calls must be greater than zero")
      else .ok ()

end TurnBudget

/-- A configuration whose budget and limits passed validation. -/
structure AgentConfig where
  budget : TurnBudget
  sessionLimits : SessionLimits
  budgetValid : budget.validate = .ok ()
  limitsValid : sessionLimits.validate = .ok ()

/-- `AgentConfig::default`. -/
def AgentConfig.default : AgentConfig where
  budget := .conservative
  sessionLimits := .default
  budgetValid := rfl
  limitsValid := rfl

inductive TurnState
  | created
  | contextBuilding
  | modelCalling
  | toolCalling
  | awaitingApproval
  | completed
  | failed
  | cancelled
  deriving DecidableEq, Repr

structure TurnSnapshot where
  id : String
  state : TurnState
  round : Nat
  modelCalls : Nat
  toolCalls : Nat
  error : Option ComponentError
  deriving DecidableEq

structure TurnTracker where
  snapshot : TurnSnapshot
  round : Nat
  modelCalls : Nat
  toolCalls : Nat
  state : TurnState
  deriving DecidableEq

variable (tracker : TurnTracker)

namespace TurnTracker

def new (id : String) : TurnTracker :=
  ⟨⟨id, .created, 0, 0, 0, none⟩, 0, 0, 0, .created⟩

def sync : TurnTracker :=
  { tracker with
    snapshot := { tracker.snapshot with
      state := tracker.state
      round := tracker.round
      modelCalls := tracker.modelCalls
      toolCalls := tracker.toolCalls } }

/-- Close the tracker in a final state with an error. -/
def close (state : TurnState) (error : ComponentError) :
    TurnTracker :=
  sync { tracker with
    state
    snapshot := { tracker.snapshot with error := some error } }

def fail (error : AgentError) : TurnTracker :=
  tracker.close .failed (.new error.code error.message error.retryable)

def cancel (reason : String) : TurnTracker :=
  tracker.close .cancelled (.new "cancelled" reason false)

def intoSnapshot : TurnSnapshot := tracker.sync.snapshot

end TurnTracker

/-- A call that waits for approval inside its batch. -/
structure PendingTool where
  request : ToolApprovalRequest
  batch : ToolCallBatch
  nextCall : Nat

inductive InnerTurnOutcome
  | completed (response : ChatResult)
  | awaitingApproval (pending : PendingTool)

structure PendingTurn where
  tracker : TurnTracker
  userMessage : ChatMessage
  request : ToolApprovalRequest
  batch : ToolCallBatch
  nextCall : Nat

inductive ExecutionMode
  | legacy
  | approvalAware
  deriving DecidableEq

/-- What a running turn updates. -/
structure Live (σ : Type) where
  session : SessionLog
  tracker : TurnTracker
  components : σ

variable {σ : Type}

/-- The programs the turn loop is made of. -/
abbrev TurnProgram (σ α : Type) := Fallible (Live σ) AgentError α

namespace TurnProgram

/-- `Agent::record`. -/
def record (event : SessionEvent) : TurnProgram σ Unit :=
  ofFunction fun live =>
    match live.session.append event with
    | .ok (_, session) => (.ok (), { live with session })
    | .error error => (.error (.session error), live)

/-- `cancellation.check()?`. -/
def checkCancellation (cancellation : SharedToken σ) : TurnProgram σ Unit :=
  ofFunction fun live =>
    let (token, components) := cancellation live.components
    (token.check.mapError .cancelled, { live with components })

/-- Call a component and wrap its error. -/
def callComponent {α : Type} (wrap : ComponentError → AgentError)
    (operation : Fallible σ ComponentError α) : TurnProgram σ α :=
  operation.embed wrap Live.components fun components live => { live with components }

/-- Call a component and keep its error as a value. -/
def tryComponent {α : Type} (operation : Fallible σ ComponentError α) :
    TurnProgram σ (Except ComponentError α) :=
  operation.attempt Live.components fun components live => { live with components }

def updateTracker (update : TurnTracker → TurnTracker) : TurnProgram σ Unit :=
  modify fun live => { live with tracker := update live.tracker }

/-- Report a protocol error of the turn itself. -/
def protocolCheck {α : Type} (code : String) (result : Except ToolProtocolError α) :
    TurnProgram σ α :=
  Fallible.ofExcept (result.mapError fun error => .newProtocol code error.display)

end TurnProgram

open TurnProgram

/-- The batch a response asks for, checked against the turn's policy. -/
def responseBatch (budget : TurnBudget) (round : Nat) (response : ChatResult) :
    Except ToolProtocolError (Option ToolCallBatch) :=
  if response.toolCalls.isEmpty then .ok none
  else do
    let batch ← ToolCallBatch.new round response.toolCalls
    batch.validateWithPolicy budget.policy
    return some batch

section Loop

variable (components : Components σ) (budget : TurnBudget)

/-- Run one call through the broker operation of the execution mode. -/
def executeTool (mode : ExecutionMode) (request : ToolRequest)
    (approval : Option ToolApprovalDecision) (cancellation : SharedToken σ) :
    Fallible σ ComponentError ToolExecutionOutcome :=
  match mode with
  | .legacy => do
      let outcome ← components.tools.execute request cancellation
      return .executed outcome
  | .approvalAware => components.tools.executeWithApproval request approval cancellation

variable (turnId : String)

/-- Log the approval that was used, if any. -/
def recordResolved : Option ToolApprovalDecision → TurnProgram σ Unit
  | some decision => record (.toolApprovalResolved turnId decision)
  | none => pure ()

/-- Log the approval that was used, if any, and the result of one call. -/
def settleCall (round : Nat) (call : ToolCall)
    (approval : Option ToolApprovalDecision) (outcome : ToolResultOutcome) :
    TurnProgram σ Unit := do
  recordResolved turnId approval
  let result ← protocolCheck "invalid_tool_result"
    (ToolResult.new round call.id call.name outcome)
  record (.toolResultRecorded turnId result)

/-- The checks made before a call is tried, and the count of the call. -/
def admitCall (cancellation : SharedToken σ) : TurnProgram σ Unit := do
  checkCancellation cancellation
  let live ← get
  throwIf (live.tracker.toolCalls ≥ budget.maxToolCalls)
    (.budgetExceeded .toolCalls budget.maxToolCalls live.tracker.toolCalls)
  updateTracker fun tracker =>
    { tracker with
      toolCalls := saturatingAdd (2 ^ 32 - 1) tracker.toolCalls 1
      state := .toolCalling }

/-- Log what the broker answered to a call. -/
def finishCall (batch : ToolCallBatch)
    (approval : Option ToolApprovalDecision) (call : ToolCall) (index : Nat) :
    Except ComponentError ToolExecutionOutcome → TurnProgram σ (Option PendingTool)
  | .ok (.awaitingApproval request) => do
      record (.toolApprovalRequested turnId request)
      return some ⟨request, batch, index⟩
  | .ok (.executed outcome) => do
      settleCall turnId batch.round call approval outcome
      return none
  | .error error => do
      let outcome ← protocolCheck "invalid_tool_failure"
        (ToolResultOutcome.newFailed error.code error.message error.retryable)
      settleCall turnId batch.round call approval outcome
      return none

/-- One iteration of the loop of `process_tool_batch`. -/
def processCall (batch : ToolCallBatch)
    (approval : Option ToolApprovalDecision) (cancellation : SharedToken σ)
    (mode : ExecutionMode) (call : ToolCall) (index : Nat) :
    TurnProgram σ (Option PendingTool) := do
  admitCall budget cancellation
  let answer ← tryComponent
    (executeTool components mode ⟨turnId, batch.round, call⟩ approval cancellation)
  finishCall turnId batch approval call index answer

/-- The calls of a batch from an index on; the approval is for the first call. -/
def processCalls (turnId : String) (batch : ToolCallBatch) (startCall : Nat)
    (approval : Option ToolApprovalDecision) (cancellation : SharedToken σ)
    (mode : ExecutionMode) :
    List (ToolCall × Nat) → TurnProgram σ (Option PendingTool)
  | [] => pure none
  | (call, index) :: calls => do
      let pending ← processCall components budget turnId batch
        (approval.filter fun _ => index == startCall) cancellation mode call index
      match pending with
      | some pending => return some pending
      | none => processCalls turnId batch startCall approval cancellation mode calls

/-- `Agent::process_tool_batch`. -/
def processToolBatch (batch : ToolCallBatch) (startCall : Nat)
    (approval : Option ToolApprovalDecision) (cancellation : SharedToken σ)
    (mode : ExecutionMode) : TurnProgram σ (Option PendingTool) :=
  processCalls components budget turnId batch startCall approval cancellation mode
    (batch.calls.zipIdx.drop startCall)

/-- The first half of a round: build the context and ask the model. -/
def askModel (userMessage : ChatMessage)
    (cancellation : SharedToken σ) (round : Nat) : TurnProgram σ ChatResult := do
  checkCancellation cancellation
  throwIf (round > budget.maxRounds)
    (.budgetExceeded .rounds budget.maxRounds round)
  updateTracker fun tracker => { tracker with round }
  let catalog ← callComponent .tool components.tools.catalog
  updateTracker fun tracker => { tracker with state := .contextBuilding }
  let live ← get
  let chat ← callComponent .context
    (components.assemble ⟨turnId, userMessage, live.session, catalog⟩)
  record (.contextBuilt turnId chat.messages.length catalog.tools.length)
  let live ← get
  throwIf (live.tracker.modelCalls ≥ budget.maxModelCalls)
    (.budgetExceeded .modelCalls budget.maxModelCalls live.tracker.modelCalls)
  updateTracker fun tracker =>
    { tracker with
      modelCalls := saturatingAdd (2 ^ 32 - 1) tracker.modelCalls 1
      state := .modelCalling }
  record (.modelRequested turnId round chat.messages.length catalog.tools.length)
  callComponent .model (components.complete ⟨turnId, round, chat⟩ cancellation)

/-- The second half of a round: log the response and either complete the turn or
give the batch of calls to process. -/
def acceptResponse (round : Nat) (response : ChatResult) :
    TurnProgram σ (Option ToolCallBatch) := do
  let batch ← protocolCheck "invalid_model_tool_calls" (responseBatch budget round response)
  record (.modelResponded turnId round response)
  match batch with
  | none => do
      throwIf (isBlank response.content = true)
        (.newProtocol "empty_model_response" "model returned neither text nor tool calls")
      record (.turnCompleted turnId response.content)
      updateTracker fun tracker => { tracker with state := .completed }
      return none
  | some batch => do
      record (.toolCallsRequested turnId batch)
      return some batch

/-- `round.checked_add(1)` on a `u16`. -/
def nextRound (round : Nat) : Except AgentError Nat :=
  if round + 1 ≤ 2 ^ 16 - 1 then .ok (round + 1)
  else .error (.budgetExceeded .rounds budget.maxRounds (2 ^ 16 - 1))

/-- The loop of `run_turn_inner`.  The first argument counts the rounds left; at
zero the round is over the limit, and the loop stops at its first test. -/
def turnLoop (turnId : String) (userMessage : ChatMessage)
    (cancellation : SharedToken σ) (mode : ExecutionMode)
    (approval : Option ToolApprovalDecision) :
    Nat → Nat → TurnProgram σ InnerTurnOutcome
  | 0, round => do
      checkCancellation cancellation
      throw (.budgetExceeded .rounds budget.maxRounds round)
  | remaining + 1, round => do
      let response ← askModel components budget turnId userMessage cancellation round
      let batch ← acceptResponse budget turnId round response
      match batch with
      | none => return .completed response
      | some batch => do
          let pending ← processToolBatch components budget turnId batch 0 approval
            cancellation mode
          match pending with
          | some pending => return .awaitingApproval pending
          | none => do
              let round ← Fallible.ofExcept (nextRound budget round)
              turnLoop turnId userMessage cancellation mode approval remaining round

/-- `Agent::run_turn_inner`. -/
def runTurnInner (userMessage : ChatMessage)
    (cancellation : SharedToken σ) (startingRound : Nat) (recordStart : Bool)
    (mode : ExecutionMode) (approval : Option ToolApprovalDecision) :
    TurnProgram σ InnerTurnOutcome := do
  (if recordStart then record (.turnStarted turnId userMessage) else pure ())
  turnLoop components budget turnId userMessage cancellation mode approval
    (budget.maxRounds + 1 - startingRound) startingRound

/-- `Agent::continue_pending_turn`. -/
def continuePendingTurn (userMessage : ChatMessage)
    (batch : ToolCallBatch) (nextCall : Nat) (approval : ToolApprovalDecision)
    (cancellation : SharedToken σ) : TurnProgram σ InnerTurnOutcome := do
  let pending ← processToolBatch components budget turnId batch nextCall (some approval)
    cancellation .approvalAware
  match pending with
  | some pending => return .awaitingApproval pending
  | none => do
      let round ← Fallible.ofExcept (nextRound budget batch.round)
      runTurnInner components budget turnId userMessage cancellation round false
        .approvalAware none

end Loop

structure Agent (σ : Type) where
  id : String
  components : σ
  config : AgentConfig
  session : SessionLog
  state : AgentState
  turnsStarted : Nat
  nextTurnId : Nat
  lastTurn : Option TurnSnapshot
  pendingTurn : Option PendingTurn

structure TurnResult where
  response : ChatResult
  snapshot : TurnSnapshot

inductive AgentTurnOutcome
  | completed (result : TurnResult)
  | awaitingApproval (request : ToolApprovalRequest)

/-- The programs the public operations are. -/
abbrev AgentProgram (σ α : Type) := Fallible (Agent σ) AgentError α

def validateIdentifier (field value : String) : Except AgentError Unit :=
  if isBlank value then
    .error (.newInvalidInput "empty_identifier" (field ++ " cannot be empty"))
  else if value.utf8ByteSize > 128 || containsNul value then
    .error (.newInvalidInput "invalid_identifier"
      (field ++ " is empty, contains NUL, or exceeds 128 bytes"))
  else .ok ()

def validatePendingDecision (request : ToolApprovalRequest)
    (decision : ToolApprovalDecision) : Except AgentError Unit :=
  match decision.validate with
  | .error error => .error (.newInvalidInput "invalid_approval" error.display)
  | .ok () =>
      if decision.round ≠ request.round ∨ decision.callId ≠ request.callId ∨
          decision.toolName ≠ request.toolName then
        .error (.newInvalidInput "approval_mismatch"
          "approval does not match the pending tool call")
      else
        match decision.state with
        | .approved ticket =>
            if isBlank ticket then
              .error (.newInvalidInput "invalid_approval"
                "approved tool calls require a non-empty ticket")
            else .ok ()
        | .denied _ => .ok ()

/-- The record that ends a turn with an error. -/
def terminalEvent (turnId : String) (error : AgentError) : SessionEvent :=
  match error.cancellationReason with
  | some reason => .turnCancelled turnId reason
  | none => .turnFailed turnId error.code error.message error.retryable

/-- Close a tracker with the error that ended its turn. -/
def TurnTracker.closeWith (error : AgentError) : TurnTracker :=
  match error.cancellationReason with
  | some reason => tracker.cancel reason
  | none => tracker.fail error

/-- The name of a turn in the log. -/
def turnName (number : Nat) : String := "turn-" ++ toString number

namespace Agent

/-- `Agent::new`. -/
def new (id : String) (components : σ) (config : AgentConfig) :
    Except AgentError (Agent σ) := do
  validateIdentifier "agent id" id
  let session ← (SessionLog.withLimits config.sessionLimits).mapError .session
  return {
    id, components, config, session
    state := .ready
    turnsStarted := 0
    nextTurnId := 1
    lastTurn := none
    pendingTurn := none }

/-- The agent `new` gives for the default configuration. -/
def fresh (components : σ) : Agent σ where
  id := "agent"
  components := components
  config := .default
  session := ⟨.default, [], [], 0, 1⟩
  state := .ready
  turnsStarted := 0
  nextTurnId := 1
  lastTurn := none
  pendingTurn := none

theorem new_default (components : σ) :
    new "agent" components .default = .ok (fresh components) := rfl

/-- A new agent is ready, with an empty log and no turn behind it. -/
theorem new_eq_ok {id : String} {components : σ} {config : AgentConfig} {agent : Agent σ}
    (created : new id components config = .ok agent) :
    agent = {
      id, components, config
      session := ⟨config.sessionLimits, [], [], 0, 1⟩
      state := .ready
      turnsStarted := 0
      nextTurnId := 1
      lastTurn := none
      pendingTurn := none } := by
  unfold new SessionLog.withLimits at created
  cases valid : validateIdentifier "agent id" id with
  | error error =>
      rw [valid] at created
      cases created
  | ok passed =>
      cases limits : config.sessionLimits.validate with
      | error error =>
          rw [valid, limits] at created
          cases created
      | ok passed =>
          rw [valid, limits] at created
          cases created
          rfl

def conversation (agent : Agent σ) : List ChatMessage := agent.session.conversation

/-- `cancellation.check()?` in a public operation. -/
def checkToken (cancellation : SharedToken σ) : AgentProgram σ Unit :=
  ofFunction fun agent =>
    let (token, components) := cancellation agent.components
    (token.check.mapError .cancelled, { agent with components })

/-- Run a turn program on the agent's session and components. -/
def runLive {α : Type} (program : TurnProgram σ α) :
    AgentProgram σ (Except AgentError α × TurnTracker) :=
  ofFunction fun agent =>
    let (outcome, live) := program.exec ⟨agent.session, tracker, agent.components⟩
    (.ok (outcome, live.tracker),
      { agent with session := live.session, components := live.components })

/-- The common start of `run_turn` and `run_turn_with_approval`. -/
def startTurn (operation : String) (userMessage : ChatMessage)
    (cancellation : SharedToken σ) : AgentProgram σ String := do
  let agent ← get
  throwIf (agent.state ≠ .ready) (.invalidState operation agent.state)
  throwIf (userMessage.role ≠ .user)
    (.newInvalidInput "invalid_user_message" "agent turns must start with a user message")
  checkToken cancellation
  let agent ← get
  match checkedAdd agent.nextTurnId 1 with
  | none => throw (.newProtocol "turn_id_exhausted" "turn id sequence exhausted")
  | some nextTurnId => do
      modify fun agent =>
        { agent with
          nextTurnId
          state := .running
          turnsStarted := saturatingAdd maxWord agent.turnsStarted 1 }
      return turnName agent.nextTurnId

/-- Log the end of a failed or cancelled turn, ignoring a refused record. -/
def closeTurn (error : AgentError) : AgentProgram σ Unit :=
  modify fun agent =>
    { agent with
      session := agent.session.appendIgnored (terminalEvent tracker.snapshot.id error)
      lastTurn := some (tracker.closeWith error).snapshot }

/-- The end of `run_turn`. -/
def finishDirectTurn (outcome : Except AgentError InnerTurnOutcome)
    (tracker : TurnTracker) : AgentProgram σ TurnResult := do
  modify fun agent => { agent with state := .ready }
  match outcome with
  | .ok (.completed response) => do
      modify fun agent => { agent with lastTurn := some tracker.intoSnapshot }
      return ⟨response, tracker.intoSnapshot⟩
  | .ok (.awaitingApproval _) =>
      throw (.newProtocol "unexpected_approval_request"
        "legacy turn execution returned an approval request")
  | .error error => do
      closeTurn tracker error
      throw error

/-- `Agent::finish_turn_outcome`. -/
def finishTurnOutcome (outcome : Except AgentError InnerTurnOutcome)
    (tracker : TurnTracker) (userMessage : ChatMessage) :
    AgentProgram σ AgentTurnOutcome := do
  match outcome with
  | .ok (.completed response) => do
      modify fun agent =>
        { agent with state := .ready, lastTurn := some tracker.intoSnapshot }
      return .completed ⟨response, tracker.intoSnapshot⟩
  | .ok (.awaitingApproval pending) => do
      let tracker := TurnTracker.sync { tracker with state := .awaitingApproval }
      modify fun agent =>
        { agent with
          state := .awaitingApproval
          lastTurn := some tracker.snapshot
          pendingTurn := some
            ⟨tracker, userMessage, pending.request, pending.batch, pending.nextCall⟩ }
      return .awaitingApproval pending.request
  | .error error => do
      modify fun agent => { agent with state := .ready, pendingTurn := none }
      closeTurn tracker error
      throw error

section Operations

variable (components : Components σ)

/-- `Agent::run_turn`. -/
def runTurn (userMessage : ChatMessage) (cancellation : SharedToken σ) :
    AgentProgram σ TurnResult := do
  let turnId ← startTurn "start a turn" userMessage cancellation
  let agent ← get
  let (outcome, tracker) ← runLive (TurnTracker.new turnId)
    (runTurnInner components agent.config.budget turnId userMessage cancellation 1 true
      .legacy none)
  finishDirectTurn outcome tracker

/-- `Agent::run_turn_with_approval`. -/
def runTurnWithApproval (userMessage : ChatMessage) (cancellation : SharedToken σ) :
    AgentProgram σ AgentTurnOutcome := do
  let turnId ← startTurn "start an approval-aware turn" userMessage cancellation
  let agent ← get
  let (outcome, tracker) ← runLive (TurnTracker.new turnId)
    (runTurnInner components agent.config.budget turnId userMessage cancellation 1 true
      .approvalAware none)
  finishTurnOutcome outcome tracker userMessage

/-- `Agent::approve_pending_tool`. -/
def approvePendingTool (decision : ToolApprovalDecision) (cancellation : SharedToken σ) :
    AgentProgram σ AgentTurnOutcome := do
  let agent ← get
  match agent.pendingTurn with
  | none => throw (.invalidState "approve a pending tool" agent.state)
  | some pending => do
      throwIf (agent.state ≠ .awaitingApproval)
        (.invalidState "approve a pending tool" agent.state)
      Fallible.ofExcept (validatePendingDecision pending.request decision)
      checkToken cancellation
      modify fun agent => { agent with pendingTurn := none, state := .running }
      let (outcome, tracker) ← runLive pending.tracker
        (continuePendingTurn components agent.config.budget pending.tracker.snapshot.id
          pending.userMessage pending.batch pending.nextCall decision cancellation)
      finishTurnOutcome outcome tracker pending.userMessage

/-- `Agent::cancel_pending_turn`. -/
def cancelPendingTurn (reason : String) : AgentProgram σ Unit := do
  let agent ← get
  throwIf (agent.state ≠ .awaitingApproval)
    (.invalidState "cancel a pending tool" agent.state)
  match agent.pendingTurn with
  | none => throw (.invalidState "cancel a pending tool" agent.state)
  | some pending => do
      modify fun agent => { agent with pendingTurn := none }
      -- The turn is already taken when the append is refused: `?` returns here.
      match agent.session.append (.turnCancelled pending.tracker.snapshot.id reason) with
      | .error error => throw (.session error)
      | .ok (_, session) =>
          modify fun agent =>
            { agent with
              session
              lastTurn := some (pending.tracker.cancel reason).snapshot
              state := .ready }

/-- `Agent::reset_conversation`. -/
def resetConversation (messages : List ChatMessage) : AgentProgram σ Unit := do
  let agent ← get
  throwIf (agent.state ≠ .ready)
    (.invalidState "reset the conversation" agent.state)
  match agent.session.resetWithMessages messages with
  | .error error => throw (.session error)
  | .ok session => modify fun agent => { agent with session, lastTurn := none }

end Operations

end Agent

/-- The public operations that change an agent. -/
inductive AgentOp (σ : Type)
  | runTurn (userMessage : ChatMessage) (cancellation : SharedToken σ)
  | runTurnWithApproval (userMessage : ChatMessage) (cancellation : SharedToken σ)
  | approvePendingTool (decision : ToolApprovalDecision) (cancellation : SharedToken σ)
  | cancelPendingTurn (reason : String)
  | resetConversation (messages : List ChatMessage)

/-- The agent after an operation has returned, whatever it returned. -/
def Agent.perform (components : Components σ) (agent : Agent σ) : AgentOp σ → Agent σ
  | .runTurn userMessage cancellation =>
      ((Agent.runTurn components userMessage cancellation).exec agent).2
  | .runTurnWithApproval userMessage cancellation =>
      ((Agent.runTurnWithApproval components userMessage cancellation).exec agent).2
  | .approvePendingTool decision cancellation =>
      ((Agent.approvePendingTool components decision cancellation).exec agent).2
  | .cancelPendingTurn reason => ((Agent.cancelPendingTurn reason).exec agent).2
  | .resetConversation messages => ((Agent.resetConversation messages).exec agent).2

end AgentSpine
end YunXi
