import YunXi.AgentSpine.Step

/-!
# What one operation of an agent can do

One inversion theorem lists everything a public operation can do to an agent.
The invariants of the later modules are derived from it.
-/

namespace YunXi
namespace AgentSpine

open Fallible
open Protocol

variable {σ : Type}

/-- The token an operation is given. -/
def AgentOp.token : AgentOp σ → Option (SharedToken σ)
  | .runTurn _ cancellation | .runTurnWithApproval _ cancellation
  | .approvePendingTool _ cancellation => some cancellation
  | .cancelPendingTurn _ | .resetConversation _ => none

namespace Agent

variable (agent : Agent σ)

/-- The components as they are after at most one read of the operation's token. -/
def Consulted (op : AgentOp σ) (state : σ) : Prop :=
  state = agent.components ∨
    ∃ token, op.token = some token ∧ state = (token agent.components).2

/-- The agent once a turn has been admitted. -/
def started (components : σ) : Agent σ :=
  { agent with
    components
    nextTurnId := agent.nextTurnId + 1
    state := .running
    turnsStarted := saturatingAdd maxWord agent.turnsStarted 1 }

/-- The parts of the agent a new turn runs on. -/
def newLive (components : σ) : Live σ :=
  ⟨agent.session, .new (turnName agent.nextTurnId), components⟩

/-- The agent with a suspended turn taken and running again. -/
def resumed (components : σ) : Agent σ :=
  { agent with components, pendingTurn := none, state := .running }

/-- A suspended turn as it is kept by the agent. -/
def suspension (tracker : TurnTracker) (userMessage : ChatMessage)
    (pending : PendingTool) : PendingTurn :=
  ⟨TurnTracker.sync { tracker with state := .awaitingApproval }, userMessage,
    pending.request, pending.batch, pending.nextCall⟩

/-- The agent after `finish_turn_outcome`. -/
def afterTurn (userMessage : ChatMessage)
    (outcome : Except AgentError InnerTurnOutcome) (live : Live σ) : Agent σ :=
  match outcome with
  | .ok (.completed _) =>
      { agent with
        session := live.session
        components := live.components
        state := .ready
        lastTurn := some live.tracker.intoSnapshot }
  | .ok (.awaitingApproval pending) =>
      { agent with
        session := live.session
        components := live.components
        state := .awaitingApproval
        lastTurn := some (suspension live.tracker userMessage pending).tracker.snapshot
        pendingTurn := some (suspension live.tracker userMessage pending) }
  | .error error =>
      { agent with
        session := live.session.appendIgnored
          (terminalEvent live.tracker.snapshot.id error)
        components := live.components
        state := .ready
        lastTurn := some (live.tracker.closeWith error).snapshot
        pendingTurn := none }

/-- The agent after the end of `run_turn`, which leaves `pending_turn` alone. -/
def afterDirectTurn (outcome : Except AgentError InnerTurnOutcome)
    (live : Live σ) : Agent σ :=
  match outcome with
  | .ok (.completed _) =>
      { agent with
        session := live.session
        components := live.components
        state := .ready
        lastTurn := some live.tracker.intoSnapshot }
  | .ok (.awaitingApproval _) =>
      { agent with session := live.session, components := live.components, state := .ready }
  | .error error =>
      { agent with
        session := live.session.appendIgnored
          (terminalEvent live.tracker.snapshot.id error)
        components := live.components
        state := .ready
        lastTurn := some (live.tracker.closeWith error).snapshot }

/-- The end of a direct turn, executed. -/
theorem exec_finishDirectTurn (live : Live σ)
    (outcome : Except AgentError InnerTurnOutcome) :
    ((finishDirectTurn outcome live.tracker).exec
      { agent with session := live.session, components := live.components }).2 =
        agent.afterDirectTurn outcome live := by
  match outcome with
  | .ok (.completed _) => rfl
  | .ok (.awaitingApproval _) => rfl
  | .error _ => rfl

/-- `finish_turn_outcome`, executed. -/
theorem exec_finishTurnOutcome (live : Live σ)
    (userMessage : ChatMessage) (outcome : Except AgentError InnerTurnOutcome) :
    ((finishTurnOutcome outcome live.tracker userMessage).exec
      { agent with session := live.session, components := live.components }).2 =
        agent.afterTurn userMessage outcome live := by
  match outcome with
  | .ok (.completed _) => rfl
  | .ok (.awaitingApproval _) => rfl
  | .error _ => rfl

variable {cancellation : SharedToken σ}

/-- An admitted turn starts from a ready agent; otherwise only the components
change. -/
theorem wp_startTurn {operation : String} {userMessage : ChatMessage}
    {agent : Agent σ}
    {post : Except AgentError String → Agent σ → Prop}
    (onOk : agent.state = .ready → userMessage.role = .user →
      agent.nextTurnId + 1 ≤ maxWord →
      post (.ok (turnName agent.nextTurnId))
        (agent.started (cancellation agent.components).2))
    (onError : ∀ error components,
      components = agent.components ∨ components = (cancellation agent.components).2 →
      post (.error error) { agent with components }) :
    (startTurn operation userMessage cancellation).wp post agent := by
  unfold startTurn
  simp only [wp_bind, wp_get, andThen_ok, wp_throwIf,
    andThen_error]
  refine ⟨fun _ => onError _ agent.components (.inl rfl), fun ready => ?_⟩
  refine ⟨fun _ => onError _ agent.components (.inl rfl), fun fromUser => ?_⟩
  have isReady : agent.state = .ready := by simpa using ready
  have isUser : userMessage.role = .user := by simpa using fromUser
  unfold checkToken
  rw [wp_ofFunction]
  cases checked : (cancellation agent.components).1.check with
  | error error =>
      simp only [checked, Except.mapError, andThen_error]
      exact onError _ _ (.inr rfl)
  | ok passed =>
      simp only [checked, Except.mapError, andThen_ok, wp_bind,
        wp_get]
      by_cases inRange : agent.nextTurnId + 1 ≤ maxWord
      · simp only [checkedAdd, inRange, if_true, wp_bind, wp_modify,
          andThen_ok, wp_pure]
        exact onOk isReady isUser inRange
      · simp only [checkedAdd, inRange, if_false, wp_throw]
        exact onError _ _ (.inr rfl)

section Inversion

variable (components : Components σ)

variable (agent : Agent σ)

variable (userMessage : ChatMessage)

/-- The turn program of `run_turn`. -/
def directProgram (cancellation : SharedToken σ) : TurnProgram σ InnerTurnOutcome :=
  runTurnInner components agent.config.budget (turnName agent.nextTurnId) userMessage
    cancellation 1 true .legacy none

/-- The turn program of `run_turn_with_approval`. -/
def approvalProgram (cancellation : SharedToken σ) : TurnProgram σ InnerTurnOutcome :=
  runTurnInner components agent.config.budget (turnName agent.nextTurnId) userMessage
    cancellation 1 true .approvalAware none

/-- The turn program of `approve_pending_tool`. -/
def resumeProgram (pending : PendingTurn)
    (decision : ToolApprovalDecision) (cancellation : SharedToken σ) :
    TurnProgram σ InnerTurnOutcome :=
  continuePendingTurn components agent.config.budget pending.tracker.snapshot.id
    pending.userMessage pending.batch pending.nextCall decision cancellation

/-- The components after the checks that admit an approval, if they pass. -/
def admitApproval (pending : PendingTurn)
    (decision : ToolApprovalDecision) (cancellation : SharedToken σ) : Option σ :=
  match agent.state, validatePendingDecision pending.request decision,
    (cancellation agent.components).1.check with
  | .awaitingApproval, .ok (), .ok () => some (cancellation agent.components).2
  | _, _, _ => none

/-- The turn program an operation runs once it is admitted, with its start. -/
def turnOf : AgentOp σ → Option (TurnProgram σ InnerTurnOutcome × Live σ)
  | .runTurn userMessage cancellation =>
      match (startTurn "start a turn" userMessage cancellation).exec agent with
      | (.ok _, started) =>
          some (agent.directProgram components userMessage cancellation,
            agent.newLive started.components)
      | (.error _, _) => none
  | .runTurnWithApproval userMessage cancellation =>
      match (startTurn "start an approval-aware turn" userMessage cancellation).exec
          agent with
      | (.ok _, started) =>
          some (agent.approvalProgram components userMessage cancellation,
            agent.newLive started.components)
      | (.error _, _) => none
  | .approvePendingTool decision cancellation => do
      let pending ← agent.pendingTurn
      let state ← agent.admitApproval pending decision cancellation
      return (agent.resumeProgram components pending decision cancellation,
        ⟨agent.session, pending.tracker, state⟩)
  | .cancelPendingTurn _ | .resetConversation _ => none

/-- The result of the turn program an operation runs. -/
def turnResult (op : AgentOp σ) :
    Option (Except AgentError InnerTurnOutcome × Live σ) :=
  (agent.turnOf components op).map fun turn => turn.1.exec turn.2

/-- Everything a public operation can do to an agent. -/
inductive OpStep (agent : Agent σ) : AgentOp σ → Agent σ → Prop
  | refused {op : AgentOp σ} (state : σ)
      (consulted : agent.Consulted op state)
      (noTurn : agent.turnOf components op = none)
      (noCancel : ∀ reason, op = .cancelPendingTurn reason →
        agent.state = .awaitingApproval → agent.pendingTurn = none) :
      OpStep agent op { agent with components := state }
  | direct {userMessage : ChatMessage} {cancellation : SharedToken σ} (state : σ)
      (consulted : agent.Consulted (.runTurn userMessage cancellation) state)
      {outcome : Except AgentError InnerTurnOutcome} {live : Live σ}
      (ready : agent.state = .ready)
      (fromUser : userMessage.role = .user)
      (inRange : agent.nextTurnId + 1 ≤ maxWord)
      (turn : agent.turnOf components (.runTurn userMessage cancellation) =
        some (agent.directProgram components userMessage cancellation,
          agent.newLive state))
      (ran : (agent.directProgram components userMessage cancellation).exec
        (agent.newLive state) = (outcome, live)) :
      OpStep agent (.runTurn userMessage cancellation)
        ((agent.started state).afterDirectTurn outcome live)
  | approvalAware {userMessage : ChatMessage} {cancellation : SharedToken σ} (state : σ)
      (consulted : agent.Consulted (.runTurnWithApproval userMessage cancellation) state)
      {outcome : Except AgentError InnerTurnOutcome} {live : Live σ}
      (ready : agent.state = .ready)
      (fromUser : userMessage.role = .user)
      (inRange : agent.nextTurnId + 1 ≤ maxWord)
      (turn : agent.turnOf components (.runTurnWithApproval userMessage cancellation) =
        some (agent.approvalProgram components userMessage cancellation,
          agent.newLive state))
      (ran : (agent.approvalProgram components userMessage cancellation).exec
        (agent.newLive state) = (outcome, live)) :
      OpStep agent (.runTurnWithApproval userMessage cancellation)
        ((agent.started state).afterTurn userMessage outcome live)
  | resumed {decision : ToolApprovalDecision} {cancellation : SharedToken σ} (state : σ)
      (consulted : agent.Consulted (.approvePendingTool decision cancellation) state)
      {pending : PendingTurn}
      {outcome : Except AgentError InnerTurnOutcome} {live : Live σ}
      (awaiting : agent.state = .awaitingApproval)
      (suspended : agent.pendingTurn = some pending)
      (matching : validatePendingDecision pending.request decision = .ok ())
      (turn : agent.turnOf components (.approvePendingTool decision cancellation) =
        some (agent.resumeProgram components pending decision cancellation,
          ⟨agent.session, pending.tracker, state⟩))
      (ran : (agent.resumeProgram components pending decision cancellation).exec
        ⟨agent.session, pending.tracker, state⟩ = (outcome, live)) :
      OpStep agent (.approvePendingTool decision cancellation)
        ((agent.resumed state).afterTurn pending.userMessage outcome live)
  | cancelled {reason : String} {pending : PendingTurn}
      (awaiting : agent.state = .awaitingApproval)
      (suspended : agent.pendingTurn = some pending)
      (accepts : agent.session.Accepts
        (.turnCancelled pending.tracker.snapshot.id reason)) :
      OpStep agent (.cancelPendingTurn reason)
        { agent with
          session := agent.session.extend
            (.turnCancelled pending.tracker.snapshot.id reason)
          lastTurn := some (pending.tracker.cancel reason).snapshot
          state := .ready
          pendingTurn := none }
  | cancelRefused {reason : String} {pending : PendingTurn}
      (awaiting : agent.state = .awaitingApproval)
      (suspended : agent.pendingTurn = some pending)
      (refuses : ¬ agent.session.Accepts
        (.turnCancelled pending.tracker.snapshot.id reason)) :
      OpStep agent (.cancelPendingTurn reason) { agent with pendingTurn := none }
  | reset {messages : List ChatMessage} {session : SessionLog}
      (ready : agent.state = .ready)
      (replaced : agent.session.resetWithMessages messages = .ok session) :
      OpStep agent (.resetConversation messages) { agent with session, lastTurn := none }

/-- The start of a turn either admits it or changes only the components. -/
theorem startTurn_cases (operation : String)
    (userMessage : ChatMessage) (cancellation : SharedToken σ) :
    (agent.state = .ready ∧ userMessage.role = .user ∧
      agent.nextTurnId + 1 ≤ maxWord ∧
      (startTurn operation userMessage cancellation).exec agent =
        (.ok (turnName agent.nextTurnId),
          agent.started (cancellation agent.components).2)) ∨
    ∃ error state,
      (state = agent.components ∨ state = (cancellation agent.components).2) ∧
      (startTurn operation userMessage cancellation).exec agent =
        (.error error, { agent with components := state }) := by
  have cases : (startTurn operation userMessage cancellation).wp
      (fun result final =>
        (agent.state = .ready ∧ userMessage.role = .user ∧
          agent.nextTurnId + 1 ≤ maxWord ∧
          (result, final) = (.ok (turnName agent.nextTurnId),
            agent.started (cancellation agent.components).2)) ∨
        ∃ error state,
          (state = agent.components ∨ state = (cancellation agent.components).2) ∧
          (result, final) = (.error error, { agent with components := state })) agent := by
    refine wp_startTurn ?_ ?_
    · exact fun ready fromUser inRange => .inl ⟨ready, fromUser, inRange, rfl⟩
    · exact fun error state consulted => .inr ⟨error, state, consulted, rfl⟩
  exact cases

theorem perform_runTurn (cancellation : SharedToken σ) :
    OpStep components agent (.runTurn userMessage cancellation)
      (agent.perform components (.runTurn userMessage cancellation)) := by
  have consults : ∀ state,
      (state = agent.components ∨ state = (cancellation agent.components).2) →
      agent.Consulted (.runTurn userMessage cancellation) state :=
    fun state consulted => consulted.imp_right fun read => ⟨cancellation, rfl, read⟩
  obtain ⟨ready, fromUser, inRange, admitted⟩ | ⟨error, state, consulted, refused⟩ :=
    startTurn_cases agent "start a turn" userMessage cancellation
  · have turn : agent.turnOf components (.runTurn userMessage cancellation) =
        some (agent.directProgram components userMessage cancellation,
          agent.newLive (cancellation agent.components).2) := by
      simp only [turnOf, admitted]
      rfl
    have final : agent.perform components (.runTurn userMessage cancellation) =
        (agent.started (cancellation agent.components).2).afterDirectTurn
          ((agent.directProgram components userMessage cancellation).exec
            (agent.newLive (cancellation agent.components).2)).1
          ((agent.directProgram components userMessage cancellation).exec
            (agent.newLive (cancellation agent.components).2)).2 := by
      unfold perform runTurn
      simp only [exec_bind, admitted, exec_get]
      exact exec_finishDirectTurn _ _ _
    rw [final]
    exact .direct _ (consults _ (.inr rfl)) ready fromUser inRange turn rfl
  · have unchanged : agent.perform components (.runTurn userMessage cancellation) =
        { agent with components := state } := by
      unfold perform runTurn
      simp only [exec_bind, refused]
    rw [unchanged]
    refine .refused state (consults state consulted) ?_ (by simp)
    simp only [turnOf, refused]

/-- An admitted turn runs to its end on the approval-aware path. -/
theorem runTurnWithApproval_admitted {agent : Agent σ} {userMessage : ChatMessage}
    {state : σ}
    (admitted : (startTurn "start an approval-aware turn" userMessage cancellation).exec
      agent = (.ok (turnName agent.nextTurnId), agent.started state)) :
    (runTurnWithApproval components userMessage cancellation).exec agent =
      (finishTurnOutcome
        ((agent.approvalProgram components userMessage cancellation).exec
          (agent.newLive state)).1
        ((agent.approvalProgram components userMessage cancellation).exec
          (agent.newLive state)).2.tracker userMessage).exec
        { agent.started state with
          session := ((agent.approvalProgram components userMessage cancellation).exec
            (agent.newLive state)).2.session
          components := ((agent.approvalProgram components userMessage
            cancellation).exec (agent.newLive state)).2.components } := by
  unfold runTurnWithApproval
  simp only [exec_bind, admitted, exec_get]
  rfl

theorem perform_runTurnWithApproval (cancellation : SharedToken σ) :
    OpStep components agent (.runTurnWithApproval userMessage cancellation)
      (agent.perform components (.runTurnWithApproval userMessage cancellation)) := by
  have consults : ∀ state,
      (state = agent.components ∨ state = (cancellation agent.components).2) →
      agent.Consulted (.runTurnWithApproval userMessage cancellation) state :=
    fun state consulted => consulted.imp_right fun read => ⟨cancellation, rfl, read⟩
  obtain ⟨ready, fromUser, inRange, admitted⟩ | ⟨error, state, consulted, refused⟩ :=
    startTurn_cases agent "start an approval-aware turn" userMessage cancellation
  · have turn : agent.turnOf components (.runTurnWithApproval userMessage cancellation) =
        some (agent.approvalProgram components userMessage cancellation,
          agent.newLive (cancellation agent.components).2) := by
      simp only [turnOf, admitted]
      rfl
    have final : agent.perform components (.runTurnWithApproval userMessage cancellation) =
        (agent.started (cancellation agent.components).2).afterTurn userMessage
          ((agent.approvalProgram components userMessage cancellation).exec
            (agent.newLive (cancellation agent.components).2)).1
          ((agent.approvalProgram components userMessage cancellation).exec
            (agent.newLive (cancellation agent.components).2)).2 := by
      simp only [perform, runTurnWithApproval_admitted components admitted]
      exact exec_finishTurnOutcome _ _ _ _
    rw [final]
    exact .approvalAware _ (consults _ (.inr rfl)) ready fromUser inRange turn rfl
  · have unchanged : agent.perform components (.runTurnWithApproval userMessage cancellation) =
        { agent with components := state } := by
      unfold perform runTurnWithApproval
      simp only [exec_bind, refused]
    rw [unchanged]
    refine .refused state (consults state consulted) ?_ (by simp)
    simp only [turnOf, refused]

theorem checkToken_cases (cancellation : SharedToken σ) :
    ((cancellation agent.components).1.check = .ok () ∧
      (checkToken cancellation).exec agent =
        (.ok (), { agent with components := (cancellation agent.components).2 })) ∨
    ∃ error, (cancellation agent.components).1.check = .error error ∧
      (checkToken cancellation).exec agent =
        (.error (.cancelled error),
          { agent with components := (cancellation agent.components).2 }) := by
  unfold checkToken
  rw [exec_ofFunction]
  cases checked : (cancellation agent.components).1.check with
  | ok passed =>
      refine .inl ⟨rfl, ?_⟩
      simp [checked, Except.mapError]
  | error error =>
      refine .inr ⟨error, rfl, ?_⟩
      simp [checked, Except.mapError]

theorem admitApproval_eq_some {agent : Agent σ} {pending : PendingTurn}
    {decision : ToolApprovalDecision} {state : σ} :
    agent.admitApproval pending decision cancellation = some state ↔
      agent.state = .awaitingApproval ∧
      validatePendingDecision pending.request decision = .ok () ∧
      (cancellation agent.components).1.check = .ok () ∧
      state = (cancellation agent.components).2 := by
  unfold admitApproval
  constructor
  · intro admitted
    split at admitted
    · injection admitted with same
      exact ⟨by assumption, by assumption, by assumption, same.symm⟩
    · cases admitted
  · rintro ⟨awaiting, matching, live, rfl⟩
    rw [awaiting, matching, live]

/-- A decision that is not admitted changes only the components. -/
theorem approve_refused (decision : ToolApprovalDecision)
    (cancellation : SharedToken σ)
    (notAdmitted : ∀ pending, agent.pendingTurn = some pending →
      agent.admitApproval pending decision cancellation = none) :
    ∃ error state, agent.Consulted (.approvePendingTool decision cancellation) state ∧
      (approvePendingTool components decision cancellation).exec agent =
        (.error error, { agent with components := state }) := by
  rcases agent with ⟨id, outside, config, session, state, turnsStarted, nextTurnId,
    lastTurn, pendingTurn⟩
  unfold approvePendingTool
  cases pendingTurn with
  | none => exact ⟨.invalidState "approve a pending tool" state, outside, .inl rfl, rfl⟩
  | some pending =>
      by_cases awaiting : state = .awaitingApproval
      · cases matching : validatePendingDecision pending.request decision with
        | error error =>
            refine ⟨error, outside, .inl rfl, ?_⟩
            simp [exec_bind, throwIf, awaiting, matching]
        | ok passed =>
            obtain ⟨live, -⟩ | ⟨error, -, checked⟩ := checkToken_cases
              ⟨id, outside, config, session, state, turnsStarted, nextTurnId, lastTurn,
                some pending⟩ cancellation
            · have admitted := admitApproval_eq_some.mpr ⟨awaiting, matching, live, rfl⟩
              rw [notAdmitted pending rfl] at admitted
              cases admitted
            · refine ⟨.cancelled error, (cancellation outside).2,
                .inr ⟨cancellation, rfl, rfl⟩, ?_⟩
              subst awaiting
              simp [exec_bind, throwIf, matching, checked]
      · refine ⟨.invalidState "approve a pending tool" state, outside, .inl rfl, ?_⟩
        simp [exec_bind, throwIf, awaiting]

/-- An admitted decision resumes the suspended turn. -/
theorem approve_admitted (pending : PendingTurn)
    (decision : ToolApprovalDecision) (cancellation : SharedToken σ) (state : σ)
    (suspended : agent.pendingTurn = some pending)
    (admitted : agent.admitApproval pending decision cancellation = some state) :
    (approvePendingTool components decision cancellation).exec agent =
      (finishTurnOutcome
        ((agent.resumeProgram components pending decision cancellation).exec
          ⟨agent.session, pending.tracker, state⟩).1
        ((agent.resumeProgram components pending decision cancellation).exec
          ⟨agent.session, pending.tracker, state⟩).2.tracker pending.userMessage).exec
        { agent.resumed state with
          session := ((agent.resumeProgram components pending decision cancellation).exec
            ⟨agent.session, pending.tracker, state⟩).2.session
          components := ((agent.resumeProgram components pending decision
            cancellation).exec ⟨agent.session, pending.tracker, state⟩).2.components } := by
  obtain ⟨awaiting, matching, live, rfl⟩ := admitApproval_eq_some.mp admitted
  obtain ⟨-, checked⟩ | ⟨error, stopped, -⟩ := checkToken_cases agent cancellation
  · unfold approvePendingTool
    simp only [exec_bind, exec_get, suspended, awaiting,
      throwIf, ne_eq, not_true_eq_false, if_false, exec_ofExcept,
      matching, checked, exec_modify]
    rfl
  · rw [live] at stopped
    cases stopped

theorem perform_approvePendingTool (decision : ToolApprovalDecision)
    (cancellation : SharedToken σ) :
    OpStep components agent (.approvePendingTool decision cancellation)
      (agent.perform components (.approvePendingTool decision cancellation)) := by
  by_cases admitted : ∃ pending state, agent.pendingTurn = some pending ∧
      agent.admitApproval pending decision cancellation = some state
  · obtain ⟨pending, state, suspended, admitted⟩ := admitted
    obtain ⟨awaiting, matching, -, consulted⟩ := admitApproval_eq_some.mp admitted
    have turn : agent.turnOf components (.approvePendingTool decision cancellation) =
        some (agent.resumeProgram components pending decision cancellation,
          ⟨agent.session, pending.tracker, state⟩) := by
      simp only [turnOf, suspended, admitted, Option.bind_eq_bind, Option.bind_some]
      rfl
    have final : agent.perform components (.approvePendingTool decision cancellation) =
        (agent.resumed state).afterTurn pending.userMessage
          ((agent.resumeProgram components pending decision cancellation).exec
            ⟨agent.session, pending.tracker, state⟩).1
          ((agent.resumeProgram components pending decision cancellation).exec
            ⟨agent.session, pending.tracker, state⟩).2 := by
      unfold perform
      dsimp only
      rw [approve_admitted components agent pending decision cancellation state suspended
        admitted]
      exact exec_finishTurnOutcome _ _ _ _
    rw [final]
    exact .resumed state (.inr ⟨cancellation, rfl, consulted⟩) awaiting suspended matching
      turn rfl
  · have notAdmitted : ∀ pending, agent.pendingTurn = some pending →
        agent.admitApproval pending decision cancellation = none := by
      intro pending suspended
      by_contra some
      obtain ⟨state, admits⟩ := Option.ne_none_iff_exists'.mp some
      exact admitted ⟨pending, state, suspended, admits⟩
    obtain ⟨error, state, consulted, refused⟩ := approve_refused components agent decision
      cancellation notAdmitted
    have unchanged : agent.perform components (.approvePendingTool decision cancellation) =
        { agent with components := state } := congrArg Prod.snd refused
    rw [unchanged]
    refine .refused state consulted ?_ (by simp)
    cases suspended : agent.pendingTurn with
    | none => simp [turnOf, suspended]
    | some pending => simp [turnOf, suspended, notAdmitted pending suspended]

theorem perform_cancelPendingTurn (reason : String) :
    OpStep components agent (.cancelPendingTurn reason)
      (agent.perform components (.cancelPendingTurn reason)) := by
  by_cases awaiting : agent.state = .awaitingApproval
  · cases suspended : agent.pendingTurn with
    | none =>
        have unchanged : agent.perform components (.cancelPendingTurn reason) =
            { agent with components := agent.components } := by
          simp [perform, cancelPendingTurn, exec_bind, throwIf, awaiting,
            suspended]
        rw [unchanged]
        exact .refused agent.components (.inl rfl) rfl (fun _ _ _ => suspended)
    | some pending =>
        by_cases accepts : agent.session.Accepts
            (.turnCancelled pending.tracker.snapshot.id reason)
        · have final : agent.perform components (.cancelPendingTurn reason) =
              { agent with
                session := agent.session.extend
                  (.turnCancelled pending.tracker.snapshot.id reason)
                lastTurn := some (pending.tracker.cancel reason).snapshot
                state := .ready
                pendingTurn := none } := by
            simp [perform, cancelPendingTurn, exec_bind, throwIf,
              awaiting, suspended, SessionLog.append_of_accepts accepts]
          rw [final]
          exact .cancelled awaiting suspended accepts
        · obtain ⟨error, refused⟩ := SessionLog.append_eq_error_iff.mpr accepts
          have final : agent.perform components (.cancelPendingTurn reason) =
              { agent with pendingTurn := none } := by
            simp [perform, cancelPendingTurn, exec_bind, throwIf,
              awaiting, suspended, refused]
          rw [final]
          exact .cancelRefused awaiting suspended accepts
  · have unchanged : agent.perform components (.cancelPendingTurn reason) =
        { agent with components := agent.components } := by
      simp [perform, cancelPendingTurn, exec_bind, throwIf, awaiting]
    rw [unchanged]
    exact .refused agent.components (.inl rfl) rfl (fun _ _ still => absurd still awaiting)

theorem perform_resetConversation (messages : List ChatMessage) :
    OpStep components agent (.resetConversation messages)
      (agent.perform components (.resetConversation messages)) := by
  have unchanged : OpStep components agent (.resetConversation messages) agent :=
    .refused agent.components (.inl rfl) rfl (by simp)
  by_cases ready : agent.state = .ready
  · cases replaced : agent.session.resetWithMessages messages with
    | error error =>
        have final : agent.perform components (.resetConversation messages) = agent := by
          simp [perform, resetConversation, exec_bind, throwIf, ready,
            replaced]
        rw [final]
        exact unchanged
    | ok session =>
        have final : agent.perform components (.resetConversation messages) =
            { agent with session, lastTurn := none } := by
          simp [perform, resetConversation, exec_bind, throwIf, ready,
            replaced]
        rw [final]
        exact .reset ready replaced
  · have final : agent.perform components (.resetConversation messages) = agent := by
      simp [perform, resetConversation, exec_bind, throwIf, ready]
    rw [final]
    exact unchanged

/-- Every operation is one of the steps of `OpStep`. -/
theorem perform_step (op : AgentOp σ) :
    OpStep components agent op (agent.perform components op) := by
  cases op with
  | runTurn userMessage cancellation =>
      exact perform_runTurn components agent userMessage cancellation
  | runTurnWithApproval userMessage cancellation =>
      exact perform_runTurnWithApproval components agent userMessage cancellation
  | approvePendingTool decision cancellation =>
      exact perform_approvePendingTool components agent decision cancellation
  | cancelPendingTurn reason => exact perform_cancelPendingTurn components agent reason
  | resetConversation messages => exact perform_resetConversation components agent messages

end Inversion

end Agent

end AgentSpine
end YunXi
