import YunXi.Session.ChildTurns

/-!
# Closing a delegated turn

After a started turn the host makes one report, and the coordinator accepts every report
of a failure.  So the agent stops running on every way out but one: a completion that the
coordinator refuses is passed on to the model and reported to nobody.
-/

namespace YunXi
namespace Session

open Fallible
open MultiAgent
open Protocol (isBlank containsNul takeBytes)

variable {κ : Type}

/-- A coordinator whose started turns run until their end is accepted, and which accepts
every report of a failure that fits its records.  It may refuse a completion. -/
structure Coordinator.Contract (coordinator : Coordinator κ) where
  /-- The agent with this id is running. -/
  Running : κ → String → Prop
  /-- The state belongs to the session that the grant names. -/
  Serves : κ → AgentDelegationGrant → Prop
  started : ∀ {request state result after},
    (coordinator.startTurn request).exec state = (.ok result, after) →
    Running after request.agentId ∧ Serves after request.grant
  completed : ∀ {request state result after},
    (coordinator.completeTurn request).exec state = (.ok result, after) →
    ¬ Running after request.agentId
  refused : ∀ {request state error after},
    Serves state request.grant → Running state request.agentId →
    (coordinator.completeTurn request).exec state = (.error error, after) →
    callLostRoute error = false → Running after request.agentId
  failed : ∀ {request state},
    request.validate = .ok () →
    request.code.utf8ByteSize + 2 + request.message.utf8ByteSize ≤ maxAgentDetailBytes →
    Serves state request.grant → Running state request.agentId →
    ∃ result after, (coordinator.failTurn request).exec state = (.ok result, after) ∧
      ¬ Running after request.agentId

/-- The coordinator started the turn of a call: the grant and the agent it runs under, what
the start returned and the state it left. -/
inductive TurnStarted (coordinator : Coordinator κ) (broker : SpineToolBroker κ)
    (ticket : String) : DelegatingCall → AgentDelegationGrant → String →
      AgentTurnStartResult → κ → Prop
  | message {agentId message grant start result after} :
      broker.multiAgentCapability = true →
      broker.agentDelegationGrant ticket = .ok grant →
      AgentTurnStartRequest.new grant agentId message = .ok start →
      (coordinator.startTurn start).exec broker.host = (.ok result, after) →
      TurnStarted coordinator broker ticket (.agentMessage agentId message) grant agentId
        result after
  | spawn {task name parentId grant request spawned middle start result after} :
      broker.multiAgentCapability = true →
      broker.agentDelegationGrant ticket = .ok grant →
      SpineToolBroker.spawnRequest grant task name parentId = .ok request →
      (coordinator.spawn request).exec broker.host = (.ok spawned, middle) →
      AgentTurnStartRequest.new grant spawned.agent.id task = .ok start →
      (coordinator.startTurn start).exec middle = (.ok result, after) →
      TurnStarted coordinator broker ticket (.agentSpawn task name parentId) grant
        spawned.agent.id result after

/-- The child's reply is a valid one and the coordinator refuses it. -/
def CompletionRefused (coordinator : Coordinator κ) (childModel : ChildModel)
    (grant : AgentDelegationGrant) (agentId : String) (started : AgentTurnStartResult)
    (state : κ) : Prop :=
  ∃ reply request error after,
    runIsolatedChildModel childModel started.transcript = .ok reply ∧
    AgentTurnCompleteRequest.new grant agentId reply = .ok request ∧
    (coordinator.completeTurn request).exec state = (.error error, after)

/-- The codes of the failures a child turn reports. -/
def childFailureCodes : List String :=
  ["child_model_unavailable", "child_model_failed", "child_tools_not_allowed",
    "child_empty_response", "child_reply_invalid"]

theorem validate_childFailureCode : ∀ code ∈ childFailureCodes,
    validateToken "agent failure code" code 64 = .ok () ∧ code.utf8ByteSize ≤ 23 := by
  decide

theorem runIsolatedChildModel_failure {childModel : ChildModel}
    {transcript : List AgentTranscriptEntry} {error : ChildTurnError}
    (fails : runIsolatedChildModel childModel transcript = .error error) :
    ∃ code ∈ childFailureCodes, ∃ message, error = .new code message := by
  unfold runIsolatedChildModel at fails
  split at fails
  · cases fails
    exact ⟨_, by decide, _, rfl⟩
  · cases fails
    exact ⟨_, by decide, _, rfl⟩
  · split_ifs at fails
    · cases fails
      exact ⟨_, by decide, _, rfl⟩
    · cases fails
      exact ⟨_, by decide, _, rfl⟩

theorem containsNul_bounded (message : String) :
    containsNul (ChildTurnError.bounded message) = false := by
  unfold containsNul ChildTurnError.bounded
  rw [String.toList_ofList, List.any_eq_false]
  intro character member
  have replaced := Protocol.takeBytes_subset _ _ member
  unfold Strings.replaceCharacter at replaced
  rw [String.toList_ofList, List.mem_map] at replaced
  obtain ⟨original, -, rfl⟩ := replaced
  split
  · decide
  · rename_i different
    intro zero
    apply different
    apply Char.ext
    apply UInt32.toNat_inj.mp
    simpa using zero

/-- The message of a reported failure is one the contracts accept, and a short one. -/
theorem validate_childTurnError_message (code message : String) :
    validateText "agent failure message" (ChildTurnError.new code message).message
      maxAgentDetailBytes = .ok () ∧
    (ChildTurnError.new code message).message.utf8ByteSize ≤ 3000 := by
  have short : (ChildTurnError.bounded message).utf8ByteSize ≤ 3000 :=
    Protocol.utf8ByteSize_takeBytes_le _ _
  unfold ChildTurnError.new
  by_cases blank : isBlank (ChildTurnError.bounded message) = true
  · rw [if_pos blank]
    exact (by decide :
      validateText "agent failure message" "isolated child model turn failed"
        maxAgentDetailBytes = .ok () ∧
      ("isolated child model turn failed" : String).utf8ByteSize ≤ 3000)
  · rw [if_neg blank]
    refine ⟨?_, short⟩
    unfold validateText
    have fits : ¬ maxAgentDetailBytes < (ChildTurnError.bounded message).utf8ByteSize := by
      have : maxAgentDetailBytes = 4096 := rfl
      omega
    rw [if_neg blank, if_neg fits, containsNul_bounded]
    rfl

/-- The request that reports a failure can be built and fits the records. -/
def Reportable (grant : AgentDelegationGrant) (agentId : String) (failure : ChildTurnError) :
    Prop :=
  AgentTurnFailRequest.new grant agentId failure.code failure.message =
    .ok ⟨grant, agentId, failure.code, failure.message⟩ ∧
  failure.code.utf8ByteSize + 2 + failure.message.utf8ByteSize ≤ maxAgentDetailBytes

variable {agentId : String} {grant : AgentDelegationGrant}

/-- Every failure can be reported for an agent and a grant that a turn was started with. -/
theorem reportable_of_start {text : String}
    {start : AgentTurnStartRequest}
    (built : AgentTurnStartRequest.new grant agentId text = .ok start)
    {code : String} (known : code ∈ childFailureCodes) (message : String) :
    Reportable grant agentId (.new code message) := by
  obtain ⟨codeValid, codeSmall⟩ := validate_childFailureCode code known
  obtain ⟨messageValid, messageSmall⟩ := validate_childTurnError_message code message
  have sameCode : (ChildTurnError.new code message).code = code := rfl
  constructor
  · obtain ⟨valid, rfl⟩ := checked_eq_ok.mp built
    unfold AgentTurnStartRequest.validate at valid
    simp only [Except.bind_eq_ok] at valid
    obtain ⟨_, grantValid, _, idValid, -⟩ := valid
    refine checked_eq_ok.mpr ⟨?_, rfl⟩
    unfold AgentTurnFailRequest.validate
    simp only [Except.bind_eq_ok]
    exact ⟨(), grantValid, (), idValid, (), codeValid, messageValid⟩
  · rw [sameCode]
    have : maxAgentDetailBytes = 4096 := rfl
    omega

theorem pluginErrorOutcome_host (broker : SpineToolBroker κ) (toolName : String)
    (error : PluginCallError) :
    (broker.pluginErrorOutcome toolName error).2.host = broker.host := by
  cases error <;> rfl

theorem pluginErrorOutcome_capability (broker : SpineToolBroker κ) (toolName : String)
    (error : PluginCallError) :
    (broker.pluginErrorOutcome toolName error).2.multiAgentCapability =
      (broker.multiAgentCapability && !callLostRoute error) := by
  cases error with
  | rejected => exact (Bool.and_true _).symm
  | route | codec | unavailable | protocolViolation => rfl

section Closing

variable {coordinator : Coordinator κ} (contract : coordinator.Contract)
  {broker : SpineToolBroker κ} {grant : AgentDelegationGrant} {agentId : String}

include contract

/-- A reported failure ends the turn. -/
theorem reportChildAgentFailure_closes {failure : ChildTurnError}
    (reportable : Reportable grant agentId failure)
    (serves : contract.Serves broker.host grant)
    (running : contract.Running broker.host agentId) :
    ¬ contract.Running
      (broker.reportChildAgentFailure coordinator grant agentId failure).host agentId := by
  obtain ⟨request, small⟩ := reportable
  have valid := (checked_eq_ok.mp request).1
  obtain ⟨result, after, accepted, closed⟩ := contract.failed valid small serves running
  unfold SpineToolBroker.reportChildAgentFailure SpineToolBroker.invoke
  rw [request]
  dsimp only
  rw [accepted]
  exact closed

/-- A started turn ends unless the coordinator refuses its completion. -/
theorem finishChildAgentTurn_closes_iff {childModel : ChildModel} {text toolName : String}
    {start : AgentTurnStartRequest} {started : AgentTurnStartResult}
    (built : AgentTurnStartRequest.new grant agentId text = .ok start)
    (serves : contract.Serves broker.host grant)
    (running : contract.Running broker.host agentId)
    (kept : (broker.finishChildAgentTurn coordinator childModel grant agentId toolName
      started).2.multiAgentCapability = true) :
    ¬ contract.Running (broker.finishChildAgentTurn coordinator childModel grant agentId
      toolName started).2.host agentId ↔
      ¬ CompletionRefused coordinator childModel grant agentId started broker.host := by
  unfold SpineToolBroker.finishChildAgentTurn at kept ⊢
  cases ran : runIsolatedChildModel childModel started.transcript with
  | error error =>
      obtain ⟨code, known, message, rfl⟩ := runIsolatedChildModel_failure ran
      refine iff_of_true ?_ ?_
      · exact reportChildAgentFailure_closes contract
          (reportable_of_start built known message) serves running
      · rintro ⟨reply, -, -, -, replied, -⟩
        rw [ran] at replied
        cases replied
  | ok reply =>
      rw [ran] at kept
      dsimp only at kept ⊢
      cases request : AgentTurnCompleteRequest.new grant agentId reply with
      | error error =>
          refine iff_of_true ?_ ?_
          · exact reportChildAgentFailure_closes contract
              (reportable_of_start built (by decide) error.display) serves running
          · rintro ⟨other, complete, -, -, replied, valid, -⟩
            rw [ran, Except.ok.injEq] at replied
            rw [← replied, request] at valid
            cases valid
      | ok complete =>
          obtain ⟨-, rfl⟩ := checked_eq_ok.mp request
          rw [request] at kept
          unfold SpineToolBroker.invoke at kept ⊢
          dsimp only at kept ⊢
          cases ends : (coordinator.completeTurn ⟨grant, agentId, reply⟩).exec broker.host with
          | mk result after =>
              rw [ends] at kept
              cases result with
              | ok result =>
                  refine iff_of_true (contract.completed ends) ?_
                  rintro ⟨other, complete, error, final, replied, valid, refused⟩
                  rw [ran, Except.ok.injEq] at replied
                  rw [← replied, request, Except.ok.injEq] at valid
                  rw [← valid, ends] at refused
                  cases refused
              | error error =>
                  have routed : callLostRoute error = false := by
                    rw [pluginErrorOutcome_capability, Bool.and_eq_true] at kept
                    simpa using kept.2
                  refine iff_of_false ?_ ?_
                  · rw [pluginErrorOutcome_host, not_not]
                    exact contract.refused serves running ends routed
                  · rw [not_not]
                    exact ⟨reply, _, error, after, ran, request, ends⟩

end Closing

/-- A call that has started a turn goes on to finish it. -/
theorem TurnStarted.finishes {coordinator : Coordinator κ} (childModel : ChildModel)
    {broker : SpineToolBroker κ} {ticket : String} {call : DelegatingCall}
    {result : AgentTurnStartResult}
    {state : κ}
    (started : TurnStarted coordinator broker ticket call grant agentId result state) :
    ∃ text start toolName before,
      AgentTurnStartRequest.new grant agentId text = .ok start ∧
      (coordinator.startTurn start).exec before = (.ok result, state) ∧
      broker.executeDelegating coordinator childModel ticket call =
        SpineToolBroker.finishChildAgentTurn coordinator childModel
          { broker with host := state } grant agentId toolName result := by
  cases started with
  | message capable granted built starts =>
      refine ⟨_, _, agentMessageToolName, _, built, starts, ?_⟩
      simp only [SpineToolBroker.executeDelegating, SpineToolBroker.executeAgentMessage,
        capable, granted, SpineToolBroker.executeChildAgentTurn, built,
        SpineToolBroker.invoke, starts, Bool.true_eq_false, if_false]
  | spawn capable granted requested spawns built starts =>
      refine ⟨_, _, agentSpawnToolName, _, built, starts, ?_⟩
      simp only [SpineToolBroker.executeDelegating, SpineToolBroker.executeAgentSpawn,
        capable, granted, requested, spawns, SpineToolBroker.executeChildAgentTurn, built,
        SpineToolBroker.invoke, starts, Bool.true_eq_false, if_false]

/-- When a call has started the turn of an agent and returns without having lost the
coordinator, the agent has stopped running exactly if no completion was refused. -/
theorem executeDelegating_closes_iff {coordinator : Coordinator κ}
    (contract : coordinator.Contract) (childModel : ChildModel) (broker : SpineToolBroker κ)
    (ticket : String) (call : DelegatingCall)
    {result : AgentTurnStartResult} {state : κ}
    (started : TurnStarted coordinator broker ticket call grant agentId result state)
    (kept : (broker.executeDelegating coordinator childModel ticket
      call).2.multiAgentCapability = true) :
    ¬ contract.Running (broker.executeDelegating coordinator childModel ticket call).2.host
        agentId ↔
      ¬ CompletionRefused coordinator childModel grant agentId result state := by
  obtain ⟨text, start, toolName, before, built, starts, turn⟩ := started.finishes childModel
  obtain ⟨running, serves⟩ := contract.started starts
  have request : start = ⟨grant, agentId, text⟩ := (checked_eq_ok.mp built).2.symm
  subst request
  rw [turn] at kept ⊢
  exact finishChildAgentTurn_closes_iff contract built serves running kept

section Ledger

/-- The snapshot of a ledger's agent. -/
def ledgerSnapshot (id : String) (status : AgentStatus) : AgentSnapshot :=
  ⟨id, rootAgentId, "Agent", 1, status, 1, [], 0, 0⟩

/-- The event of a ledger's agent. -/
def ledgerEvent (id : String) (kind : AgentEventKind) : AgentEvent :=
  ⟨1, id, kind, "child model turn", 0⟩

/-- A refusal of the coordinator plugin. -/
def ledgerRefusal (code message : String) : PluginCallError :=
  .rejected "yunxi-multi-agent" code message false

/-- End the turn of a running agent. -/
def endLedgerTurn (agentId : String) (status : AgentStatus) (kind : AgentEventKind) :
    Fallible (List String) PluginCallError AgentMutationResult :=
  ofFunction fun running =>
    if agentId ∈ running then
      (.ok ⟨[ledgerSnapshot agentId status], [ledgerEvent agentId kind]⟩,
        running.filter (· ≠ agentId))
    else (.error (ledgerRefusal "agent_not_running" "the agent is not running"), running)

/-- A coordinator whose document has room for replies, or has none. -/
def ledgerCoordinator (roomy : Bool) : Coordinator (List String) where
  spawn := fun _ => ofFunction fun running =>
    (.ok ⟨ledgerSnapshot "agent-1" .pending, ledgerEvent "agent-1" .spawned⟩, running)
  startTurn := fun request => ofFunction fun running =>
    if request.agentId ∈ running then
      (.error (ledgerRefusal "agent_busy" "the agent is already running"), running)
    else
      (.ok ⟨ledgerSnapshot request.agentId .running, [⟨.user, request.message⟩],
        ledgerEvent request.agentId .turnStarted⟩, request.agentId :: running)
  completeTurn := fun request =>
    if roomy then endLedgerTurn request.agentId .completed .completed
    else throw (ledgerRefusal "document_too_large" "the document exceeds its limit")
  failTurn := fun request => endLedgerTurn request.agentId .failed .failed

theorem endLedgerTurn_ends {status : AgentStatus} {kind : AgentEventKind}
    {running after : List String} {result : AgentMutationResult}
    (ends : (endLedgerTurn agentId status kind).exec running = (.ok result, after)) :
    agentId ∉ after := by
  unfold endLedgerTurn at ends
  rw [exec_ofFunction] at ends
  split_ifs at ends with member
  · rw [Prod.mk.injEq] at ends
    rw [← ends.2]
    simp
  · cases (Prod.mk.inj ends).1

theorem endLedgerTurn_keeps {status : AgentStatus} {kind : AgentEventKind}
    {running after : List String} {error : PluginCallError}
    (refused : (endLedgerTurn agentId status kind).exec running = (.error error, after)) :
    after = running := by
  unfold endLedgerTurn at refused
  rw [exec_ofFunction] at refused
  split_ifs at refused with member
  · cases (Prod.mk.inj refused).1
  · exact (Prod.mk.inj refused).2.symm

/-- The ledger keeps the contract, with room for replies or without. -/
def ledgerContract (roomy : Bool) : (ledgerCoordinator roomy).Contract where
  Running := fun running agentId => agentId ∈ running
  Serves := fun _ _ => True
  started := by
    intro request state result after starts
    unfold ledgerCoordinator at starts
    rw [exec_ofFunction] at starts
    split_ifs at starts with busy
    · cases (Prod.mk.inj starts).1
    · rw [← (Prod.mk.inj starts).2]
      exact ⟨List.mem_cons_self, trivial⟩
  completed := by
    intro request state result after completes
    unfold ledgerCoordinator at completes
    cases roomy with
    | true => exact endLedgerTurn_ends completes
    | false => cases (Prod.mk.inj completes).1
  refused := by
    intro request state error after _ running refuses _
    unfold ledgerCoordinator at refuses
    cases roomy with
    | true =>
        rw [endLedgerTurn_keeps refuses]
        exact running
    | false =>
        rw [← (Prod.mk.inj refuses).2]
        exact running
  failed := by
    intro request state _ _ _ running
    have fails : ((ledgerCoordinator roomy).failTurn request).exec state =
        (.ok ⟨[ledgerSnapshot request.agentId .failed], [ledgerEvent request.agentId .failed]⟩,
          state.filter (· ≠ request.agentId)) := by
      unfold ledgerCoordinator endLedgerTurn
      rw [exec_ofFunction, if_pos running]
    exact ⟨_, _, fails, endLedgerTurn_ends fails⟩

/-- A broker before its first delegated turn. -/
def ledgerBroker : SpineToolBroker (List String) :=
  ⟨[], "/workspace", "session-1", ⟨4, 2, 4, 12⟩, true, []⟩

/-- A child that answers its task. -/
def answeringChild : ChildModel := fun _ => .replied (.new "done" none)

/-- The grant of the first ticket. -/
def ledgerGrant : AgentDelegationGrant :=
  ⟨"/workspace", true, "session-1", "ticket-1", ⟨4, 2, 4, 12⟩, []⟩

/-- What the start of a turn returns. -/
def ledgerStarted : AgentTurnStartResult :=
  ⟨ledgerSnapshot "agent-1" .running, [⟨.user, "go on"⟩],
    ledgerEvent "agent-1" .turnStarted⟩

/-- A message for the agent. -/
def ledgerCall : DelegatingCall := .agentMessage "agent-1" "go on"

theorem ledgerTurn_started (roomy : Bool) :
    TurnStarted (ledgerCoordinator roomy) ledgerBroker "ticket-1" ledgerCall ledgerGrant
      "agent-1" ledgerStarted ["agent-1"] := by
  have granted : ledgerBroker.agentDelegationGrant "ticket-1" = .ok ledgerGrant := by
    decide
  have built : AgentTurnStartRequest.new ledgerGrant "agent-1" "go on" =
      .ok ⟨ledgerGrant, "agent-1", "go on"⟩ := by
    decide
  exact .message rfl granted built rfl

/-- A completion that is accepted ends the turn. -/
theorem executeDelegating_closes_roomy :
    "agent-1" ∉ (ledgerBroker.executeDelegating (ledgerCoordinator true) answeringChild
      "ticket-1" ledgerCall).2.host ↔
    ¬ CompletionRefused (ledgerCoordinator true) answeringChild ledgerGrant "agent-1"
      ledgerStarted ["agent-1"] :=
  executeDelegating_closes_iff (ledgerContract true) answeringChild ledgerBroker "ticket-1"
    ledgerCall (ledgerTurn_started true) (by decide)

/-- Without room for the reply the turn was started, the coordinator is still there when
the call returns, and the agent is left running. -/
theorem refusedCompletion_leaves_running :
    TurnStarted (ledgerCoordinator false) ledgerBroker "ticket-1" ledgerCall ledgerGrant
      "agent-1" ledgerStarted ["agent-1"] ∧
    (ledgerBroker.executeDelegating (ledgerCoordinator false) answeringChild "ticket-1"
      ledgerCall).2.multiAgentCapability = true ∧
    (ledgerContract false).Running (ledgerBroker.executeDelegating (ledgerCoordinator false)
      answeringChild "ticket-1" ledgerCall).2.host "agent-1" :=
  ⟨ledgerTurn_started false, by decide,
    show "agent-1" ∈ (ledgerBroker.executeDelegating (ledgerCoordinator false)
      answeringChild "ticket-1" ledgerCall).2.host by decide⟩

end Ledger

end Session
end YunXi
