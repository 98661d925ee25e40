import YunXi.AgentSpine.Approval
import YunXi.AgentSpine.Ledger
import YunXi.Program.Checked

/-!
# The budget of a turn

To count what a turn asks for, the model and the broker are run over a state that also keeps the
requests they were given.  Suspending and resuming a turn carries its counters along, so the
bounds are over all operations that the turn takes part in.
-/

namespace YunXi
namespace AgentSpine

open Fallible
open Protocol

variable {σ : Type}

/-- The requests that the model and the broker were given so far. -/
structure Notes where
  models : List ModelRequest
  tools : List ToolRequest

namespace Notes

def empty : Notes := ⟨[], []⟩

def addModel (request : ModelRequest) (notes : Notes) : Notes :=
  { notes with models := notes.models ++ [request] }

def addTool (request : ToolRequest) (notes : Notes) : Notes :=
  { notes with tools := notes.tools ++ [request] }

def modelsOf (notes : Notes) (turnId : String) : List ModelRequest :=
  notes.models.filter fun request => request.turnId = turnId

def toolsOf (notes : Notes) (turnId : String) : List ToolRequest :=
  notes.tools.filter fun request => request.turnId = turnId

end Notes

/-- A component state beside the notes. -/
abbrev Noted (σ : Type) := σ × Notes

/-- A token whose cells are part of the noted state. -/
def SharedToken.noted (token : SharedToken σ) : SharedToken (Noted σ) :=
  fun state => ((token state.1).1, (token state.1).2, state.2)

/-- The token that a noted component passes on. -/
def SharedToken.unnoted (token : SharedToken (Noted σ)) : SharedToken σ :=
  fun state => ((token (state, .empty)).1, (token (state, .empty)).2.1)

/-- Note a request and run what was asked for. -/
def noting {α : Type} (note : Notes → Notes) (program : Fallible σ ComponentError α) :
    Fallible (Noted σ) ComponentError α := do
  modify fun state => (state.1, note state.2)
  program.onFirst

/-- A broker that notes the calls that it is given. -/
def ToolBroker.noted (broker : ToolBroker σ) : ToolBroker (Noted σ) where
  catalog := broker.catalog.onFirst
  execute := fun request cancellation =>
    noting (.addTool request) (broker.execute request cancellation.unnoted)
  executeApproved := fun request approval cancellation =>
    (broker.executeApproved request approval cancellation.unnoted).onFirst
  decide := fun request => (broker.decide request).onFirst
  executeWithApproval := fun request approval cancellation =>
    noting (.addTool request) (broker.executeWithApproval request approval cancellation.unnoted)

/-- A broker whose executing hooks note their calls, behind the trait's own approval path. -/
def ToolBroker.notedHooks (broker : ToolBroker σ) : ToolBroker (Noted σ) where
  catalog := broker.catalog.onFirst
  execute := fun request cancellation =>
    noting (.addTool request) (broker.execute request cancellation.unnoted)
  executeApproved := fun request approval cancellation =>
    noting (.addTool request) (broker.executeApproved request approval cancellation.unnoted)
  decide := fun request => (broker.decide request).onFirst

/-- The components with a model that notes its requests. -/
def Components.notedWith (components : Components σ) (tools : ToolBroker (Noted σ)) :
    Components (Noted σ) where
  complete := fun request cancellation =>
    noting (.addModel request) (components.complete request cancellation.unnoted)
  assemble := fun request => (components.assemble request).onFirst
  tools := tools

/-- The ways to note the calls of a broker: those that it is given, or those that reach its
executing hooks on the approval path of the trait or behind a policy. -/
inductive NotedBy (broker : ToolBroker σ) : ToolBroker (Noted σ) → Prop
  | calls : NotedBy broker broker.noted
  | hooks : NotedBy broker broker.notedHooks
  | policy (policy : DecideHook σ) :
      NotedBy broker (.approvalAware broker.notedHooks fun request => (policy request).onFirst)

/-- An operation whose token is part of the noted state. -/
def AgentOp.noted : AgentOp σ → AgentOp (Noted σ)
  | .runTurn userMessage cancellation => .runTurn userMessage cancellation.noted
  | .runTurnWithApproval userMessage cancellation =>
      .runTurnWithApproval userMessage cancellation.noted
  | .approvePendingTool decision cancellation => .approvePendingTool decision cancellation.noted
  | .cancelPendingTurn reason => .cancelPendingTurn reason
  | .resetConversation messages => .resetConversation messages

/-- The requests that were noted so far. -/
def Agent.notes (agent : Agent (Noted σ)) : Notes := agent.components.2

/-- The calls of a round come from one batch of a bounded size with distinct ids. -/
def BatchBounded (maximum : Nat) (requests : List ToolRequest) (round : Nat) : Prop :=
  ∃ batch : List ToolCall, batch.length ≤ maximum ∧ (batch.map ToolCall.id).Nodup ∧
    ∀ request ∈ requests, request.round = round → request.call ∈ batch

variable (budget : TurnBudget)

/-- What was asked for in a turn is within the budget. -/
structure InBudget (turnId : String) (notes : Notes) : Prop where
  models : (notes.modelsOf turnId).length ≤ min budget.maxRounds budget.maxModelCalls
  tools : (notes.toolsOf turnId).length ≤ budget.maxToolCalls
  batches : ∀ round, BatchBounded budget.maxCallsPerRound (notes.toolsOf turnId) round

/-- What was asked for in any turn is within the budget of the agent. -/
def Agent.WithinBudget (agent : Agent (Noted σ)) : Prop :=
  ∀ turnId, InBudget agent.config.budget turnId agent.notes

/-- What noted components do to the notes. -/
structure Noting (components : Components (Noted σ)) : Prop where
  catalog : ∀ state, (components.tools.catalog.exec state).2.2 = state.2
  assemble : ∀ request state, ((components.assemble request).exec state).2.2 = state.2
  complete : ∀ request token state,
    ((components.complete request token).exec state).2.2 = state.2.addModel request
  tool : ∀ mode request approval token state,
    ((executeTool components mode request approval token).exec state).2.2 = state.2 ∨
      ((executeTool components mode request approval token).exec state).2.2 =
        state.2.addTool request

section Noting

variable (components : Components σ)

/-- The approval path of the trait reaches an executing hook at most once. -/
theorem noting_defaultPath (execute : ExecuteHook (Noted σ))
    (executeApproved : ExecuteApprovedHook (Noted σ)) (decide : DecideHook (Noted σ))
    (request : ToolRequest)
    (executes : ∀ token state,
      ((execute request token).exec state).2.2 = state.2.addTool request)
    (executesApproved : ∀ approval token state,
      ((executeApproved request approval token).exec state).2.2 = state.2.addTool request)
    (decides : ∀ state, ((decide request).exec state).2.2 = state.2)
    (approval : Option ToolApprovalDecision) (token : SharedToken (Noted σ)) (state : Noted σ) :
    ((executeWithApprovalDefault execute executeApproved decide request approval token).exec
        state).2.2 = state.2 ∨
      ((executeWithApprovalDefault execute executeApproved decide request approval token).exec
        state).2.2 = state.2.addTool request := by
  unfold executeWithApprovalDefault
  cases approval with
  | some approval =>
      dsimp only
      rw [exec_bind, exec_ofExcept]
      cases validateApproval request approval with
      | error error => exact .inl rfl
      | ok passed =>
          dsimp only
          cases approval.state with
          | approved ticket =>
              have noted := executesApproved approval token state
              refine .inr ?_
              dsimp only
              rw [exec_bind]
              cases ran : (executeApproved request approval token).exec state with
              | mk result final =>
                  rw [ran] at noted
                  cases result <;> exact noted
          | denied reason => exact .inl rfl
  | none =>
      have kept := decides state
      dsimp only
      rw [exec_bind]
      cases decided : (decide request).exec state with
      | mk result middle =>
          rw [decided] at kept
          cases result with
          | error error => exact .inl kept
          | ok decision =>
              cases decision with
              | execute =>
                  have noted := executes token middle
                  refine .inr ?_
                  dsimp only
                  rw [exec_bind]
                  cases ran : (execute request token).exec middle with
                  | mk answer final =>
                      rw [ran] at noted
                      rw [← kept]
                      cases answer <;> exact noted
              | requestApproval approvalRequest =>
                  refine .inl ?_
                  dsimp only
                  rw [exec_bind, exec_ofExcept]
                  cases validateApprovalRequest request approvalRequest <;> exact kept
              | reject code message => exact .inl kept

/-- A direct call runs the executing hook once. -/
theorem noting_legacy {tools : Components (Noted σ)} (request : ToolRequest)
    (executes : ∀ token state, ((tools.tools.execute request token).exec state).2.2 = state.2 ∨
      ((tools.tools.execute request token).exec state).2.2 = state.2.addTool request)
    (approval : Option ToolApprovalDecision) (token : SharedToken (Noted σ)) (state : Noted σ) :
    ((executeTool tools .legacy request approval token).exec state).2.2 = state.2 ∨
      ((executeTool tools .legacy request approval token).exec state).2.2 =
        state.2.addTool request := by
  have noted := executes token state
  unfold executeTool
  dsimp only
  rw [exec_bind]
  cases ran : (tools.tools.execute request token).exec state with
  | mk result final =>
      rw [ran] at noted
      cases result <;> exact noted

/-- However its broker is noted, the components note what they are asked for. -/
theorem NotedBy.noting {tools : ToolBroker (Noted σ)} (noted : NotedBy components.tools tools) :
    Noting (components.notedWith tools) := by
  refine ⟨fun state => ?_, fun _ _ => rfl, fun _ _ _ => rfl, fun mode request approval token state => ?_⟩
  · cases noted <;> rfl
  · cases mode with
    | legacy =>
        refine noting_legacy request (fun token state => ?_) approval token state
        cases noted with
        | calls => exact .inr rfl
        | hooks => exact .inr rfl
        | policy policy => exact .inl rfl
    | approvalAware =>
        cases noted with
        | calls => exact .inr rfl
        | hooks =>
            exact noting_defaultPath components.tools.notedHooks.execute
              components.tools.notedHooks.executeApproved components.tools.notedHooks.decide
              request (fun _ _ => rfl) (fun _ _ _ => rfl) (fun _ => rfl) approval token state
        | policy policy =>
            exact noting_defaultPath components.tools.notedHooks.execute
              components.tools.notedHooks.executeApproved
              (fun request => (policy request).onFirst)
              request (fun _ _ => rfl) (fun _ _ _ => rfl) (fun _ => rfl) approval token state

end Noting

/-- A batch that the policy of the budget has accepted. -/
def BatchAllowed (batch : List ToolCall) : Prop :=
  batch.length ≤ budget.maxCallsPerRound ∧ (batch.map ToolCall.id).Nodup

/-- What holds of the counters and the notes of a turn that has reached a round, with the batch
of calls of that round. -/
structure Kept (turnId : String) (initial : Notes) (reached : Nat)
    (batch : List ToolCall) (tracker : TurnTracker) (notes : Notes) : Prop where
  named : tracker.snapshot.id = turnId
  within : InBudget budget turnId notes
  models : (notes.modelsOf turnId).length ≤ tracker.modelCalls
  tools : (notes.toolsOf turnId).length ≤ tracker.toolCalls
  asked : (notes.modelsOf turnId).length ≤ reached
  rounds : ∀ request ∈ notes.toolsOf turnId,
    request.round < reached ∨ request.round = reached ∧ request.call ∈ batch
  others : ∀ other, other ≠ turnId →
    notes.modelsOf other = initial.modelsOf other ∧ notes.toolsOf other = initial.toolsOf other

namespace Notes

variable (notes : Notes) (turnId : String)

theorem modelsOf_addModel (request : ModelRequest) (own : request.turnId = turnId) :
    (notes.addModel request).modelsOf turnId = notes.modelsOf turnId ++ [request] := by
  unfold modelsOf addModel
  dsimp only
  rw [List.filter_append, List.filter_cons_of_pos (by simpa using own), List.filter_nil]

theorem modelsOf_addModel_of_ne (request : ModelRequest) (differ : request.turnId ≠ turnId) :
    (notes.addModel request).modelsOf turnId = notes.modelsOf turnId := by
  unfold modelsOf addModel
  dsimp only
  rw [List.filter_append, List.filter_cons_of_neg (by simpa using differ), List.filter_nil,
    List.append_nil]

theorem toolsOf_addTool (request : ToolRequest) (own : request.turnId = turnId) :
    (notes.addTool request).toolsOf turnId = notes.toolsOf turnId ++ [request] := by
  unfold toolsOf addTool
  dsimp only
  rw [List.filter_append, List.filter_cons_of_pos (by simpa using own), List.filter_nil]

theorem toolsOf_addTool_of_ne (request : ToolRequest) (differ : request.turnId ≠ turnId) :
    (notes.addTool request).toolsOf turnId = notes.toolsOf turnId := by
  unfold toolsOf addTool
  dsimp only
  rw [List.filter_append, List.filter_cons_of_neg (by simpa using differ), List.filter_nil,
    List.append_nil]

end Notes

section Turn

variable {budget : TurnBudget} {turnId : String} {initial notes : Notes} {reached : Nat}
  {batch : List ToolCall} {tracker : TurnTracker}

variable {other : TurnTracker}

/-- Changes of the tracker that keep its counters keep the bounds. -/
theorem Kept.update (kept : Kept budget turnId initial reached batch tracker notes)
    (named : other.snapshot.id = tracker.snapshot.id)
    (models : tracker.modelCalls ≤ other.modelCalls) (tools : tracker.toolCalls ≤ other.toolCalls) :
    Kept budget turnId initial reached batch other notes :=
  { kept with
    named := named.trans kept.named
    models := Nat.le_trans kept.models models
    tools := Nat.le_trans kept.tools tools }

/-- A round may take up its batch. -/
theorem Kept.take (kept : Kept budget turnId initial reached [] tracker notes)
    (batch : List ToolCall) : Kept budget turnId initial reached batch tracker notes :=
  { kept with
    rounds := fun request member => .inl ((kept.rounds request member).resolve_right
      fun impossible => nomatch impossible.2) }

/-- The model is asked in the next round. -/
theorem Kept.addModel (kept : Kept budget turnId initial reached batch tracker notes)
    {request : ModelRequest} (own : request.turnId = turnId)
    (named : other.snapshot.id = tracker.snapshot.id)
    (models : other.modelCalls = tracker.modelCalls + 1)
    (tools : other.toolCalls = tracker.toolCalls) (round : reached + 1 ≤ budget.maxRounds)
    (room : tracker.modelCalls < budget.maxModelCalls) :
    Kept budget turnId initial (reached + 1) [] other (notes.addModel request) := by
  have counted : ((notes.addModel request).modelsOf turnId).length =
      (notes.modelsOf turnId).length + 1 := by
    rw [notes.modelsOf_addModel turnId request own, List.length_append, List.length_singleton]
  obtain ⟨named', ⟨within, toolsWithin, batches⟩, modelsKept, toolsKept, reachedKept, rounds,
    others⟩ := kept
  have bound : (notes.modelsOf turnId).length + 1 ≤
      min budget.maxRounds budget.maxModelCalls := by omega
  refine ⟨named.trans named', ⟨counted ▸ bound, toolsWithin, batches⟩, ?_, ?_, ?_, ?_, ?_⟩
  · rw [counted, models]
    omega
  · rw [tools]
    exact toolsKept
  · rw [counted]
    omega
  · intro request member
    refine .inl ?_
    rcases rounds request member with before | ⟨same, -⟩ <;> omega
  · intro other differ
    refine ⟨?_, (others other differ).2⟩
    rw [notes.modelsOf_addModel_of_ne other request fun same => differ (same.symm.trans own)]
    exact (others other differ).1

/-- A call of the batch is given to the broker. -/
theorem Kept.addTool (kept : Kept budget turnId initial reached batch tracker notes)
    (allowed : BatchAllowed budget batch)
    {request : ToolRequest} (own : request.turnId = turnId) (inRound : request.round = reached)
    (inBatch : request.call ∈ batch)
    (named : other.snapshot.id = tracker.snapshot.id)
    (models : other.modelCalls = tracker.modelCalls)
    (tools : other.toolCalls = tracker.toolCalls + 1)
    (room : tracker.toolCalls < budget.maxToolCalls) :
    Kept budget turnId initial reached batch other (notes.addTool request) := by
  have shape := notes.toolsOf_addTool turnId request own
  have counted : ((notes.addTool request).toolsOf turnId).length =
      (notes.toolsOf turnId).length + 1 := by
    rw [shape, List.length_append, List.length_singleton]
  obtain ⟨named', ⟨within, toolsWithin, batches⟩, modelsKept, toolsKept, reachedKept, rounds,
    others⟩ := kept
  refine ⟨named.trans named', ⟨within, ?_, fun round => ?_⟩, models ▸ modelsKept, ?_, reachedKept,
    ?_, ?_⟩
  · rw [counted]
    omega
  · rw [shape]
    by_cases same : round = reached
    · refine ⟨batch, allowed.1, allowed.2, fun other member isRound => ?_⟩
      rcases List.mem_append.mp member with earlier | last
      · rcases rounds other earlier with before | ⟨-, known⟩
        · exact absurd (isRound.trans same) before.ne
        · exact known
      · exact List.mem_singleton.mp last ▸ inBatch
    · obtain ⟨known, small, distinct, all⟩ := batches round
      refine ⟨known, small, distinct, fun other member isRound => ?_⟩
      rcases List.mem_append.mp member with earlier | last
      · exact all other earlier isRound
      · rw [List.mem_singleton.mp last] at isRound
        exact absurd (isRound.symm.trans inRound) same
  · rw [counted, tools]
    omega
  · intro other member
    rw [shape] at member
    rcases List.mem_append.mp member with earlier | last
    · exact rounds other earlier
    · rw [List.mem_singleton.mp last]
      exact .inr ⟨inRound, inBatch⟩
  · intro other differ
    refine ⟨(others other differ).1, ?_⟩
    rw [notes.toolsOf_addTool_of_ne other request fun same => differ (same.symm.trans own)]
    exact (others other differ).2

end Turn

/-- A change that asks nothing and loses no count. -/
structure AsksNothing (before after : Live (Noted σ)) : Prop where
  notes : after.components.2 = before.components.2
  named : after.tracker.snapshot.id = before.tracker.snapshot.id
  models : after.tracker.modelCalls = before.tracker.modelCalls
  tools : after.tracker.toolCalls = before.tracker.toolCalls

instance asksNothingRefl : Std.Refl (AsksNothing (σ := σ)) where
  refl _ := ⟨rfl, rfl, rfl, rfl⟩

variable {live : Live (Noted σ)}

variable {round : Nat}

section Parts

variable {components : Components (Noted σ)} {cancellation : SharedToken (Noted σ)}

theorem asksNothing_checkCancellation (quiet : ∀ state, (cancellation state).2.2 = state.2) :
    Preserves AsksNothing (TurnProgram.checkCancellation cancellation) :=
  fun live => ⟨quiet live.components, rfl, rfl, rfl⟩

theorem asksNothing_catalog (noting : Noting components) :
    Preserves AsksNothing (TurnProgram.callComponent .tool components.tools.catalog) :=
  fun live => ⟨noting.catalog live.components, rfl, rfl, rfl⟩

theorem asksNothing_assemble (noting : Noting components) (request : ContextAssemblyRequest) :
    Preserves AsksNothing (TurnProgram.callComponent .context (components.assemble request)) :=
  fun live => ⟨noting.assemble request live.components, rfl, rfl, rfl⟩

theorem asksNothing_record (event : SessionEvent) :
    Preserves AsksNothing (TurnProgram.record (σ := Noted σ) event) := by
  intro live
  have logs := TurnProgram.logsOnly_record event live
  exact ⟨congrArg Prod.snd logs.components, congrArg (·.snapshot.id) logs.tracker,
    congrArg (·.modelCalls) logs.tracker, congrArg (·.toolCalls) logs.tracker⟩

/-- The counters and notes of a turn keep the bounds. -/
def KeptAt (turnId : String) (initial : Notes) (reached : Nat)
    (batch : List ToolCall) (live : Live (Noted σ)) : Prop :=
  Kept budget turnId initial reached batch live.tracker live.components.2

/-- The bounds hold at some round. -/
def KeptSomewhere (turnId : String) (initial : Notes)
    (live : Live (Noted σ)) : Prop :=
  ∃ reached batch, KeptAt budget turnId initial reached batch live

variable {budget : TurnBudget} {turnId : String} {initial : Notes} {reached : Nat}
  {batch : List ToolCall}

theorem KeptAt.quiet {before after : Live (Noted σ)}
    (kept : KeptAt budget turnId initial reached batch before) (quiet : AsksNothing before after) :
    KeptAt budget turnId initial reached batch after := by
  unfold KeptAt
  rw [quiet.notes]
  exact Kept.update kept quiet.named quiet.models.ge quiet.tools.ge

theorem KeptAt.somewhere (kept : KeptAt budget turnId initial reached batch live) :
    KeptSomewhere budget turnId initial live :=
  ⟨reached, batch, kept⟩

/-- What an answered question leaves: the next round has begun. -/
def RoundBegun (budget : TurnBudget) (turnId : String) (initial : Notes) (reached : Nat)
    (result : Except AgentError ChatResult) (live : Live (Noted σ)) : Prop :=
  KeptSomewhere budget turnId initial live ∧
    ∀ response, result = .ok response → KeptAt budget turnId initial reached [] live

theorem RoundBegun.of_error {error : AgentError}
    (kept : KeptAt budget turnId initial reached batch live) :
    RoundBegun budget turnId initial round (.error error) live :=
  ⟨kept.somewhere, fun _ impossible => nomatch impossible⟩

/-- The model is asked at most once in a round, and only within the budget. -/
theorem wp_askModel (noting : Noting components)
    (quiet : ∀ state, (cancellation state).2.2 = state.2) (userMessage : ChatMessage)
    (kept : KeptAt budget turnId initial reached batch live) :
    (askModel components budget turnId userMessage cancellation (reached + 1)).wp
      (RoundBegun budget turnId initial (reached + 1)) live := by
  have bounded := budget.maxModelCalls_le
  unfold askModel
  refine (asksNothing_checkCancellation quiet).wp_bind (fun _ checked same => ?_)
    fun _ _ same => .of_error (kept.quiet same)
  replace kept := kept.quiet same
  rw [wp_bind, wp_throwIf]
  refine ⟨fun _ => RoundBegun.of_error kept, fun allowed => ?_⟩
  rw [andThen_ok, wp_bind, TurnProgram.wp_updateTracker, andThen_ok]
  replace kept : KeptAt budget turnId initial reached batch
      { checked with tracker := { checked.tracker with round := reached + 1 } } :=
    kept.quiet ⟨rfl, rfl, rfl, rfl⟩
  refine (asksNothing_catalog noting).wp_bind (fun catalog listed same => ?_)
    fun _ _ same => .of_error (kept.quiet same)
  replace kept := kept.quiet same
  rw [wp_bind, TurnProgram.wp_updateTracker, andThen_ok, wp_bind,
    wp_get, andThen_ok]
  replace kept : KeptAt budget turnId initial reached batch
      { listed with tracker := { listed.tracker with state := .contextBuilding } } :=
    kept.quiet ⟨rfl, rfl, rfl, rfl⟩
  refine (asksNothing_assemble noting _).wp_bind (fun chat assembled same => ?_)
    fun _ _ same => .of_error (kept.quiet same)
  replace kept := kept.quiet same
  refine (asksNothing_record _).wp_bind (fun _ built same => ?_)
    fun _ _ same => .of_error (kept.quiet same)
  replace kept := kept.quiet same
  rw [wp_bind, wp_get, andThen_ok, wp_bind,
    wp_throwIf]
  refine ⟨fun _ => RoundBegun.of_error kept, fun room => ?_⟩
  rw [andThen_ok, wp_bind, TurnProgram.wp_updateTracker, andThen_ok]
  have counts : saturatingAdd (2 ^ 32 - 1) built.tracker.modelCalls 1 =
      built.tracker.modelCalls + 1 := by
    unfold saturatingAdd
    omega
  -- The count is made before the request is logged, so a refused record leaves it spent.
  have spent : KeptAt budget turnId initial reached batch
      { built with tracker := { built.tracker with
          modelCalls := saturatingAdd (2 ^ 32 - 1) built.tracker.modelCalls 1
          state := .modelCalling } } :=
    Kept.update kept rfl (counts ▸ Nat.le_succ _) (Nat.le_refl _)
  refine (asksNothing_record _).wp_bind (fun _ requested same => ?_)
    fun _ _ same => .of_error (spent.quiet same)
  have asked : KeptAt budget turnId initial (reached + 1) []
      { requested with components := ((components.complete ⟨turnId, reached + 1, chat⟩
          cancellation).exec requested.components).2 } := by
    unfold KeptAt
    dsimp only
    rw [noting.complete, same.notes]
    exact Kept.addModel kept rfl same.named (same.models.trans counts) same.tools (by omega)
      (by omega)
  exact ⟨asked.somewhere, fun _ _ => asked⟩

/-- Checked calls have ids of their own, none of them seen before. -/
theorem nodup_of_validateCallIds {seen : List ToolCallId} {calls : List ToolCall}
    (valid : validateCallIds seen calls = .ok ()) :
    (calls.map ToolCall.id).Nodup ∧ ∀ call ∈ calls, call.id ∉ seen := by
  induction calls generalizing seen with
  | nil => exact ⟨List.nodup_nil, fun _ member => nomatch member⟩
  | cons call calls ih =>
      unfold validateCallIds at valid
      obtain ⟨-, -, rest⟩ := Except.bind_eq_ok.mp valid
      split at rest
      · cases rest
      · next unseen =>
          obtain ⟨distinct, separate⟩ := ih rest
          refine ⟨List.nodup_cons.mpr ⟨fun member => ?_, distinct⟩, ?_⟩
          · obtain ⟨other, known, same⟩ := List.mem_map.mp member
            exact separate other known (same ▸ List.mem_cons_self)
          · refine List.forall_mem_cons.mpr ⟨unseen, fun other member known => ?_⟩
            exact separate other member (List.mem_cons_of_mem _ known)

/-- The calls of a built batch have distinct ids. -/
theorem nodup_of_batch (batch : ToolCallBatch) : (batch.calls.map ToolCall.id).Nodup := by
  obtain ⟨-, -, afterVersion⟩ := Except.bind_eq_ok.mp batch.valid
  obtain ⟨-, -, valid⟩ := Except.bind_eq_ok.mp afterVersion
  unfold validateCalls at valid
  split at valid
  · cases valid
  split at valid
  · cases valid
  exact (nodup_of_validateCallIds valid).1

/-- A batch that a response asks for is one of its round and allowed. -/
theorem batchAllowed_of_response {response : ChatResult} {asked : ToolCallBatch}
    (built : responseBatch budget round response = .ok (some asked)) :
    asked.round = round ∧ BatchAllowed budget asked.calls := by
  unfold responseBatch at built
  split at built
  · cases built
  obtain ⟨made, isNew, checked⟩ := Except.bind_eq_ok.mp built
  obtain ⟨_, valid, same⟩ := Except.bind_eq_ok.mp checked
  cases same
  obtain ⟨-, -, afterBatch⟩ := Except.bind_eq_ok.mp valid
  obtain ⟨-, -, bounds⟩ := Except.bind_eq_ok.mp afterBatch
  split at bounds
  · cases bounds
  split at bounds
  · cases bounds
  · next inBounds =>
      refine ⟨?_, Nat.not_lt.mp inBounds, nodup_of_batch asked⟩
      obtain ⟨passes, rfl⟩ := build_eq_ok isNew
      rfl

/-- What an accepted response leaves: the round may take up the batch. -/
def BatchTaken (budget : TurnBudget) (turnId : String) (initial : Notes) (reached : Nat)
    (result : Except AgentError (Option ToolCallBatch)) (live : Live (Noted σ)) : Prop :=
  KeptAt budget turnId initial reached [] live ∧
    ∀ batch, result = .ok (some batch) →
      batch.round = reached ∧ BatchAllowed budget batch.calls

theorem wp_acceptResponse
    (kept : KeptAt budget turnId initial reached [] live) (response : ChatResult) :
    (acceptResponse budget turnId reached response).wp
      (BatchTaken budget turnId initial reached) live := by
  have fails {error : AgentError} {live : Live (Noted σ)}
      (kept : KeptAt budget turnId initial reached [] live) :
      BatchTaken budget turnId initial reached (.error error) live :=
    ⟨kept, fun _ impossible => nomatch impossible⟩
  unfold acceptResponse TurnProgram.protocolCheck
  refine wp_ofExcept_bind (fun _ _ => fails kept) fun batch checked => ?_
  refine (asksNothing_record _).wp_bind (fun _ responded same => ?_) fun _ _ same =>
    fails (kept.quiet same)
  replace kept := kept.quiet same
  cases batch with
  | none =>
      dsimp only
      rw [wp_bind, wp_throwIf]
      refine ⟨fun _ => fails kept, fun _ => ?_⟩
      rw [andThen_ok]
      refine (asksNothing_record _).wp_bind (fun _ completed same => ?_) fun _ _ same =>
        fails (kept.quiet same)
      exact ⟨(kept.quiet same).quiet ⟨rfl, rfl, rfl, rfl⟩, fun _ impossible => nomatch impossible⟩
  | some batch =>
      refine (asksNothing_record _).wp_bind (fun _ requested same => ?_) fun _ _ same =>
        fails (kept.quiet same)
      refine ⟨kept.quiet same, fun batch same => ?_⟩
      cases same
      exact batchAllowed_of_response (Except.mapError_eq_ok.mp checked)

/-- What a suspended or finished call leaves. -/
def CallsKept (budget : TurnBudget) (turnId : String) (initial : Notes) (batch : ToolCallBatch)
    (result : Except AgentError (Option PendingTool)) (live : Live (Noted σ)) : Prop :=
  KeptAt budget turnId initial batch.round batch.calls live ∧
    ∀ pending, result = .ok (some pending) → pending.batch = batch

theorem asksNothing_finishCall (batch : ToolCallBatch) (approval : Option ToolApprovalDecision)
    (call : ToolCall) (index : Nat) (answer : Except ComponentError ToolExecutionOutcome) :
    Preserves AsksNothing
      (finishCall (σ := Noted σ) turnId batch approval call index answer) := by
  intro live
  have logs := logsOnly_finishCall turnId batch approval call index answer live
  exact ⟨congrArg Prod.snd logs.components, congrArg (·.snapshot.id) logs.tracker,
    congrArg (·.modelCalls) logs.tracker, congrArg (·.toolCalls) logs.tracker⟩

/-- A call that waits for approval waits with its batch. -/
theorem batch_of_finishCall (batch : ToolCallBatch) (approval : Option ToolApprovalDecision)
    (call : ToolCall) (index : Nat) (answer : Except ComponentError ToolExecutionOutcome)
    (live : Live (Noted σ)) :
    (finishCall turnId batch approval call index answer).wp
      (fun result _ => ∀ pending, result = .ok (some pending) → pending.batch = batch) live := by
  match answer with
  | .ok (.awaitingApproval request) =>
      refine wp_bind_of_forall (fun _ _ pending same => ?_)
        fun _ _ _ impossible => nomatch impossible
      cases same
      rfl
  | .ok (.executed outcome) =>
      exact wp_bind_of_forall (fun _ _ _ impossible => nomatch impossible)
        fun _ _ _ impossible => nomatch impossible
  | .error error =>
      refine wp_bind_of_forall (fun _ _ => ?_) fun _ _ _ impossible => nomatch impossible
      exact wp_bind_of_forall (fun _ _ _ impossible => nomatch impossible)
        fun _ _ _ impossible => nomatch impossible

theorem wp_processCall (noting : Noting components)
    (quiet : ∀ state, (cancellation state).2.2 = state.2) {batch : ToolCallBatch}
    (allowed : BatchAllowed budget batch.calls) (approval : Option ToolApprovalDecision)
    (mode : ExecutionMode) {call : ToolCall} (member : call ∈ batch.calls) (index : Nat)
    (kept : KeptAt budget turnId initial batch.round batch.calls live) :
    (processCall components budget turnId batch approval cancellation mode call index).wp
      (CallsKept budget turnId initial batch) live := by
  unfold processCall
  rw [wp_bind]
  refine wp_admitCall (fun admits => ?_) fun error _ => ?_
  · rw [andThen_ok, wp_bind, TurnProgram.wp_tryComponent]
    unfold wp
    dsimp only
    rw [andThen_ok]
    have checked := quiet live.components
    have asked := noting.tool mode ⟨turnId, batch.round, call⟩ approval cancellation
      (cancellation live.components).2
    have spent : KeptAt budget turnId initial batch.round batch.calls
        { live.counted (cancellation live.components).2 with
          components := ((executeTool components mode ⟨turnId, batch.round, call⟩ approval
            cancellation).exec (cancellation live.components).2).2 } := by
      unfold KeptAt
      dsimp only
      rcases asked with none | one
      · rw [none, checked]
        exact Kept.update kept rfl (Nat.le_refl _) (Nat.le_succ _)
      · rw [one, checked]
        exact Kept.addTool kept allowed rfl rfl member rfl rfl rfl admits.inBudget
    refine wp_mono (wp_and
      ((asksNothing_finishCall batch approval call index _).wp _)
      (batch_of_finishCall batch approval call index _ _)) ?_
    exact fun _ _ finished => ⟨spent.quiet finished.1, finished.2⟩
  · exact ⟨kept.quiet ⟨quiet live.components, rfl, rfl, rfl⟩,
      fun _ impossible => nomatch impossible⟩

theorem wp_processCalls (noting : Noting components)
    (quiet : ∀ state, (cancellation state).2.2 = state.2) {batch : ToolCallBatch}
    (allowed : BatchAllowed budget batch.calls) (startCall : Nat)
    (approval : Option ToolApprovalDecision) (mode : ExecutionMode)
    (entries : List (ToolCall × Nat)) (members : ∀ entry ∈ entries, entry.1 ∈ batch.calls)
    (kept : KeptAt budget turnId initial batch.round batch.calls live) :
    (processCalls components budget turnId batch startCall approval cancellation mode
      entries).wp (CallsKept budget turnId initial batch) live := by
  induction entries generalizing live with
  | nil => exact ⟨kept, fun _ impossible => nomatch impossible⟩
  | cons entry entries ih =>
      obtain ⟨first, rest⟩ := List.forall_mem_cons.mp members
      refine wp_bind_of
        (wp_processCall noting quiet allowed _ mode first entry.2 kept) ?_ ?_
      · intro pending middle processed
        cases pending with
        | none => exact ih rest processed.1
        | some pending =>
            refine ⟨processed.1, fun other same => ?_⟩
            cases same
            exact processed.2 pending rfl
      · exact fun _ _ processed => ⟨processed.1, fun _ impossible => nomatch impossible⟩

theorem wp_processToolBatch (noting : Noting components)
    (quiet : ∀ state, (cancellation state).2.2 = state.2) {batch : ToolCallBatch}
    (allowed : BatchAllowed budget batch.calls) (startCall : Nat)
    (approval : Option ToolApprovalDecision) (mode : ExecutionMode)
    (kept : KeptAt budget turnId initial batch.round batch.calls live) :
    (processToolBatch components budget turnId batch startCall approval cancellation mode).wp
      (CallsKept budget turnId initial batch) live := by
  refine wp_processCalls noting quiet allowed startCall approval mode _ (fun entry member => ?_)
    kept
  exact List.fst_mem_of_mem_zipIdx (List.mem_of_mem_drop member)

/-- What a turn leaves: its bounds hold, and those of a suspended turn are at its batch. -/
def TurnKept (budget : TurnBudget) (turnId : String) (initial : Notes)
    (result : Except AgentError InnerTurnOutcome) (live : Live (Noted σ)) : Prop :=
  KeptSomewhere budget turnId initial live ∧
    ∀ pending, result = .ok (.awaitingApproval pending) →
      KeptAt budget turnId initial pending.batch.round pending.batch.calls live ∧
        BatchAllowed budget pending.batch.calls

theorem TurnKept.of_error {error : AgentError}
    (kept : KeptSomewhere budget turnId initial live) :
    TurnKept budget turnId initial (.error error) live :=
  ⟨kept, fun _ impossible => nomatch impossible⟩

/-- A batch was processed to its end, up to a call that waits, or up to an error. -/
theorem CallsKept.suspended {batch : ToolCallBatch} {pending : PendingTool}
    (allowed : BatchAllowed budget batch.calls)
    (kept : CallsKept budget turnId initial batch (.ok (some pending)) live) :
    TurnKept budget turnId initial (.ok (.awaitingApproval pending)) live := by
  refine ⟨kept.1.somewhere, fun other same => ?_⟩
  cases same
  rw [kept.2 pending rfl]
  exact ⟨kept.1, allowed⟩

theorem nextRound_eq_ok {next : Nat} (counted : nextRound budget round = .ok next) :
    next = round + 1 := by
  unfold nextRound at counted
  split at counted
  · cases counted
    rfl
  · cases counted

/-- The loop keeps the bounds, by induction on the rounds that are left. -/
theorem wp_turnLoop (noting : Noting components)
    (quiet : ∀ state, (cancellation state).2.2 = state.2) (userMessage : ChatMessage)
    (mode : ExecutionMode) (approval : Option ToolApprovalDecision) (remaining : Nat)
    (kept : KeptAt budget turnId initial reached batch live) :
    (turnLoop components budget turnId userMessage cancellation mode approval remaining
      (reached + 1)).wp (TurnKept budget turnId initial) live := by
  induction remaining generalizing reached batch live with
  | zero =>
      refine (asksNothing_checkCancellation quiet).wp_bind (fun _ _ same => ?_) fun _ _ same => ?_
      · exact TurnKept.of_error (kept.quiet same).somewhere
      · exact .of_error (kept.quiet same).somewhere
  | succ remaining ih =>
      unfold turnLoop
      refine wp_bind_of (wp_askModel noting quiet userMessage kept)
        (fun response answered begun => ?_) fun _ _ begun => .of_error begun.1
      refine wp_bind_of (wp_acceptResponse (begun.2 response rfl) response)
        (fun asked accepted taken => ?_) fun _ _ taken => .of_error taken.1.somewhere
      cases asked with
      | none => exact ⟨taken.1.somewhere, fun _ impossible => nomatch impossible⟩
      | some asked =>
          obtain ⟨inRound, allowed⟩ := taken.2 asked rfl
          have ready : KeptAt budget turnId initial asked.round asked.calls accepted := by
            rw [inRound]
            exact Kept.take taken.1 asked.calls
          refine wp_bind_of (wp_processToolBatch noting quiet allowed 0 approval mode
            ready) (fun pending processed calls => ?_) fun _ _ calls => .of_error calls.1.somewhere
          cases pending with
          | some pending => exact calls.suspended allowed
          | none =>
              refine wp_ofExcept_bind (fun _ _ => .of_error calls.1.somewhere)
                fun next counted => ?_
              rw [nextRound_eq_ok counted, ← inRound]
              exact ih calls.1

theorem wp_runTurnInner (noting : Noting components)
    (quiet : ∀ state, (cancellation state).2.2 = state.2) (userMessage : ChatMessage)
    (recordStart : Bool) (mode : ExecutionMode) (approval : Option ToolApprovalDecision)
    (kept : KeptAt budget turnId initial reached batch live) :
    (runTurnInner components budget turnId userMessage cancellation (reached + 1) recordStart
      mode approval).wp (TurnKept budget turnId initial) live := by
  have starts : Preserves AsksNothing (if recordStart then
      TurnProgram.record (σ := Noted σ) (.turnStarted turnId userMessage) else pure ()) := by
    cases recordStart with
    | true => exact asksNothing_record _
    | false => exact .pure ()
  refine starts.wp_bind (fun _ started same => ?_) fun _ _ same =>
    .of_error (kept.quiet same).somewhere
  exact wp_turnLoop noting quiet userMessage mode approval _ (kept.quiet same)

/-- A resumed turn goes on with its counters. -/
theorem wp_continuePendingTurn (noting : Noting components)
    (quiet : ∀ state, (cancellation state).2.2 = state.2) (userMessage : ChatMessage)
    {batch : ToolCallBatch} (allowed : BatchAllowed budget batch.calls) (nextCall : Nat)
    (decision : ToolApprovalDecision)
    (kept : KeptAt budget turnId initial batch.round batch.calls live) :
    (continuePendingTurn components budget turnId userMessage batch nextCall decision
      cancellation).wp (TurnKept budget turnId initial) live := by
  refine wp_bind_of (wp_processToolBatch noting quiet allowed nextCall _ _ kept)
    (fun pending processed calls => ?_) fun _ _ calls => .of_error calls.1.somewhere
  cases pending with
  | some pending => exact calls.suspended allowed
  | none =>
      refine wp_ofExcept_bind (fun _ _ => .of_error calls.1.somewhere)
        fun next counted => ?_
      rw [nextRound_eq_ok counted]
      exact wp_runTurnInner noting quiet userMessage false _ _ calls.1

end Parts

section Ends

variable (components : Components σ) (budget : TurnBudget) (turnId : String)
  (userMessage : ChatMessage) (cancellation : SharedToken σ)

/-- Past the last round the model is not asked. -/
theorem askModel_past (past : budget.maxRounds < round) :
    askModel components budget turnId userMessage cancellation round =
      (do
        TurnProgram.checkCancellation cancellation
        throw (.budgetExceeded .rounds budget.maxRounds round)) := by
  unfold askModel throwIf
  rw [if_pos past]
  rfl

/-- More rounds than the budget has left change nothing, so the loop ends by itself. -/
theorem turnLoop_extra (mode : ExecutionMode) (approval : Option ToolApprovalDecision)
    (round extra : Nat) :
    turnLoop components budget turnId userMessage cancellation mode approval
        (budget.maxRounds + 1 - round + extra) round =
      turnLoop components budget turnId userMessage cancellation mode approval
        (budget.maxRounds + 1 - round) round := by
  induction left : budget.maxRounds + 1 - round generalizing round with
  | zero =>
      cases extra with
      | zero => rfl
      | succ extra =>
          rw [Nat.zero_add]
          unfold turnLoop
          rw [askModel_past components budget turnId userMessage cancellation (by omega),
            bind_assoc]
          rfl
  | succ left ih =>
      rw [Nat.add_right_comm]
      unfold turnLoop
      refine bind_congr fun response => bind_congr fun batch => ?_
      cases batch with
      | none => rfl
      | some batch =>
          refine bind_congr fun pending => ?_
          cases pending with
          | some pending => rfl
          | none =>
              dsimp only
              cases counted : nextRound budget round with
              | error error => rfl
              | ok next =>
                  have follows := nextRound_eq_ok counted
                  exact ih next (by omega)

end Ends

/-- The invariant of the agent: what was asked for is within the budget, a turn that was not
named yet has asked for nothing, and the suspended turn can go on at its batch. -/
structure Agent.Budgeted (agent : Agent (Noted σ)) : Prop where
  idle : agent.state = .ready → agent.pendingTurn = none
  within : agent.WithinBudget
  unnamed : ∀ number, agent.nextTurnId ≤ number →
    agent.notes.modelsOf (turnName number) = [] ∧ agent.notes.toolsOf (turnName number) = []
  suspended : ∀ pending, agent.pendingTurn = some pending →
    (∃ number, number < agent.nextTurnId ∧ pending.tracker.snapshot.id = turnName number) ∧
      Kept agent.config.budget pending.tracker.snapshot.id agent.notes pending.batch.round
        pending.batch.calls pending.tracker agent.notes ∧
      BatchAllowed agent.config.budget pending.batch.calls

variable {agent : Agent (Noted σ)}

section Agents

variable {components : Components (Noted σ)} {turnId : String} {budget : TurnBudget}
  {initial : Notes}

/-- A turn that asked for nothing yet. -/
theorem Kept.start (within : InBudget budget turnId initial)
    (models : initial.modelsOf turnId = []) (tools : initial.toolsOf turnId = []) :
    Kept budget turnId initial 0 [] (.new turnId) initial where
  named := rfl
  within := within
  models := by rw [models]; exact Nat.zero_le _
  tools := by rw [tools]; exact Nat.zero_le _
  asked := by rw [models]; exact Nat.zero_le _
  rounds request member := by
    rw [tools] at member
    cases member
  others _ _ := ⟨rfl, rfl⟩

/-- A turn that stays within its budget leaves all turns within theirs. -/
theorem KeptSomewhere.withinBudget (kept : KeptSomewhere budget turnId initial live)
    (within : ∀ other, InBudget budget other initial) (other : String) :
    InBudget budget other live.components.2 := by
  obtain ⟨reached, batch, kept⟩ := kept
  by_cases same : other = turnId
  · rw [same]
    exact kept.within
  · obtain ⟨models, tools⟩ := kept.others other same
    obtain ⟨modelsWithin, toolsWithin, batches⟩ := within other
    rw [← models] at modelsWithin
    rw [← tools] at toolsWithin batches
    exact ⟨modelsWithin, toolsWithin, batches⟩

/-- What the agent keeps of a turn that ran. -/
theorem Agent.budgeted_afterTurn (agent : Agent (Noted σ)) (userMessage : ChatMessage)
    {outcome : Except AgentError InnerTurnOutcome} {number : Nat}
    (kept : TurnKept agent.config.budget (turnName number) initial outcome live)
    (within : ∀ other, InBudget agent.config.budget other initial)
    (unnamed : ∀ later, agent.nextTurnId ≤ later →
      initial.modelsOf (turnName later) = [] ∧ initial.toolsOf (turnName later) = [])
    (named : number < agent.nextTurnId) (taken : agent.pendingTurn = none) :
    (agent.afterTurn userMessage outcome live).Budgeted := by
  have inBudget := kept.1.withinBudget within
  have later : ∀ later, agent.nextTurnId ≤ later →
      live.components.2.modelsOf (turnName later) = [] ∧
        live.components.2.toolsOf (turnName later) = [] := by
    intro later notYet
    obtain ⟨reached, batch, bounds⟩ := kept.1
    obtain ⟨models, tools⟩ := bounds.others (turnName later) fun same =>
      Nat.not_lt.mpr notYet (turnName_injective same ▸ named)
    rw [models, tools]
    exact unnamed later notYet
  match outcome with
  | .ok (.completed _) =>
      refine ⟨fun _ => taken, inBudget, later, fun pending impossible => ?_⟩
      exact nomatch taken.symm.trans impossible
  | .error _ => exact ⟨fun _ => rfl, inBudget, later, fun pending impossible => nomatch impossible⟩
  | .ok (.awaitingApproval pending) =>
      refine ⟨fun impossible => (nomatch impossible), inBudget, later, fun suspended same => ?_⟩
      cases same
      obtain ⟨bounds, allowed⟩ := kept.2 pending rfl
      have resumes : Kept agent.config.budget (turnName number) live.components.2
          pending.batch.round pending.batch.calls (suspension live.tracker userMessage
            pending).tracker live.components.2 :=
        { Kept.update bounds rfl (Nat.le_refl _) (Nat.le_refl _) with
          others := fun _ _ => ⟨rfl, rfl⟩ }
      have ofTurn := resumes.named
      refine ⟨⟨number, named, ofTurn⟩, ?_, allowed⟩
      rw [ofTurn]
      exact resumes

variable (noting : Noting components)

/-- The tokens of the operation ask for nothing. -/
def AgentOp.IsQuiet (op : AgentOp (Noted σ)) : Prop :=
  ∀ token, op.token = some token → ∀ state, (token state).2.2 = state.2

theorem AgentOp.isQuiet_noted (op : AgentOp σ) : op.noted.IsQuiet := by
  intro token given state
  cases op <;> cases given <;> rfl

/-- Reading a token changes no notes. -/
theorem Agent.Consulted.notes {op : AgentOp (Noted σ)}
    {state : Noted σ} (quiet : op.IsQuiet) (consulted : agent.Consulted op state) :
    state.2 = agent.notes := by
  rcases consulted with same | ⟨token, given, same⟩
  · rw [same]
    rfl
  · rw [same]
    exact quiet token given agent.components

include noting in
/-- Every operation keeps the budget. -/
theorem Agent.budgeted_perform (agent : Agent (Noted σ)) (op : AgentOp (Noted σ))
    (quiet : op.IsQuiet) (keeps : agent.Budgeted) :
    (agent.perform components op).Budgeted := by
  have step := agent.perform_step components op
  generalize agent.perform components op = final at step
  have starts {state : Noted σ} (same : state.2 = agent.notes) :
      KeptAt agent.config.budget (turnName agent.nextTurnId) agent.notes 0 []
        (agent.newLive state) := by
    obtain ⟨models, tools⟩ := keeps.unnamed agent.nextTurnId (Nat.le_refl _)
    unfold KeptAt Agent.newLive
    dsimp only
    rw [same]
    exact Kept.start (keeps.within _) models tools
  have later : ∀ later, agent.nextTurnId + 1 ≤ later →
      agent.notes.modelsOf (turnName later) = [] ∧ agent.notes.toolsOf (turnName later) = [] :=
    fun later notYet => keeps.unnamed later (Nat.le_of_succ_le notYet)
  cases step with
  | refused state consulted noTurn noCancel =>
      have same := consulted.notes quiet
      refine ⟨keeps.idle, ?_, ?_, ?_⟩
      · intro turnId
        unfold Agent.notes
        rw [same]
        exact keeps.within turnId
      · unfold Agent.notes
        rw [same]
        exact keeps.unnamed
      · unfold Agent.notes
        rw [same]
        exact keeps.suspended
  | @direct userMessage cancellation state consulted outcome live ready fromUser _ turn ran =>
      have taken := keeps.idle ready
      have ended := of_wp (runTurnInner_legacy _ _ _ _ _ _ _ _ _) ran
      rw [afterDirectTurn_eq userMessage ended
        (show (agent.started state).pendingTurn = none from taken)]
      have kept := of_wp (wp_runTurnInner noting (quiet cancellation rfl) userMessage
        true .legacy none (starts (consulted.notes quiet))) ran
      exact budgeted_afterTurn (agent.started state) userMessage kept keeps.within later
        (Nat.lt_succ_self _) taken
  | @approvalAware userMessage cancellation state consulted outcome live ready fromUser _ turn
      ran =>
      have taken := keeps.idle ready
      have kept := of_wp (wp_runTurnInner noting (quiet cancellation rfl) userMessage
        true .approvalAware none (starts (consulted.notes quiet))) ran
      exact budgeted_afterTurn (agent.started state) userMessage kept keeps.within later
        (Nat.lt_succ_self _) taken
  | @resumed decision cancellation state consulted pending outcome live awaiting suspended _
      turn ran =>
      obtain ⟨⟨number, named, ofTurn⟩, bounds, allowed⟩ := keeps.suspended pending suspended
      have same := consulted.notes quiet
      have ready : KeptAt agent.config.budget pending.tracker.snapshot.id agent.notes
          pending.batch.round pending.batch.calls ⟨agent.session, pending.tracker, state⟩ := by
        unfold KeptAt
        dsimp only
        rw [same]
        exact bounds
      have kept := of_wp (wp_continuePendingTurn noting (quiet cancellation rfl)
        pending.userMessage allowed pending.nextCall decision ready) ran
      rw [ofTurn] at kept
      exact budgeted_afterTurn (agent.resumed state) _ kept keeps.within keeps.unnamed
        named rfl
  | cancelled awaiting suspended accepts =>
      exact ⟨fun _ => rfl, keeps.within, keeps.unnamed, fun _ impossible => nomatch impossible⟩
  | cancelRefused awaiting suspended refuses =>
      exact ⟨fun _ => rfl, keeps.within, keeps.unnamed, fun _ impossible => nomatch impossible⟩
  | reset ready replaced =>
      exact ⟨fun _ => keeps.idle ready, keeps.within, keeps.unnamed, keeps.suspended⟩

end Agents

/-- An agent that has named no turn is within its budget. -/
theorem Agent.budgeted_new {id : String} {outside : σ} {config : AgentConfig}
    (created : Agent.new id (outside, .empty) config = .ok agent) :
    agent.Budgeted := by
  cases Agent.new_eq_ok created
  refine ⟨fun _ => rfl, fun turnId => ?_, fun _ _ => ⟨rfl, rfl⟩, fun _ impossible => nomatch impossible⟩
  exact ⟨Nat.zero_le _, Nat.zero_le _, fun round =>
    ⟨[], Nat.zero_le _, List.nodup_nil, fun _ member => nomatch member⟩⟩

/-- In every run of operations each turn stays within the budget, however often it is suspended
and resumed, and no loop needs more rounds than the budget has left. -/
theorem turns_within_budget (components : Components σ) {tools : ToolBroker (Noted σ)}
    (noted : NotedBy components.tools tools) {id : String} {outside : σ} {config : AgentConfig}
    (created : Agent.new id (outside, .empty) config = .ok agent)
    (ops : List (AgentOp σ)) :
    Throughout (Agent.perform (components.notedWith tools)) Agent.WithinBudget agent
        (ops.map AgentOp.noted) ∧
      ∀ turnId userMessage (cancellation : SharedToken σ) mode approval round extra,
        turnLoop components config.budget turnId userMessage cancellation mode approval
            (config.budget.maxRounds + 1 - round + extra) round =
          turnLoop components config.budget turnId userMessage cancellation mode approval
            (config.budget.maxRounds + 1 - round) round := by
  refine ⟨?_, fun turnId userMessage cancellation =>
    turnLoop_extra components config.budget turnId userMessage cancellation⟩
  refine (throughout_of_step Agent.Budgeted (fun _ op => op.IsQuiet)
    (fun state op keeps quiet => state.budgeted_perform (noted.noting components) op quiet keeps)
    (Agent.budgeted_new created) (eachStep_of_forall_mem (fun op member _ => ?_) agent)).mono
    fun _ keeps => keeps.within
  obtain ⟨original, -, same⟩ := List.mem_map.mp member
  exact same ▸ original.isQuiet_noted

/-- The rule applies to a turn that is suspended once and then runs its call. -/
theorem turns_within_budget_asking :
    Throughout (Agent.perform (askingComponents.notedWith askingComponents.tools.notedHooks))
        Agent.WithinBudget (.fresh ([askFor [echoCall], .ok (.new "done" none)], .empty))
        ([.runTurnWithApproval (.user "hello") .fresh,
          .approvePendingTool echoApproval .fresh].map AgentOp.noted) ∧
      ∀ turnId userMessage (cancellation : SharedToken Script) mode approval round extra,
        turnLoop askingComponents AgentConfig.default.budget turnId userMessage cancellation mode
            approval (AgentConfig.default.budget.maxRounds + 1 - round + extra) round =
          turnLoop askingComponents AgentConfig.default.budget turnId userMessage cancellation
            mode approval (AgentConfig.default.budget.maxRounds + 1 - round) round :=
  turns_within_budget askingComponents .hooks (Agent.new_default _) _

end AgentSpine
end YunXi
