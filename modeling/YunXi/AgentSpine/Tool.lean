import YunXi.AgentSpine.Session
import YunXi.Program.Fallible

/-!
# Components of an agent and the approval-aware tool path

A component is a set of operations over a state that stands for everything
outside the spine: the model, the context assembler, the broker, and whoever
cancels a token.  A broker must give a catalog and an executing hook; the other
operations have the defaults of the source.
-/

namespace YunXi
namespace AgentSpine

open Protocol

variable {σ : Type}

/-- A shared cancellation token.  A read consults the outside state, so it sees
what the components and other threads did in the meantime. -/
abbrev SharedToken (σ : Type) := σ → CancellationToken × σ

/-- A token that nobody cancels. -/
def SharedToken.fresh : SharedToken σ := fun state => (⟨none⟩, state)

structure ToolRequest where
  turnId : String
  round : Nat
  call : ToolCall

inductive ToolDecision
  | execute
  | requestApproval (request : ToolApprovalRequest)
  | reject (code message : String)

inductive ToolExecutionOutcome
  | executed (outcome : ToolResultOutcome)
  | awaitingApproval (request : ToolApprovalRequest)

/-- Report a protocol error as a component error that cannot be retried. -/
def toolErrorOf {α : Type} (code : String) :
    Except ToolProtocolError α → Except ComponentError α
  | .ok value => .ok value
  | .error error => .error (.new code error.display false)

/-- `RequireApproval::decide`, the fail-closed default. -/
def requireApproval (request : ToolRequest) : Except ComponentError ToolDecision :=
  (toolErrorOf "invalid_approval_request"
    (ToolApprovalRequest.new request.round request.call.id request.call.name
      ("Execute tool " ++ request.call.name.text) [.approval])).map .requestApproval

def validateApproval (request : ToolRequest) (approval : ToolApprovalDecision) :
    Except ComponentError Unit :=
  if approval.round ≠ request.round ∨ approval.callId ≠ request.call.id ∨
      approval.toolName ≠ request.call.name then
    .error (.new "approval_mismatch" "approval does not match the pending tool call" false)
  else toolErrorOf "invalid_approval" approval.validate

def validateApprovalRequest (request : ToolRequest)
    (approvalRequest : ToolApprovalRequest) : Except ComponentError Unit :=
  if request.round ≠ approvalRequest.round ∨ request.call.id ≠ approvalRequest.callId ∨
      request.call.name ≠ approvalRequest.toolName then
    .error (.new "approval_request_mismatch"
      "approval request does not match the pending tool call" false)
  else toolErrorOf "invalid_approval_request" approvalRequest.validate

/-- A rejection as the outcome of a call that was not run. -/
def rejectionOutcome (code message : String) :
    Except ComponentError ToolExecutionOutcome :=
  (toolErrorOf "invalid_tool_rejection" (ToolResultOutcome.newRejected code message)).map
    .executed

/-- The type of the low-level executing hook. -/
abbrev ExecuteHook (σ : Type) :=
  ToolRequest → SharedToken σ → Fallible σ ComponentError ToolResultOutcome

/-- The type of the hook that runs a call under an approval. -/
abbrev ExecuteApprovedHook (σ : Type) :=
  ToolRequest → ToolApprovalDecision → SharedToken σ →
    Fallible σ ComponentError ToolResultOutcome

/-- The type of the decision made before an unapproved call may run. -/
abbrev DecideHook (σ : Type) :=
  ToolRequest → Fallible σ ComponentError ToolDecision

/-- The default body of `execute_with_approval`: run a call only under a matching
approval or an explicit decision to execute. -/
def executeWithApprovalDefault
    (execute : ExecuteHook σ)
    (executeApproved : ExecuteApprovedHook σ)
    (decide : DecideHook σ)
    (request : ToolRequest)
    (approval : Option ToolApprovalDecision)
    (cancellation : SharedToken σ) :
    Fallible σ ComponentError ToolExecutionOutcome :=
  match approval with
  | some approval => do
      Fallible.ofExcept (validateApproval request approval)
      match approval.state with
      | .approved _ => do
          let outcome ← executeApproved request approval cancellation
          return .executed outcome
      | .denied reason => Fallible.ofExcept (rejectionOutcome "user_denied" reason)
  | none => do
      let decision ← decide request
      match decision with
      | .execute => do
          let outcome ← execute request cancellation
          return .executed outcome
      | .requestApproval approvalRequest => do
          Fallible.ofExcept (validateApprovalRequest request approvalRequest)
          return .awaitingApproval approvalRequest
      | .reject code message => Fallible.ofExcept (rejectionOutcome code message)

/-- The `ToolBroker` trait with its default methods. -/
structure ToolBroker (σ : Type) where
  catalog : Fallible σ ComponentError ToolCatalog
  execute : ExecuteHook σ
  executeApproved : ExecuteApprovedHook σ :=
    fun request _ cancellation => execute request cancellation
  decide : DecideHook σ := fun request => Fallible.ofExcept (requireApproval request)
  executeWithApproval :
    ToolRequest → Option ToolApprovalDecision → SharedToken σ →
      Fallible σ ComponentError ToolExecutionOutcome :=
    executeWithApprovalDefault execute executeApproved decide

namespace ToolBroker

/-- `ApprovalAwareToolBroker`: the hooks of a wrapped broker behind a policy.  Its
own executing hook is fail-closed. -/
def approvalAware (inner : ToolBroker σ) (policy : DecideHook σ) : ToolBroker σ where
  catalog := inner.catalog
  execute := fun request _ => throw (.new "approval_required"
    ("approval is required before executing " ++ request.call.name.text) false)
  decide := policy
  executeWithApproval :=
    executeWithApprovalDefault inner.execute inner.executeApproved policy

end ToolBroker

structure ContextAssemblyRequest where
  turnId : String
  userMessage : ChatMessage
  session : SessionLog
  tools : ToolCatalog

structure ModelRequest where
  turnId : String
  round : Nat
  chat : ChatRequest

/-- The three components an agent is built from. -/
structure Components (σ : Type) where
  complete : ModelRequest → SharedToken σ → Fallible σ ComponentError ChatResult
  assemble : ContextAssemblyRequest → Fallible σ ComponentError ChatRequest
  tools : ToolBroker σ

/-- What a scripted model answers, call after call. -/
abbrev Script := List (Except ComponentError ChatResult)

/-- A call of a tool without arguments. -/
def echoCall : ToolCall := ⟨⟨"call-1", by decide⟩, ⟨"echo", by decide⟩, .null, by decide⟩

/-- A model answer that asks for some calls. -/
def askFor (calls : List ToolCall) : Except ComponentError ChatResult :=
  .ok ((ChatResult.new "" none).withToolCalls calls)

/-- A catalog without tools. -/
def ToolCatalog.empty : ToolCatalog := ⟨toolProtocolVersion, [], rfl⟩

/-- A broker that gives a catalog and an executing hook and keeps every default. -/
def ToolBroker.plain (outcome : Fallible σ ComponentError ToolResultOutcome) :
    ToolBroker σ where
  catalog := pure ToolCatalog.empty
  execute := fun _ _ => outcome

/-- Components whose model reads its answers from a script and whose context is the
conversation. -/
def Components.scripted (tools : ToolBroker Script) : Components Script where
  complete := fun _ _ => Fallible.ofFunction fun script =>
    match script with
    | [] => (.error (.new "script_exhausted" "the script has ended" false), [])
    | answer :: script => (answer, script)
  assemble := fun request => pure ⟨request.session.conversation, some request.tools⟩
  tools := tools

/-- A scripted model before a broker that requires approval and whose tools complete. -/
def askingComponents : Components Script := .scripted (.plain (pure (.completed .null)))

end AgentSpine
end YunXi
