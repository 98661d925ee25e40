import YunXi.MultiAgent.Contract
import YunXi.Settings.Writes
import YunXi.WebGateway.Projection

/-!
# The chat session under the web host

A chat session waits for at most one approval.  What its plugins, the model and the session
storage do is a parameter: any outcome with any change of their own state.
-/

namespace YunXi
namespace Web

open Protocol (ChatMessage)
open Settings (CapabilitySettingsStore ParseDocument SettingsDisk)

/-- A tool call that waits for the user. -/
structure PendingApprovalView where
  callId : String
  toolName : String
  summary : String
  deriving DecidableEq, Repr

inductive ChatFailure
  | request (code message : String) (retryable : Bool)
  | unavailable (message : String)
  | protocolViolation (message : String)
  | toolApprovalRequired (tool summary : String)
  | toolLoop (message : String)
  deriving DecidableEq, Repr

/-- `fmt::Display for ChatFailure`. -/
def ChatFailure.display : ChatFailure → String
  | request code message retryable =>
      "model request failed (" ++ code ++ "): " ++ message ++
        if retryable then " [retryable]" else ""
  | unavailable message => "model plugin unavailable: " ++ message
  | protocolViolation message => "model plugin protocol violation: " ++ message
  | toolApprovalRequired tool summary =>
      "Approval required for model tool action; tool: " ++ tool ++ "; " ++ summary ++
        "; use /approve, /deny, or /cancel"
  | toolLoop message => "model tool loop stopped: " ++ message

/-- How a turn, or the rest of one after a decision, ends. -/
inductive TurnOutcome
  | completed (reply : String)
  | awaitingApproval (approval : PendingApprovalView)
  | failed (failure : ChatFailure)

structure SessionSnapshot where
  id : String
  cwd : String
  messages : List ChatMessage

/-- What lies behind a session with state `σ` in a world `ω`. -/
structure Backend (ω σ : Type) where
  nowMillis : ω → Nat
  settingsPath : String
  parseDocument : ParseDocument
  launch : CapabilitySettingsStore → ω → Except String σ × ω
  webProjection : σ → ω → WebGateway.GatewayProjection × σ × ω
  startTurn : List ChatMessage → σ → ω → TurnOutcome × σ × ω
  approve : σ → ω → TurnOutcome × σ × ω
  deny : σ → ω → TurnOutcome × σ × ω
  createSession : σ → ω → Except String SessionSnapshot × σ × ω
  activateSession : String → σ → ω → Except String SessionSnapshot × σ × ω
  multiAgentAvailable : σ → Bool
  agentGraph : String → σ → ω → Except String (List MultiAgent.AgentSnapshot) × σ × ω
  agentTranscript : String → String → σ → ω →
    Except String (List MultiAgent.AgentTranscriptEntry) × σ × ω
  /-- Why the settings file cannot be read, if it cannot. -/
  readFault : ω → Option String
  /-- Why it cannot be replaced, and what an attempt leaves behind. -/
  writeFault : ω → SettingsDisk → CapabilitySettingsStore.WriteFault
  /-- Why it cannot be restored, and what an attempt leaves behind. -/
  restoreFault : ω → SettingsDisk → CapabilitySettingsStore.WriteFault

structure ChatSession (σ : Type) where
  pending : Option PendingApprovalView
  capabilitySettings : CapabilitySettingsStore
  plugins : σ

/-- Programs of a session in its world. -/
abbrev SessionProgram (ω σ ε α : Type) := Fallible (ChatSession σ × ω) ε α

namespace ChatSession

variable {ω σ : Type} (backend : Backend ω σ)

/-- `ChatSession::launch`, with the settings found on disk. -/
def launch (disk : SettingsDisk) (world : ω) : Except String (ChatSession σ) × ω :=
  let store : CapabilitySettingsStore :=
    { CapabilitySettingsStore.load backend.parseDocument backend.settingsPath disk with
      warnings := [] }
  match backend.launch store world with
  | (.ok plugins, world) => (.ok ⟨none, store, plugins⟩, world)
  | (.error error, world) => (.error error, world)

/-- The session after a turn went as far as it could. -/
def afterTurn (session : ChatSession σ) (plugins : σ) (outcome : TurnOutcome) :
    ChatSession σ :=
  { session with
    pending := match outcome with
      | .awaitingApproval approval => some approval
      | _ => none
    plugins }

/-- `ChatBackend::complete`: refused while an approval is pending. -/
def complete (messages : List ChatMessage) : SessionProgram ω σ ChatFailure String :=
  .ofFunction fun (session, world) =>
    match session.pending with
    | some approval =>
        (.error (.toolApprovalRequired approval.toolName approval.summary), session, world)
    | none =>
        let (outcome, plugins, world) := backend.startTurn messages session.plugins world
        (match outcome with
          | .completed reply => .ok reply
          | .awaitingApproval approval =>
              .error (.toolApprovalRequired approval.toolName approval.summary)
          | .failed failure => .error failure,
        session.afterTurn plugins outcome, world)

/-- Resolve the pending approval and go on with the turn; there is a reply when it ends. -/
def resolve (decide : σ → ω → TurnOutcome × σ × ω) :
    SessionProgram ω σ String (Option String) :=
  .ofFunction fun (session, world) =>
    match session.pending with
    | none => (.error "there is no pending model tool action", session, world)
    | some _ =>
        let (outcome, plugins, world) := decide session.plugins world
        (match outcome with
          | .completed reply => .ok (some reply)
          | .awaitingApproval _ => .ok none
          | .failed failure => .error failure.display,
        session.afterTurn plugins outcome, world)

/-- `approve_pending_model_tool`. -/
def approvePendingModelTool : SessionProgram ω σ String (Option String) :=
  resolve backend.approve

/-- `deny_pending_model_tool`. -/
def denyPendingModelTool : SessionProgram ω σ String (Option String) :=
  resolve backend.deny

/-- Switching to another stored session drops what was pending. -/
def switchSession (opening : σ → ω → Except String SessionSnapshot × σ × ω) :
    SessionProgram ω σ String SessionSnapshot :=
  .ofFunction fun (session, world) =>
    match opening session.plugins world with
    | (.ok snapshot, plugins, world) =>
        (.ok snapshot, { session with pending := none, plugins }, world)
    | (.error error, plugins, world) => (.error error, { session with plugins }, world)

/-- `create_web_session`. -/
def createWebSession : SessionProgram ω σ String SessionSnapshot :=
  switchSession backend.createSession

/-- `activate_web_session`. -/
def activateWebSession (id : String) : SessionProgram ω σ String SessionSnapshot :=
  switchSession (backend.activateSession id)

/-- A query of the plugins, which leaves the pending approval alone. -/
def query {α : Type} (ask : σ → ω → Except String α × σ × ω) : SessionProgram ω σ String α :=
  .ofFunction fun (session, world) =>
    let (result, plugins, world) := ask session.plugins world
    (result, { session with plugins }, world)

/-- `web_agent_graph`. -/
def webAgentGraph (rootSessionId : String) :
    SessionProgram ω σ String (List MultiAgent.AgentSnapshot) :=
  query (backend.agentGraph rootSessionId)

/-- `web_agent_inspect`, of which the transcript is used. -/
def webAgentInspect (rootSessionId agentId : String) :
    SessionProgram ω σ String (List MultiAgent.AgentTranscriptEntry) :=
  query (backend.agentTranscript rootSessionId agentId)

end ChatSession
end Web
end YunXi
