import YunXi.MultiAgent.Contract
import YunXi.Protocol.Chat

/-!
# The agent contracts as the host sees them

The texts of contract errors, the checked constructors of requests, and the JSON forms of
agents and events.  Members stand in the order of their keys, as a JSON object of the host
has them.
-/

namespace YunXi
namespace MultiAgent

open Protocol (GrantKind Value)

/-- `fmt::Display for AgentProtocolError`. -/
def AgentProtocolError.display : AgentProtocolError → String
  | emptyField field => field ++ " cannot be empty"
  | fieldTooLong field length maximum =>
      field ++ " is " ++ toString length ++ " bytes; maximum is " ++ toString maximum
  | controlCharacter field => field ++ " contains a NUL character"
  | invalidToken field value => field ++ " `" ++ value ++ "` is not a valid identifier"
  | limitOutOfRange field value maximum =>
      field ++ " value " ++ toString value ++ " is outside 1..=" ++ toString maximum
  | tooManyDelegatedGrants count maximum =>
      "agent delegation contains " ++ toString count ++ " grants; maximum is " ++
        toString maximum
  | duplicateDelegatedGrant grant =>
      "agent delegation repeats grant `" ++ grant.name ++ "`"
  | undelegableGrant grant =>
      "grant `" ++ grant.name ++ "` cannot be delegated to a child agent"
  | grantEscalation =>
      "requested child grants exceed the host-issued delegation authority"
  | tooManyAgents count maximum =>
      "agent result contains " ++ toString count ++ " agents; maximum is " ++
        toString maximum
  | tooManyEvents count maximum =>
      "agent result contains " ++ toString count ++ " events; maximum is " ++
        toString maximum
  | tooManyTranscriptEntries count maximum =>
      "agent transcript contains " ++ toString count ++ " entries; maximum is " ++
        toString maximum
  | zeroEventSequence => "agent event sequence must be greater than zero"
  | rootCannotBeTargeted => "the root agent cannot be interrupted"

/-- Return a value that passes its check. -/
def checked {α : Type} (validate : α → Except AgentProtocolError Unit) (value : α) :
    Except AgentProtocolError α := do
  validate value
  return value

theorem checked_eq_ok {α : Type} {validate : α → Except AgentProtocolError Unit}
    {value made : α} :
    checked validate value = .ok made ↔ validate value = .ok () ∧ value = made := by
  unfold checked
  rw [Except.bind_eq_ok]
  constructor
  · rintro ⟨_, passes, same⟩
    exact ⟨passes, Except.pure_eq_ok.mp same⟩
  · rintro ⟨passes, rfl⟩
    exact ⟨(), passes, rfl⟩

/-- `AgentDelegationGrant::new` with a workspace that may be read and written. -/
def AgentDelegationGrant.new (workspaceRoot sessionId ticket : String)
    (budget : AgentBudget) : Except AgentProtocolError AgentDelegationGrant :=
  checked AgentDelegationGrant.validate ⟨workspaceRoot, true, sessionId, ticket, budget, []⟩

variable (grant : AgentDelegationGrant)

namespace AgentSpawnRequest

/-- `AgentSpawnRequest::new`. -/
def new (task : String) :
    Except AgentProtocolError AgentSpawnRequest :=
  checked validate ⟨grant, rootAgentId, none, task, []⟩

/-- `with_name`. -/
def withName (request : AgentSpawnRequest) (name : String) :
    Except AgentProtocolError AgentSpawnRequest :=
  checked validate { request with name := some name }

/-- `with_parent`. -/
def withParent (request : AgentSpawnRequest) (parentId : String) :
    Except AgentProtocolError AgentSpawnRequest :=
  checked validate { request with parentId }

end AgentSpawnRequest

/-- `AgentTurnStartRequest::new`. -/
def AgentTurnStartRequest.new (agentId message : String) :
    Except AgentProtocolError AgentTurnStartRequest :=
  checked validate ⟨grant, agentId, message⟩

/-- `AgentTurnCompleteRequest::new`. -/
def AgentTurnCompleteRequest.new (agentId reply : String) :
    Except AgentProtocolError AgentTurnCompleteRequest :=
  checked validate ⟨grant, agentId, reply⟩

/-- `AgentTurnFailRequest::new`. -/
def AgentTurnFailRequest.new (agentId code message : String) :
    Except AgentProtocolError AgentTurnFailRequest :=
  checked validate ⟨grant, agentId, code, message⟩

def AgentStatus.toJson : AgentStatus → Value
  | pending => .string "pending"
  | running => .string "running"
  | completed => .string "completed"
  | failed => .string "failed"
  | interrupted => .string "interrupted"

def AgentEventKind.toJson : AgentEventKind → Value
  | spawned => .string "spawned"
  | turnStarted => .string "turn_started"
  | completed => .string "completed"
  | failed => .string "failed"
  | interrupted => .string "interrupted"

def AgentSnapshot.toJson (snapshot : AgentSnapshot) : Value :=
  .object [
    ("child_grants", .array (snapshot.childGrants.map fun grant => .string grant.name)),
    ("created_at_millis", .ofNat snapshot.createdAtMillis),
    ("depth", .ofNat snapshot.depth),
    ("id", .string snapshot.id),
    ("name", .string snapshot.name),
    ("parent_id", .string snapshot.parentId),
    ("status", snapshot.status.toJson),
    ("turns_used", .ofNat snapshot.turnsUsed),
    ("updated_at_millis", .ofNat snapshot.updatedAtMillis)]

def AgentEvent.toJson (event : AgentEvent) : Value :=
  .object [
    ("agent_id", .string event.agentId),
    ("at_millis", .ofNat event.atMillis),
    ("detail", .string event.detail),
    ("kind", event.kind.toJson),
    ("sequence", .ofNat event.sequence)]

end MultiAgent
end YunXi
