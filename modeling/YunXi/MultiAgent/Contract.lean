import YunXi.Protocol.Text
import YunXi.Program.Checked

/-!
# Contracts of the agent graph

Budgets, grants, events, transcripts and requests of the multi-agent coordinator with
the checks that every one of them passes before it is used.
-/

namespace YunXi
namespace MultiAgent

open Protocol (GrantKind)

def rootAgentId : String := "root"
def maxAgentCount : Nat := 16
def maxAgentDepth : Nat := 4
def maxAgentTurnsPerAgent : Nat := 16
def maxAgentTotalTurns : Nat := 64
def maxAgentEvents : Nat := 256
def maxAgentTranscriptEntries : Nat := 64
def maxAgentMessageBytes : Nat := 64 * 1024
def maxAgentReplyBytes : Nat := 256 * 1024
def maxAgentIdBytes : Nat := 128
def maxAgentSessionIdBytes : Nat := 128
def maxAgentNameBytes : Nat := 64
def maxAgentTicketBytes : Nat := 128
def maxAgentDetailBytes : Nat := 4096
def maxDelegatedGrants : Nat := 8

inductive AgentProtocolError
  | emptyField (field : String)
  | fieldTooLong (field : String) (length maximum : Nat)
  | controlCharacter (field : String)
  | invalidToken (field value : String)
  | limitOutOfRange (field : String) (value maximum : Nat)
  | tooManyDelegatedGrants (count maximum : Nat)
  | duplicateDelegatedGrant (grant : GrantKind)
  | undelegableGrant (grant : GrantKind)
  | grantEscalation
  | tooManyAgents (count maximum : Nat)
  | tooManyEvents (count maximum : Nat)
  | tooManyTranscriptEntries (count maximum : Nat)
  | zeroEventSequence
  | rootCannotBeTargeted
  deriving DecidableEq, Repr

/-- `validate_limit`. -/
def validateLimit (field : String) (value maximum : Nat) : Except AgentProtocolError Unit :=
  if value = 0 ∨ maximum < value then .error (.limitOutOfRange field value maximum)
  else .ok ()

/-- Characters of ids, codes and session names. -/
def tokenCharacter (character : Char) : Bool :=
  Protocol.isAsciiAlphanumeric character || Protocol.isTokenPunctuation character

/-- `validate_token`. -/
def validateToken (field value : String) (maximum : Nat) : Except AgentProtocolError Unit :=
  if value.isEmpty then .error (.emptyField field)
  else if maximum < value.utf8ByteSize then
    .error (.fieldTooLong field value.utf8ByteSize maximum)
  else if !(value.toList.head?.any Protocol.isAsciiAlphanumeric) ||
      !(value.toList.all tokenCharacter) then
    .error (.invalidToken field value)
  else .ok ()

/-- `validate_text`. -/
def validateText (field value : String) (maximum : Nat) : Except AgentProtocolError Unit :=
  if Protocol.isBlank value then .error (.emptyField field)
  else if maximum < value.utf8ByteSize then
    .error (.fieldTooLong field value.utf8ByteSize maximum)
  else if Protocol.containsNul value then .error (.controlCharacter field)
  else .ok ()

/-- `validate_agent_id`. -/
def validateAgentId (value : String) : Except AgentProtocolError Unit :=
  validateToken "agent id" value maxAgentIdBytes

/-- Grants that no agent may be given. -/
def undelegable : GrantKind → Bool
  | .approval | .providerCredential | .agentDelegation | .device => true
  | _ => false

/-- The loop of `validate_grants`, with the grants seen so far. -/
def checkGrants : List GrantKind → List GrantKind → Except AgentProtocolError Unit
  | _, [] => .ok ()
  | seen, grant :: rest =>
      if undelegable grant then .error (.undelegableGrant grant)
      else if grant ∈ seen then .error (.duplicateDelegatedGrant grant)
      else checkGrants (grant :: seen) rest

/-- `validate_grants`. -/
def validateGrants (grants : List GrantKind) : Except AgentProtocolError Unit :=
  if maxDelegatedGrants < grants.length then
    .error (.tooManyDelegatedGrants grants.length maxDelegatedGrants)
  else checkGrants [] grants

structure AgentBudget where
  maxAgents : Nat
  maxDepth : Nat
  maxTurnsPerAgent : Nat
  maxTotalTurns : Nat
  deriving DecidableEq, Repr

namespace AgentBudget

/-- `AgentBudget::validate`. -/
def validate (budget : AgentBudget) : Except AgentProtocolError Unit := do
  validateLimit "max_agents" budget.maxAgents maxAgentCount
  validateLimit "max_depth" budget.maxDepth maxAgentDepth
  validateLimit "max_turns_per_agent" budget.maxTurnsPerAgent maxAgentTurnsPerAgent
  validateLimit "max_total_turns" budget.maxTotalTurns maxAgentTotalTurns

/-- `AgentBudget::contains`. -/
def contains (budget requested : AgentBudget) : Bool :=
  requested.maxAgents ≤ budget.maxAgents && requested.maxDepth ≤ budget.maxDepth &&
    requested.maxTurnsPerAgent ≤ budget.maxTurnsPerAgent &&
    requested.maxTotalTurns ≤ budget.maxTotalTurns

end AgentBudget

/-- `AgentDelegationGrant`, with what its workspace grant says about the coordinator:
the root and whether it may write its state. -/
structure AgentDelegationGrant where
  workspaceRoot : String
  allowsNextWrite : Bool
  sessionId : String
  ticket : String
  budget : AgentBudget
  allowedChildGrants : List GrantKind
  deriving DecidableEq, Repr

namespace AgentDelegationGrant

/-- `permits`. -/
def permits (grant : AgentDelegationGrant) (requested : List GrantKind) : Bool :=
  requested.all fun kind => grant.allowedChildGrants.contains kind

/-- `AgentDelegationGrant::validate`. -/
def validate (grant : AgentDelegationGrant) : Except AgentProtocolError Unit := do
  validateToken "agent session id" grant.sessionId maxAgentSessionIdBytes
  validateText "agent delegation ticket" grant.ticket maxAgentTicketBytes
  grant.budget.validate
  validateGrants grant.allowedChildGrants

end AgentDelegationGrant

inductive AgentStatus
  | pending
  | running
  | completed
  | failed
  | interrupted
  deriving DecidableEq, Repr

inductive AgentEventKind
  | spawned
  | turnStarted
  | completed
  | failed
  | interrupted
  deriving DecidableEq, Repr

inductive AgentTranscriptRole
  | user
  | assistant
  deriving DecidableEq, Repr

structure AgentTranscriptEntry where
  role : AgentTranscriptRole
  content : String
  deriving DecidableEq, Repr

/-- The bound of a transcript entry. -/
def AgentTranscriptRole.maximum : AgentTranscriptRole → Nat
  | user => maxAgentMessageBytes
  | assistant => maxAgentReplyBytes

/-- `AgentTranscriptEntry::validate`. -/
def AgentTranscriptEntry.validate (entry : AgentTranscriptEntry) :
    Except AgentProtocolError Unit :=
  validateText "agent transcript content" entry.content entry.role.maximum

/-- `AgentTranscriptEntry::user` and `AgentTranscriptEntry::assistant`. -/
def AgentTranscriptEntry.new (role : AgentTranscriptRole) (content : String) :
    Except AgentProtocolError AgentTranscriptEntry := do
  let entry : AgentTranscriptEntry := ⟨role, content⟩
  entry.validate
  return entry

structure AgentSnapshot where
  id : String
  parentId : String
  name : String
  depth : Nat
  status : AgentStatus
  turnsUsed : Nat
  childGrants : List GrantKind
  createdAtMillis : Nat
  updatedAtMillis : Nat
  deriving DecidableEq, Repr

/-- `AgentSnapshot::validate`. -/
def AgentSnapshot.validate (snapshot : AgentSnapshot) : Except AgentProtocolError Unit := do
  validateAgentId snapshot.id
  validateAgentId snapshot.parentId
  validateText "agent name" snapshot.name maxAgentNameBytes
  validateLimit "agent depth" snapshot.depth maxAgentDepth
  if maxAgentTurnsPerAgent < snapshot.turnsUsed then
    throw (.limitOutOfRange "agent turns used" snapshot.turnsUsed maxAgentTurnsPerAgent)
  else validateGrants snapshot.childGrants

structure AgentEvent where
  sequence : Nat
  agentId : String
  kind : AgentEventKind
  detail : String
  atMillis : Nat
  deriving DecidableEq, Repr

/-- `AgentEvent::validate`. -/
def AgentEvent.validate (event : AgentEvent) : Except AgentProtocolError Unit := do
  if event.sequence = 0 then throw .zeroEventSequence
  else
    validateAgentId event.agentId
    validateText "agent event detail" event.detail maxAgentDetailBytes

structure AgentSpawnRequest where
  grant : AgentDelegationGrant
  parentId : String
  name : Option String
  task : String
  requestedChildGrants : List GrantKind
  deriving DecidableEq, Repr

/-- `AgentSpawnRequest::validate`. -/
def AgentSpawnRequest.validate (request : AgentSpawnRequest) :
    Except AgentProtocolError Unit := do
  request.grant.validate
  validateAgentId request.parentId
  match request.name with
  | some name => validateText "agent name" name maxAgentNameBytes
  | none => pure ()
  validateText "agent task" request.task maxAgentMessageBytes
  validateGrants request.requestedChildGrants
  if request.grant.permits request.requestedChildGrants = false then throw .grantEscalation
  else pure ()

structure AgentTurnStartRequest where
  grant : AgentDelegationGrant
  agentId : String
  message : String
  deriving DecidableEq, Repr

/-- `AgentTurnStartRequest::validate`. -/
def AgentTurnStartRequest.validate (request : AgentTurnStartRequest) :
    Except AgentProtocolError Unit := do
  request.grant.validate
  validateAgentId request.agentId
  validateText "agent message" request.message maxAgentMessageBytes

structure AgentTurnCompleteRequest where
  grant : AgentDelegationGrant
  agentId : String
  reply : String
  deriving DecidableEq, Repr

/-- `AgentTurnCompleteRequest::validate`. -/
def AgentTurnCompleteRequest.validate (request : AgentTurnCompleteRequest) :
    Except AgentProtocolError Unit := do
  request.grant.validate
  validateAgentId request.agentId
  validateText "agent reply" request.reply maxAgentReplyBytes

structure AgentTurnFailRequest where
  grant : AgentDelegationGrant
  agentId : String
  code : String
  message : String
  deriving DecidableEq, Repr

/-- `AgentTurnFailRequest::validate`. -/
def AgentTurnFailRequest.validate (request : AgentTurnFailRequest) :
    Except AgentProtocolError Unit := do
  request.grant.validate
  validateAgentId request.agentId
  validateToken "agent failure code" request.code 64
  validateText "agent failure message" request.message maxAgentDetailBytes

structure AgentInterruptRequest where
  grant : AgentDelegationGrant
  agentId : String
  recursive : Bool
  deriving DecidableEq, Repr

/-- `AgentInterruptRequest::validate`. -/
def AgentInterruptRequest.validate (request : AgentInterruptRequest) :
    Except AgentProtocolError Unit := do
  request.grant.validate
  validateAgentId request.agentId
  if request.agentId = rootAgentId then throw .rootCannotBeTargeted
  else pure ()

structure AgentSpawnResult where
  agent : AgentSnapshot
  event : AgentEvent
  deriving DecidableEq, Repr

structure AgentTurnStartResult where
  agent : AgentSnapshot
  transcript : List AgentTranscriptEntry
  event : AgentEvent
  deriving DecidableEq, Repr

/-- `AgentTurnStartResult::new`. -/
def AgentTurnStartResult.new (agent : AgentSnapshot) (transcript : List AgentTranscriptEntry)
    (event : AgentEvent) : Except AgentProtocolError AgentTurnStartResult :=
  if maxAgentTranscriptEntries < transcript.length then
    .error (.tooManyTranscriptEntries transcript.length maxAgentTranscriptEntries)
  else do
    checkAll AgentTranscriptEntry.validate transcript
    return ⟨agent, transcript, event⟩

structure AgentMutationResult where
  agents : List AgentSnapshot
  events : List AgentEvent
  deriving DecidableEq, Repr

/-- `AgentMutationResult::new`. -/
def AgentMutationResult.new (agents : List AgentSnapshot) (events : List AgentEvent) :
    Except AgentProtocolError AgentMutationResult :=
  if maxAgentCount < agents.length then .error (.tooManyAgents agents.length maxAgentCount)
  else if maxAgentEvents < events.length then
    .error (.tooManyEvents events.length maxAgentEvents)
  else .ok ⟨agents, events⟩

structure AgentListResult where
  budget : AgentBudget
  agents : List AgentSnapshot
  events : List AgentEvent
  totalTurns : Nat
  truncated : Bool
  deriving DecidableEq, Repr

/-- `AgentListResult::new`. -/
def AgentListResult.new (result : AgentListResult) :
    Except AgentProtocolError AgentListResult :=
  if maxAgentCount < result.agents.length then
    .error (.tooManyAgents result.agents.length maxAgentCount)
  else if maxAgentEvents < result.events.length then
    .error (.tooManyEvents result.events.length maxAgentEvents)
  else do
    result.budget.validate
    checkAll AgentSnapshot.validate result.agents
    checkAll AgentEvent.validate result.events
    return result

end MultiAgent
end YunXi
