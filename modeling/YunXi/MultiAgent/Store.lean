import YunXi.MultiAgent.Contract
import YunXi.Program.Fallible
import YunXi.Program.Worklist
import Mathlib.Data.List.Sort

/-!
# The coordinator store

Every operation checks the authority it is called with, loads the document of the
session, changes a copy of it and saves the copy.  A document that another coordinator
instance left behind is recovered when it is loaded: its running turns have failed.
-/

namespace YunXi
namespace MultiAgent

open Protocol (GrantKind)

def documentVersion : Nat := 1
def maxDocumentBytes : Nat := 4 * 1024 * 1024

/-- `saturating_add(1)` on a `u16` and on a `u64`. -/
def nextU16 (value : Nat) : Nat := min (value + 1) 65535
def nextU64 (value : Nat) : Nat := min (value + 1) 18446744073709551615

inductive MultiAgentStoreError
  | protocol (error : AgentProtocolError)
  | workspaceEscape
  | invalidInstanceId (value : String)
  | writeNotGranted
  | authorityMismatch
  | authorityEscalation
  | grantEscalation
  | agentNotFound (id : String)
  | parentNotFound (id : String)
  | parentUnavailable (id : String)
  | agentLimitReached (limit : Nat)
  | depthLimitReached (limit : Nat)
  | agentTurnLimitReached (id : String) (limit : Nat)
  | totalTurnLimitReached (limit : Nat)
  | transcriptLimitReached (id : String)
  | alreadyRunning (id : String)
  | notRunning (id : String)
  | interrupted (id : String)
  | unsupportedVersion (version : Nat)
  | invalidDocument (message : String)
  | documentTooLarge (maximum : Nat)
  | unreadable
  deriving DecidableEq, Repr

abbrev StoreResult (α : Type) := Except MultiAgentStoreError α

/-- An error of the contracts inside the store. -/
def protocol {α : Type} (result : Except AgentProtocolError α) : StoreResult α :=
  result.mapError .protocol

structure StoredAgent where
  id : String
  parentId : String
  name : String
  depth : Nat
  status : AgentStatus
  turnsUsed : Nat
  childGrants : List GrantKind
  transcript : List AgentTranscriptEntry
  createdAtMillis : Nat
  updatedAtMillis : Nat
  deriving DecidableEq, Repr

structure SessionDocument where
  version : Nat
  sessionId : String
  coordinatorInstanceId : String
  budget : AgentBudget
  allowedChildGrants : List GrantKind
  totalTurns : Nat
  nextAgentSequence : Nat
  nextEventSequence : Nat
  agents : List StoredAgent
  events : List AgentEvent
  deriving DecidableEq, Repr

variable (agent : StoredAgent)

namespace StoredAgent

/-- The fields a snapshot shows. -/
def view : AgentSnapshot :=
  ⟨agent.id, agent.parentId, agent.name, agent.depth, agent.status, agent.turnsUsed,
    agent.childGrants, agent.createdAtMillis, agent.updatedAtMillis⟩

/-- `StoredAgent::snapshot`. -/
def snapshot : StoreResult AgentSnapshot := do
  protocol agent.view.validate
  return agent.view

/-- `StoredAgent::validate`. -/
def validate (agent : StoredAgent) : StoreResult Unit := do
  discard agent.snapshot
  if maxAgentTranscriptEntries < agent.transcript.length then
    throw (.invalidDocument ("agent `" ++ agent.id ++ "` transcript exceeds its entry limit"))
  else checkAll (fun entry => protocol entry.validate) agent.transcript

end StoredAgent

/-- `validate_instance_id`. -/
def validateInstanceId (value : String) : StoreResult Unit :=
  if value.isEmpty || 128 < value.utf8ByteSize || !(value.toList.all tokenCharacter) then
    .error (.invalidInstanceId value)
  else .ok ()

/-- The first loop over the agents in `SessionDocument::validate`, with the ids seen. -/
def checkAgents : List String → List StoredAgent → StoreResult Unit
  | _, [] => .ok ()
  | seen, agent :: rest => do
      agent.validate
      if agent.id ∈ seen then
        throw (.invalidDocument ("duplicate agent id `" ++ agent.id ++ "`"))
      else checkAgents (agent.id :: seen) rest

variable (agents : List StoredAgent)

/-- The second loop over the agents in `SessionDocument::validate`. -/
def checkParent (agent : StoredAgent) : StoreResult Unit :=
  if agent.parentId ≠ rootAgentId ∧ agent.parentId ∉ agents.map StoredAgent.id then
    .error (.invalidDocument
      ("agent `" ++ agent.id ++ "` has missing parent `" ++ agent.parentId ++ "`"))
  else .ok ()

variable (authority : AgentDelegationGrant)

namespace SessionDocument

/-- `SessionDocument::new`. -/
def new (instanceId : String) : SessionDocument where
  version := documentVersion
  sessionId := authority.sessionId
  coordinatorInstanceId := instanceId
  budget := authority.budget
  allowedChildGrants := authority.allowedChildGrants
  totalTurns := 0
  nextAgentSequence := 1
  nextEventSequence := 1
  agents := []
  events := []

/-- `SessionDocument::validate`. -/
def validate (document : SessionDocument) : StoreResult Unit := do
  if document.version ≠ documentVersion then throw (.unsupportedVersion document.version)
  else
    protocol document.budget.validate
    validateInstanceId document.coordinatorInstanceId
    if document.nextAgentSequence = 0 ∨ document.nextEventSequence = 0 then
      throw (.invalidDocument "stored sequences must be greater than zero")
    else if maxAgentCount < document.agents.length ∨
        maxAgentEvents < document.events.length then
      throw (.invalidDocument "stored agent or event count exceeds protocol limits")
    else
      checkAgents [] document.agents
      checkAll (checkParent document.agents) document.agents
      checkAll (fun event => protocol event.validate) document.events

variable (document : SessionDocument)

/-- `agent_index`. -/
def agentIndex (id : String) : StoreResult Nat :=
  match document.agents.findIdx? (·.id == id) with
  | some index => .ok index
  | none => .error (.agentNotFound id)

/-- The next event of a document. -/
def nextEvent (agentId : String) (kind : AgentEventKind)
    (detail : String) (now : Nat) : AgentEvent :=
  ⟨document.nextEventSequence, agentId, kind, detail, now⟩

/-- Add an event and drop the oldest ones beyond the limit. -/
def log (event : AgentEvent) : SessionDocument :=
  { document with
    nextEventSequence := nextU64 document.nextEventSequence
    events := (document.events ++ [event]).drop
      ((document.events ++ [event]).length - maxAgentEvents) }

/-- `push_event`. -/
def pushEvent (agentId : String) (kind : AgentEventKind)
    (detail : String) (now : Nat) : StoreResult (AgentEvent × SessionDocument) := do
  let event := document.nextEvent agentId kind detail now
  protocol event.validate
  return (event, document.log event)

/-- Change the agent at an index. -/
def changeAgent (index : Nat)
    (change : StoredAgent → StoredAgent) : SessionDocument :=
  { document with agents := document.agents.modify index change }

/-- Draw the number of a new agent. -/
def takeSequence : SessionDocument :=
  { document with nextAgentSequence := nextU64 document.nextAgentSequence }

/-- Add an agent. -/
def addAgent (agent : StoredAgent) : SessionDocument :=
  { document with agents := document.agents ++ [agent] }

/-- Count a turn of the session. -/
def countTurn : SessionDocument :=
  { document with totalTurns := nextU16 document.totalTurns }

end SessionDocument

/-- Give an agent a status. -/
def StoredAgent.setStatus (status : AgentStatus) (now : Nat) :
    StoredAgent :=
  { agent with status := status, updatedAtMillis := now }

/-- Give an agent a status and one more transcript entry. -/
def StoredAgent.record (entry : AgentTranscriptEntry)
    (status : AgentStatus) (now : Nat) : StoredAgent :=
  { agent with
    transcript := agent.transcript ++ [entry]
    status := status
    updatedAtMillis := now }

/-- Begin a turn of an agent. -/
def StoredAgent.beginTurn (entry : AgentTranscriptEntry) (now : Nat) :
    StoredAgent :=
  { agent.record entry .running now with turnsUsed := nextU16 agent.turnsUsed }

/-- The parent's depth and grants, for a spawn. -/
def parentOf (document : SessionDocument)
    (parentId : String) : StoreResult (Nat × List GrantKind) :=
  if parentId = rootAgentId then .ok (0, authority.allowedChildGrants)
  else
    match document.agents.find? (·.id == parentId) with
    | none => .error (.parentNotFound parentId)
    | some parent =>
        if parent.status = .interrupted then .error (.parentUnavailable parentId)
        else .ok (parent.depth, parent.childGrants)

/-- The agent a spawn adds. -/
def spawnedAgent (request : AgentSpawnRequest) (sequence depth now : Nat) : StoredAgent where
  id := "agent-" ++ toString sequence
  parentId := request.parentId
  name := request.name.getD ("Agent " ++ toString sequence)
  depth := depth
  status := .pending
  turnsUsed := 0
  childGrants := request.requestedChildGrants
  transcript := []
  createdAtMillis := now
  updatedAtMillis := now

/-- `spawn` between loading and saving. -/
def spawnIn (request : AgentSpawnRequest) (now : Nat)
    (document : SessionDocument) :
    StoreResult (SessionDocument × StoredAgent × AgentEvent) := do
  if authority.budget.maxAgents ≤ document.agents.length then
    throw (.agentLimitReached authority.budget.maxAgents)
  else
    let (parentDepth, parentGrants) ← parentOf authority document request.parentId
    if ¬ request.requestedChildGrants.all (parentGrants.contains ·) then
      throw .grantEscalation
    else if authority.budget.maxDepth < nextU16 parentDepth then
      throw (.depthLimitReached authority.budget.maxDepth)
    else
      let sequence := document.nextAgentSequence
      let stored := spawnedAgent request sequence (nextU16 parentDepth) now
      let (event, document) ← document.takeSequence.pushEvent stored.id .spawned
        ("spawned under " ++ request.parentId) now
      return (document.addAgent stored, stored, event)

/-- `start_turn` between loading and saving. -/
def startTurnIn (request : AgentTurnStartRequest)
    (now : Nat) (document : SessionDocument) :
    StoreResult
      (SessionDocument × AgentSnapshot × List AgentTranscriptEntry × AgentEvent) := do
  if authority.budget.maxTotalTurns ≤ document.totalTurns then
    throw (.totalTurnLimitReached authority.budget.maxTotalTurns)
  else
    let index ← document.agentIndex request.agentId
    match document.agents[index]? with
    | none => throw (.agentNotFound request.agentId)
    | some agent =>
        if agent.status = .running then throw (.alreadyRunning request.agentId)
        else if agent.status = .interrupted then throw (.interrupted request.agentId)
        else if authority.budget.maxTurnsPerAgent ≤ agent.turnsUsed then
          throw (.agentTurnLimitReached request.agentId authority.budget.maxTurnsPerAgent)
        else if maxAgentTranscriptEntries ≤ agent.transcript.length then
          throw (.transcriptLimitReached request.agentId)
        else
          let entry ← protocol (AgentTranscriptEntry.new .user request.message)
          let started := agent.beginTurn entry now
          let document := (document.changeAgent index fun _ => started).countTurn
          let (event, document) ← document.pushEvent request.agentId .turnStarted
            "child model turn started" now
          let snapshot ← started.snapshot
          return (document, snapshot, started.transcript, event)

/-- `complete_turn` between loading and saving. -/
def completeTurnIn (request : AgentTurnCompleteRequest) (now : Nat)
    (document : SessionDocument) :
    StoreResult (SessionDocument × AgentSnapshot × AgentEvent) := do
  let index ← document.agentIndex request.agentId
  match document.agents[index]? with
  | none => throw (.agentNotFound request.agentId)
  | some agent =>
      if agent.status ≠ .running then throw (.notRunning request.agentId)
      else if maxAgentTranscriptEntries ≤ agent.transcript.length then
        throw (.transcriptLimitReached request.agentId)
      else
        let entry ← protocol (AgentTranscriptEntry.new .assistant request.reply)
        let completed := agent.record entry .completed now
        let document := document.changeAgent index fun _ => completed
        let (event, document) ← document.pushEvent request.agentId .completed
          "child model turn completed" now
        let snapshot ← completed.snapshot
        return (document, snapshot, event)

/-- `fail_turn` between loading and saving. -/
def failTurnIn (request : AgentTurnFailRequest) (now : Nat) (document : SessionDocument) :
    StoreResult (SessionDocument × AgentSnapshot × AgentEvent) := do
  let index ← document.agentIndex request.agentId
  match document.agents[index]? with
  | none => throw (.agentNotFound request.agentId)
  | some agent =>
      if agent.status ≠ .running then throw (.notRunning request.agentId)
      else
        let failed := agent.setStatus .failed now
        let document := document.changeAgent index fun _ => failed
        let (event, document) ← document.pushEvent request.agentId .failed
          (request.code ++ ": " ++ request.message) now
        let snapshot ← failed.snapshot
        return (document, snapshot, event)

/-- The ids of the agents whose parent is the given one. -/
def childrenOf (parent : String) : List String :=
  (agents.filter (·.parentId == parent)).map StoredAgent.id

theorem childrenOf_within (parent : String) :
    ∀ child ∈ childrenOf agents parent, child ∈ agents.map StoredAgent.id := by
  intro child member
  obtain ⟨agent, found, same⟩ := List.mem_map.mp member
  exact List.mem_map.mpr ⟨agent, (List.mem_filter.mp found).1, same⟩

/-- The branch under an agent, which is in it. -/
def branch (id : String) : List String :=
  worklist (childrenOf agents) (agents.map StoredAgent.id) (childrenOf_within agents)
    [id] [id]

/-- The targets of an interrupt; a `BTreeSet` gives them in the order of their ids. -/
def interruptTargets (id : String) (recursive : Bool) :
    List String :=
  if recursive then (branch agents id).insertionSort (· ≤ ·) else [id]

/-- The last loop of `interrupt`. -/
def interruptEach (now : Nat) : List String → SessionDocument →
    StoreResult (SessionDocument × List AgentSnapshot × List AgentEvent)
  | [], document => .ok (document, [], [])
  | target :: rest, document => do
      let index ← document.agentIndex target
      match document.agents[index]? with
      | none => throw (.agentNotFound target)
      | some agent =>
          if agent.status = .interrupted then interruptEach now rest document
          else
            let stopped := agent.setStatus .interrupted now
            let document := document.changeAgent index fun _ => stopped
            let (event, document) ← document.pushEvent target .interrupted
              "branch interrupted by the Host" now
            let snapshot ← stopped.snapshot
            let (document, snapshots, events) ← interruptEach now rest document
            return (document, snapshot :: snapshots, event :: events)

/-- `interrupt` between loading and saving. -/
def interruptIn (request : AgentInterruptRequest) (now : Nat) (document : SessionDocument) :
    StoreResult (SessionDocument × List AgentSnapshot × List AgentEvent) := do
  discard (document.agentIndex request.agentId)
  interruptEach now (interruptTargets document.agents request.agentId request.recursive)
    document

/-- The recovery loop of `load_or_new`, over the ids of the running agents. -/
def failAbandoned (now : Nat) : List String → SessionDocument → StoreResult SessionDocument
  | [], document => .ok document
  | id :: rest, document => do
      let index ← document.agentIndex id
      let document := document.changeAgent index fun agent => agent.setStatus .failed now
      let (_, document) ← document.pushEvent id .failed
        "child turn abandoned after coordinator restart" now
      failAbandoned now rest document

/-- What a path of the session holds. -/
inductive Stored
  | absent
  | unreadable
  | document (document : SessionDocument)
  deriving DecidableEq, Repr

/-- The state file of a session and its backup. -/
structure Files where
  primary : Stored
  backup : Stored
  deriving DecidableEq, Repr

/-- `load_document_at`. -/
def Stored.load : Stored → StoreResult (Option SessionDocument)
  | .absent => .ok none
  | .unreadable => .error .unreadable
  | .document stored => .ok (some stored)

/-- `load_document`. -/
def Files.load (files : Files) : StoreResult (Option SessionDocument) :=
  match files.primary.load with
  | .ok (some document) => .ok (some document)
  | .ok none => files.backup.load
  | .error primaryError =>
      match files.backup.load with
      | .ok (some document) => .ok (some document)
      | .ok none | .error _ => .error primaryError

/-- `CoordinatorStore`, with what `from_grant` has checked.  `stateEscapes` says that the
directory of the state lies outside the granted workspace. -/
structure CoordinatorStore where
  instanceId : String
  authority : AgentDelegationGrant
  stateEscapes : Bool
  authorityValid : authority.validate = .ok ()
  instanceValid : validateInstanceId instanceId = .ok ()

/-- The size of a document's file: the length of its JSON text and a line feed. -/
abbrev Encoder := SessionDocument → Nat

/-- Programs on the files of a session. -/
abbrev StoreM (α : Type) := Fallible Files MultiAgentStoreError α

namespace CoordinatorStore

variable (store : CoordinatorStore)

/-- `require_matching_authority`. -/
def requireMatchingAuthority (authority : AgentDelegationGrant) :
    StoreResult Unit := do
  protocol authority.validate
  if authority.sessionId ≠ store.authority.sessionId ∨
      authority.workspaceRoot ≠ store.authority.workspaceRoot ∨
      store.authority.budget.contains authority.budget = false ∨
      store.authority.permits authority.allowedChildGrants = false then
    throw .authorityMismatch
  else pure ()

/-- `require_write`. -/
def requireWrite : StoreResult Unit :=
  if store.authority.allowsNextWrite then .ok () else .error .writeNotGranted

variable (size : Encoder)

/-- The checks of `save`. -/
def checkSave (document : SessionDocument) :
    StoreResult Unit := do
  store.requireWrite
  document.validate
  if store.stateEscapes then throw .workspaceEscape
  else if maxDocumentBytes < size document then throw (.documentTooLarge maxDocumentBytes)
  else pure ()

/-- `save`: the file is replaced whole and its backup removed. -/
def save (document : SessionDocument) :
    StoreM Unit := do
  Fallible.ofExcept (store.checkSave size document)
  modify fun _ => ⟨.document document, .absent⟩

/-- The check of `load_or_new` that the store does not ask for more than is stored. -/
def fits (document : SessionDocument) : Bool :=
  document.sessionId == store.authority.sessionId &&
    document.budget.contains store.authority.budget &&
    store.authority.allowedChildGrants.all (document.allowedChildGrants.contains ·)

/-- The recovery of `load_or_new`. -/
def recover (now : Nat) (document : SessionDocument) :
    StoreResult SessionDocument := do
  let running := (document.agents.filter (·.status == .running)).map StoredAgent.id
  let document ← failAbandoned now running document
  return { document with coordinatorInstanceId := store.instanceId }

/-- `load_or_new`. -/
def loadOrNew (now : Nat) :
    StoreM SessionDocument := do
  let files ← get
  match ← Fallible.ofExcept files.load with
  | none => return SessionDocument.new store.authority store.instanceId
  | some document => do
      Fallible.ofExcept document.validate
      Fallible.throwIf (store.fits document = false) .authorityEscalation
      if document.coordinatorInstanceId = store.instanceId then return document
      else
        let recovered ← Fallible.ofExcept (store.recover now document)
        if store.authority.allowsNextWrite then
          store.save size recovered
          return recovered
        else return recovered

variable (loadedAt : Nat)

/-- What the five operations that change the graph do: check, load, change a copy, save
it, and make a result of the change. -/
def operate {ρ α : Type}
    (grant : AgentDelegationGrant) (valid : Except AgentProtocolError Unit)
    (change : SessionDocument → StoreResult (SessionDocument × ρ))
    (finish : ρ → StoreResult α) : StoreM α := do
  Fallible.ofExcept (store.requireMatchingAuthority grant)
  Fallible.ofExcept (protocol valid)
  Fallible.ofExcept store.requireWrite
  let loaded ← store.loadOrNew size loadedAt
  let (document, made) ← Fallible.ofExcept (change loaded)
  store.save size document
  Fallible.ofExcept (finish made)

/-- `spawn`. -/
def spawn (now : Nat)
    (request : AgentSpawnRequest) : StoreM AgentSpawnResult :=
  store.operate size loadedAt request.grant request.validate
    (spawnIn store.authority request now) fun (stored, event) => do
      let snapshot ← stored.snapshot
      return ⟨snapshot, event⟩

/-- `start_turn`. -/
def startTurn (now : Nat)
    (request : AgentTurnStartRequest) : StoreM AgentTurnStartResult :=
  store.operate size loadedAt request.grant request.validate
    (startTurnIn store.authority request now) fun (snapshot, transcript, event) =>
      protocol (AgentTurnStartResult.new snapshot transcript event)

/-- `complete_turn`. -/
def completeTurn (now : Nat)
    (request : AgentTurnCompleteRequest) : StoreM AgentMutationResult :=
  store.operate size loadedAt request.grant request.validate
    (completeTurnIn request now) fun (snapshot, event) =>
      protocol (AgentMutationResult.new [snapshot] [event])

/-- `fail_turn`. -/
def failTurn (now : Nat)
    (request : AgentTurnFailRequest) : StoreM AgentMutationResult :=
  store.operate size loadedAt request.grant request.validate
    (failTurnIn request now) fun (snapshot, event) =>
      protocol (AgentMutationResult.new [snapshot] [event])

/-- `interrupt`. -/
def interrupt (now : Nat)
    (request : AgentInterruptRequest) : StoreM AgentMutationResult :=
  store.operate size loadedAt request.grant request.validate
    (interruptIn request now) fun (snapshots, events) =>
      protocol (AgentMutationResult.new snapshots events)

/-- `list`. -/
def list : StoreM AgentListResult := do
  let document ← store.loadOrNew size loadedAt
  let agents ← Fallible.ofExcept (document.agents.mapM StoredAgent.snapshot)
  Fallible.ofExcept (protocol (AgentListResult.new
    { budget := store.authority.budget
      agents := agents
      events := document.events
      totalTurns := document.totalTurns
      truncated := document.events.length < document.nextEventSequence - 1 }))

end CoordinatorStore

/-- A call of one of the functions of a store. -/
inductive StoreCall
  | spawn (now : Nat) (request : AgentSpawnRequest)
  | startTurn (now : Nat) (request : AgentTurnStartRequest)
  | completeTurn (now : Nat) (request : AgentTurnCompleteRequest)
  | failTurn (now : Nat) (request : AgentTurnFailRequest)
  | interrupt (now : Nat) (request : AgentInterruptRequest)
  | list
  deriving DecidableEq, Repr

/-- A call, with the store it is made on and the time the document is loaded.  Restarting
the coordinator is going on with another store. -/
structure StoreAction where
  store : CoordinatorStore
  loadedAt : Nat
  call : StoreCall

/-- Make the call. -/
def StoreAction.perform (size : Encoder) (action : StoreAction) : StoreM Unit :=
  match action.call with
  | .spawn now request => discard (action.store.spawn size action.loadedAt now request)
  | .startTurn now request =>
      discard (action.store.startTurn size action.loadedAt now request)
  | .completeTurn now request =>
      discard (action.store.completeTurn size action.loadedAt now request)
  | .failTurn now request => discard (action.store.failTurn size action.loadedAt now request)
  | .interrupt now request =>
      discard (action.store.interrupt size action.loadedAt now request)
  | .list => discard (action.store.list size action.loadedAt)

/-- The files after a call, which may have failed. -/
def storeStep (size : Encoder) (files : Files) (action : StoreAction) : Files :=
  ((action.perform size).exec files).2

end MultiAgent
end YunXi
