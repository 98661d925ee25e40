import YunXi.MultiAgent.Graph

/-!
# Interrupting a branch

A recursive interrupt stops the named agent and every agent reached from it through
parent links, whatever graph the links form, and nothing else.  An interrupted agent
then stays as it is: no call changes it, and no agent is added under it.
-/

namespace YunXi
namespace MultiAgent

/-- The second agent is reached from the first through parent links. -/
def InBranch (agents : List StoredAgent) : String → String → Prop :=
  Relation.ReflTransGen fun parent child =>
    ∃ agent ∈ agents, agent.id = child ∧ agent.parentId = parent

variable {agents : List StoredAgent}

theorem mem_childrenOf {parent child : String} :
    child ∈ childrenOf agents parent ↔
      ∃ agent ∈ agents, agent.id = child ∧ agent.parentId = parent := by
  simp only [childrenOf, List.mem_map, List.mem_filter, beq_iff_eq]
  constructor
  · rintro ⟨agent, ⟨member, parentId⟩, id⟩
    exact ⟨agent, member, id, parentId⟩
  · rintro ⟨agent, member, id, parentId⟩
    exact ⟨agent, ⟨member, parentId⟩, id⟩

theorem mem_interruptTargets {id other : String} :
    other ∈ interruptTargets agents id true ↔ InBranch agents id other := by
  have sameRelation : (fun parent child => child ∈ childrenOf agents parent) =
      fun parent child => ∃ agent ∈ agents, agent.id = child ∧ agent.parentId = parent := by
    funext parent child
    exact propext mem_childrenOf
  rw [interruptTargets, if_pos rfl, List.mem_insertionSort, branch, mem_worklist_iff,
    sameRelation]
  rfl

theorem nodup_interruptTargets (agents : List StoredAgent) (id : String) (recursive : Bool) :
    (interruptTargets agents id recursive).Nodup := by
  unfold interruptTargets
  split
  · rw [(List.perm_insertionSort _ _).nodup_iff]
    exact nodup_worklist _ id
  · exact List.nodup_singleton id

/-- Everything reached from an agent of the document is one. -/
theorem interruptTargets_subset {id : String}
    (present : id ∈ agents.map StoredAgent.id) :
    interruptTargets agents id true ⊆ agents.map StoredAgent.id := by
  intro other member
  rw [mem_interruptTargets] at member
  induction member with
  | refl => exact present
  | tail _ link _ =>
      obtain ⟨agent, found, rfl, -⟩ := link
      exact List.mem_map_of_mem found

/-- Stop the agents with some ids that are not stopped yet. -/
def stopAgents (ids : List String) (now : Nat) (agents : List StoredAgent) :
    List StoredAgent :=
  agents.map fun agent =>
    if agent.id ∈ ids ∧ agent.status ≠ .interrupted then agent.setStatus .interrupted now
    else agent

/-- An agent with the id is not stopped yet. -/
def alive (agents : List StoredAgent) (id : String) : Bool :=
  agents.any fun agent => agent.id == id && agent.status != .interrupted

/-- The newest events, as many as a document keeps. -/
def newestEvents (events : List AgentEvent) : List AgentEvent :=
  events.drop (events.length - maxAgentEvents)

theorem length_newestEvents (events : List AgentEvent) :
    (newestEvents events).length ≤ maxAgentEvents := by
  rw [newestEvents, List.length_drop]
  omega

theorem SessionDocument.log_events (document : SessionDocument) (event : AgentEvent) :
    (document.log event).events = newestEvents (document.events ++ [event]) := by
  simp only [SessionDocument.log, newestEvents]

theorem newestEvents_append (events later : List AgentEvent) (event : AgentEvent) :
    newestEvents (newestEvents (events ++ [event]) ++ later) =
      newestEvents (events ++ event :: later) := by
  have split : events ++ event :: later = (events ++ [event]) ++ later := by simp
  have dropped : (events ++ [event]).length - maxAgentEvents ≤ (events ++ [event]).length :=
    Nat.sub_le _ _
  unfold newestEvents
  rw [split, ← List.drop_append_of_le_length dropped, List.drop_drop]
  apply congrArg (fun count => List.drop count (events ++ [event] ++ later))
  simp only [List.length_drop, List.length_append, List.length_singleton]
  omega

variable {agent : StoredAgent} {events : List AgentEvent} {snapshots : List AgentSnapshot}
  {now : Nat} {after : SessionDocument} {index : Nat}

section Loop

variable {document : SessionDocument}

theorem agentIndex_of_mem {id : String} (present : id ∈ document.agents.map StoredAgent.id) :
    ∃ index agent, document.agentIndex id = .ok index ∧
      document.agents[index]? = some agent ∧ agent.id = id := by
  cases located : document.agentIndex id with
  | ok index =>
      obtain ⟨agent, found, same⟩ := agentIndex_eq_ok located
      exact ⟨index, agent, rfl, found, same⟩
  | error error =>
      exfalso
      unfold SessionDocument.agentIndex at located
      split at located
      · cases located
      · case h_2 missing =>
          obtain ⟨agent, member, rfl⟩ := List.mem_map.mp present
          have differs := List.findIdx?_eq_none_iff.mp missing agent member
          simp at differs

theorem nextU64_pos (value : Nat) : 0 < nextU64 value := by
  unfold nextU64
  omega

/-- An event with a number, an id and a text is logged. -/
theorem pushEvent_of_valid {agentId detail : String} (kind : AgentEventKind) (now : Nat)
    (numbered : document.nextEventSequence ≠ 0) (validId : validateAgentId agentId = .ok ())
    (validDetail : validateText "agent event detail" detail maxAgentDetailBytes = .ok ()) :
    (document.nextEvent agentId kind detail now).validate = .ok () ∧
      document.pushEvent agentId kind detail now =
        .ok (document.nextEvent agentId kind detail now,
          document.log (document.nextEvent agentId kind detail now)) := by
  have valid : (document.nextEvent agentId kind detail now).validate = .ok () := by
    unfold AgentEvent.validate
    rw [Except.ite_throw_eq_ok, Except.bind_eq_ok]
    exact ⟨numbered, (), validId, validDetail⟩
  refine ⟨valid, ?_⟩
  simp only [SessionDocument.pushEvent, valid, protocol]
  rfl

/-- Stopping an agent does not make it invalid. -/
theorem StoredAgent.setStatus_valid (status : AgentStatus) (now : Nat)
    (valid : agent.validate = .ok ()) :
    (agent.setStatus status now).validate = .ok () ∧
      (agent.setStatus status now).snapshot = .ok (agent.setStatus status now).view ∧
      validateAgentId agent.id = .ok () := by
  have taken := (StoredAgent.validate_eq_ok valid).1
  simp only [StoredAgent.snapshot, protocol, Except.bind_eq_ok, Except.mapError_eq_ok] at taken
  obtain ⟨_, validView, -⟩ := taken
  have snapshot : (agent.setStatus status now).snapshot =
      .ok (agent.setStatus status now).view := by
    simp only [StoredAgent.snapshot, protocol, Except.bind_eq_ok, Except.mapError_eq_ok]
    exact ⟨(), validView, rfl⟩
  simp only [StoredAgent.validate, Except.bind_eq_ok] at valid ⊢
  obtain ⟨_, -, entries⟩ := valid
  refine ⟨⟨(), Except.discard_eq_ok.mpr ⟨_, snapshot⟩, entries⟩, snapshot, ?_⟩
  simp only [AgentSnapshot.validate, Except.bind_eq_ok] at validView
  obtain ⟨_, validId, -⟩ := validView
  exact validId

/-- What the last loop of an interrupt does. -/
structure LoopEnd (targets : List String) (now : Nat) (before after : SessionDocument)
    (snapshots : List AgentSnapshot) (events : List AgentEvent) : Prop where
  agents : after.agents = stopAgents targets now before.agents
  named : events.map AgentEvent.agentId = targets.filter (alive before.agents)
  kinds : ∀ event ∈ events, event.kind = .interrupted ∧ event.validate = .ok ()
  logged : newestEvents after.events = newestEvents (before.events ++ events)
  few : before.events.length ≤ maxAgentEvents → after.events.length ≤ maxAgentEvents
  numbered : after.nextEventSequence ≠ 0
  instanceId : after.coordinatorInstanceId = before.coordinatorInstanceId
  frame : SameFrame before after

/-- An agent that is stopped already is no target. -/
theorem LoopEnd.skip {target : String} {rest : List String}
    (stopped : ∀ agent ∈ document.agents, agent.id = target → agent.status = .interrupted)
    (ended : LoopEnd rest now document after snapshots events) :
    LoopEnd (target :: rest) now document after snapshots events where
  agents := by
    rw [ended.agents, stopAgents, stopAgents]
    apply List.map_congr_left
    intro agent member
    by_cases same : agent.id = target
    · simp [stopped agent member same]
    · simp [same]
  named := by
    have dead : alive document.agents target = false := by
      simp only [alive, List.any_eq_false, Bool.and_eq_true, beq_iff_eq, bne_iff_ne, not_and,
        not_not]
      exact stopped
    rw [ended.named, List.filter_cons_of_neg (by simp [dead])]
  kinds := ended.kinds
  logged := ended.logged
  few := ended.few
  numbered := ended.numbered
  instanceId := ended.instanceId
  frame := ended.frame

/-- Stop one agent. -/
def SessionDocument.stop (document : SessionDocument) (index : Nat) (agent : StoredAgent)
    (now : Nat) : SessionDocument :=
  (document.changeAgent index fun _ => agent.setStatus .interrupted now).log
    (document.nextEvent agent.id .interrupted "branch interrupted by the Host" now)

theorem stop_agents (now : Nat)
    (distinct : (document.agents.map StoredAgent.id).Nodup)
    (found : document.agents[index]? = some agent) :
    (document.stop index agent now).agents = document.agents.map fun other =>
      if other.id = agent.id then agent.setStatus .interrupted now else other := by
  change document.agents.modify index _ = _
  rw [modify_eq_map distinct found]

theorem stop_ids (now : Nat)
    (distinct : (document.agents.map StoredAgent.id).Nodup)
    (found : document.agents[index]? = some agent) :
    (document.stop index agent now).agents.map StoredAgent.id =
      document.agents.map StoredAgent.id := by
  rw [stop_agents now distinct found, List.map_map]
  apply List.map_congr_left
  intro other _
  by_cases same : other.id = agent.id <;> simp [same, StoredAgent.setStatus]

theorem stop_valid (now : Nat)
    (distinct : (document.agents.map StoredAgent.id).Nodup)
    (found : document.agents[index]? = some agent)
    (valid : ∀ agent ∈ document.agents, agent.validate = .ok ()) :
    ∀ other ∈ (document.stop index agent now).agents, other.validate = .ok () := by
  intro other member
  rw [stop_agents now distinct found] at member
  obtain ⟨original, present, rfl⟩ := List.mem_map.mp member
  split
  · have validAgent := valid agent (List.mem_iff_getElem?.mpr ⟨index, found⟩)
    exact (StoredAgent.setStatus_valid .interrupted now validAgent).1
  · exact valid original present

/-- The loop goes on after a target that it has stopped. -/
theorem LoopEnd.next {rest : List String}
    (distinct : (document.agents.map StoredAgent.id).Nodup)
    (found : document.agents[index]? = some agent) (fresh : agent.id ∉ rest)
    (running : agent.status ≠ .interrupted)
    (valid : (document.nextEvent agent.id .interrupted "branch interrupted by the Host"
      now).validate = .ok ())
    (ended : LoopEnd rest now (document.stop index agent now) after snapshots events) :
    LoopEnd (agent.id :: rest) now document after
      ((agent.setStatus .interrupted now).view :: snapshots)
      (document.nextEvent agent.id .interrupted "branch interrupted by the Host" now ::
        events) where
  agents := by
    have member : agent ∈ document.agents := List.mem_iff_getElem?.mpr ⟨index, found⟩
    rw [ended.agents, stop_agents now distinct found, stopAgents, stopAgents, List.map_map]
    apply List.map_congr_left
    intro other present
    by_cases same : other.id = agent.id
    · have twin : other = agent := List.inj_on_of_nodup_map distinct present member same
      subst twin
      simp [running, StoredAgent.setStatus]
    · simp [same]
  named := by
    have member : agent ∈ document.agents := List.mem_iff_getElem?.mpr ⟨index, found⟩
    have isAlive : alive document.agents agent.id = true := by
      simp only [alive, List.any_eq_true, Bool.and_eq_true, beq_iff_eq, bne_iff_ne]
      exact ⟨agent, member, rfl, running⟩
    rw [List.map_cons, ended.named, List.filter_cons_of_pos isAlive]
    congr 1
    apply List.filter_congr
    intro id listed
    have differs : agent.id ≠ id := fun same => fresh (same ▸ listed)
    rw [stop_agents now distinct found, alive, alive, List.any_map]
    apply List.any_congr rfl
    intro other
    by_cases same : other.id = agent.id
    · simp [same, differs, StoredAgent.setStatus]
    · simp [same]
  kinds := by
    intro event member
    rcases List.mem_cons.mp member with first | later
    · rw [first]
      exact ⟨rfl, valid⟩
    · exact ended.kinds event later
  logged := by
    rw [ended.logged, SessionDocument.stop, SessionDocument.log_events]
    exact newestEvents_append _ _ _
  few := by
    intro _
    apply ended.few
    rw [SessionDocument.stop, SessionDocument.log_events]
    exact length_newestEvents _
  numbered := ended.numbered
  instanceId := ended.instanceId
  frame := ⟨ended.frame.version, ended.frame.sessionId, ended.frame.budget,
    ended.frame.allowed, ended.frame.turns, ended.frame.sequence⟩

theorem interruptEach_spec (targets : List String) (now : Nat)
    (distinctTargets : targets.Nodup)
    (distinct : (document.agents.map StoredAgent.id).Nodup)
    (valid : ∀ agent ∈ document.agents, agent.validate = .ok ())
    (numbered : document.nextEventSequence ≠ 0)
    (present : targets ⊆ document.agents.map StoredAgent.id) :
    ∃ after snapshots events,
      interruptEach now targets document = .ok (after, snapshots, events) ∧
      LoopEnd targets now document after snapshots events := by
  induction targets generalizing document with
  | nil =>
      refine ⟨document, [], [], rfl, ?_, rfl, ?_, ?_, id, numbered, rfl,
        rfl, rfl, rfl, rfl, rfl, rfl⟩
      · simp [stopAgents]
      · simp
      · rw [List.append_nil]
  | cons target rest ih =>
      obtain ⟨fresh, distinctRest⟩ := List.nodup_cons.mp distinctTargets
      obtain ⟨targetPresent, restPresent⟩ := List.cons_subset.mp present
      obtain ⟨index, agent, located, found, rfl⟩ := agentIndex_of_mem targetPresent
      have member : agent ∈ document.agents := List.mem_iff_getElem?.mpr ⟨index, found⟩
      by_cases stopped : agent.status = .interrupted
      · obtain ⟨after, snapshots, events, loops, ended⟩ :=
          ih distinctRest distinct valid numbered restPresent
        refine ⟨after, snapshots, events, ?_, ended.skip ?_⟩
        · simp only [interruptEach, located]
          rw [Except.bind_eq_ok]
          refine ⟨index, rfl, ?_⟩
          simp only [found, if_pos stopped]
          exact loops
        · intro other otherMember same
          rwa [List.inj_on_of_nodup_map distinct otherMember member same]
      · obtain ⟨_, validSnapshot, validId⟩ :=
          StoredAgent.setStatus_valid .interrupted now (valid agent member)
        have validDetail : validateText "agent event detail" "branch interrupted by the Host"
            maxAgentDetailBytes = .ok () := by decide
        have changedNumber : (document.changeAgent index fun _ =>
            agent.setStatus .interrupted now).nextEventSequence ≠ 0 := numbered
        obtain ⟨validEvent, pushed⟩ :=
          pushEvent_of_valid .interrupted now changedNumber validId validDetail
        have stoppedIds := stop_ids now distinct found
        obtain ⟨after, snapshots, events, loops, ended⟩ := ih distinctRest
          (stoppedIds ▸ distinct) (stop_valid now distinct found valid)
          (Nat.ne_of_gt (nextU64_pos _)) (stoppedIds ▸ restPresent)
        refine ⟨after, _, _, ?_, ended.next distinct found fresh stopped validEvent⟩
        simp only [interruptEach, located]
        rw [Except.bind_eq_ok]
        refine ⟨index, rfl, ?_⟩
        simp only [found, if_neg stopped, pushed, validSnapshot]
        rw [Except.bind_eq_ok]
        refine ⟨_, rfl, ?_⟩
        rw [Except.bind_eq_ok]
        refine ⟨_, rfl, ?_⟩
        rw [Except.bind_eq_ok]
        exact ⟨_, loops, rfl⟩

end Loop

theorem stopAgents_getElem? {targets : List String}
    (found : agents[index]? = some agent) :
    (stopAgents targets now agents)[index]? =
      some (if agent.id ∈ targets ∧ agent.status ≠ .interrupted
        then agent.setStatus .interrupted now else agent) := by
  rw [stopAgents, List.getElem?_map, found]
  rfl

/-- Stopping agents keeps what does not depend on their status. -/
theorem map_stopAgents {α : Type} (view : StoredAgent → α) (targets : List String)
    (now : Nat) (agents : List StoredAgent)
    (same : ∀ agent : StoredAgent, view (agent.setStatus .interrupted now) = view agent) :
    (stopAgents targets now agents).map view = agents.map view := by
  rw [stopAgents, List.map_map]
  apply List.map_congr_left
  intro agent _
  simp only [Function.comp_apply]
  split
  · exact same agent
  · rfl

theorem newestEvents_of_few (few : events.length ≤ maxAgentEvents) :
    newestEvents events = events := by
  rw [newestEvents, Nat.sub_eq_zero_of_le few, List.drop_zero]

/-- An interrupt leaves a valid document valid. -/
theorem LoopEnd.valid {targets : List String} {before : SessionDocument}
    (ended : LoopEnd targets now before after snapshots events)
    (valid : before.validate = .ok ()) :
    after.validate = .ok () ∧ after.events = newestEvents (before.events ++ events) := by
  simp only [SessionDocument.validate, Except.ite_throw_eq_ok, Except.bind_eq_ok, protocol,
    Except.mapError_eq_ok, not_or] at valid ⊢
  obtain ⟨version, _, budget, _, instanceId, ⟨agentNumber, -⟩, ⟨count, fewEvents⟩, _, agents,
    _, parents, validEvents⟩ := valid
  obtain ⟨validAgents, distinct, -⟩ := checkAgents_eq_ok.mp agents
  have few := ended.few (Nat.le_of_not_lt fewEvents)
  have logged : after.events = newestEvents (before.events ++ events) := by
    rw [← ended.logged, newestEvents_of_few few]
  have sameIds : after.agents.map StoredAgent.id = before.agents.map StoredAgent.id := by
    rw [ended.agents]
    exact map_stopAgents StoredAgent.id targets now _ fun _ => rfl
  have sameLength : after.agents.length = before.agents.length := by
    rw [ended.agents, stopAgents, List.length_map]
  refine ⟨⟨?_, (), ?_, (), ?_, ⟨?_, ended.numbered⟩, ⟨?_, Nat.not_lt.mpr few⟩, (), ?_, (), ?_,
    ?_⟩, logged⟩
  · rw [ended.frame.version]
    exact version
  · rw [ended.frame.budget]
    exact budget
  · rw [ended.instanceId]
    exact instanceId
  · rw [ended.frame.sequence]
    exact agentNumber
  · rw [sameLength]
    exact count
  · refine checkAgents_eq_ok.mpr ⟨?_, sameIds ▸ distinct, fun _ _ => List.not_mem_nil⟩
    intro agent member
    rw [ended.agents] at member
    obtain ⟨original, present, rfl⟩ := List.mem_map.mp member
    split
    · exact (StoredAgent.setStatus_valid .interrupted now (validAgents original present)).1
    · exact validAgents original present
  · rw [checkAll_eq_ok] at parents ⊢
    intro agent member
    rw [ended.agents] at member
    obtain ⟨original, present, same⟩ := List.mem_map.mp member
    have sameNames : agent.id = original.id ∧ agent.parentId = original.parentId := by
      rw [← same]
      split <;> exact ⟨rfl, rfl⟩
    have checked := parents original present
    unfold checkParent at checked ⊢
    rwa [sameIds, sameNames.1, sameNames.2]
  · rw [checkAll_eq_ok] at validEvents ⊢
    intro event member
    rw [logged] at member
    rcases List.mem_append.mp (List.mem_of_mem_drop member) with old | new
    · exact validEvents event old
    · exact Except.mapError_eq_ok.mpr (ended.kinds event new).2

/-- What a recursive interrupt does to a document: the agents of the branch that were not
stopped before are, each with one event, and nothing else changes. -/
structure BranchStopped (id : String) (now : Nat) (before after : SessionDocument)
    (events : List AgentEvent) : Prop where
  count : after.agents.length = before.agents.length
  stopped : ∀ (index : Nat) (agent : StoredAgent), before.agents[index]? = some agent →
    InBranch before.agents id agent.id → agent.status ≠ .interrupted →
      after.agents[index]? = some (agent.setStatus .interrupted now)
  others : ∀ (index : Nat) (agent : StoredAgent), before.agents[index]? = some agent →
    ¬ InBranch before.agents id agent.id ∨ agent.status = .interrupted →
      after.agents[index]? = some agent
  once : (events.map AgentEvent.agentId).Nodup
  named : ∀ other, other ∈ events.map AgentEvent.agentId ↔
    InBranch before.agents id other ∧
      ∃ agent ∈ before.agents, agent.id = other ∧ agent.status ≠ .interrupted
  kinds : ∀ event ∈ events, event.kind = .interrupted
  logged : after.events = newestEvents (before.events ++ events)
  frame : SameFrame before after

theorem interruptIn_spec {request : AgentInterruptRequest} (now : Nat)
    {document : SessionDocument} (valid : document.validate = .ok ())
    (recursive : request.recursive = true)
    (present : request.agentId ∈ document.agents.map StoredAgent.id) :
    ∃ after snapshots events,
      interruptIn request now document = .ok (after, snapshots, events) ∧
      after.validate = .ok () ∧
      BranchStopped request.agentId now document after events := by
  have checked := SessionDocument.validate_eq_ok valid
  have targets := interruptTargets_subset present
  obtain ⟨after, snapshots, events, loops, ended⟩ := interruptEach_spec
    (interruptTargets document.agents request.agentId true) now
    (nodup_interruptTargets _ _ _) checked.distinct checked.agents checked.sequence targets
  obtain ⟨validAfter, logged⟩ := ended.valid valid
  refine ⟨after, snapshots, events, ?_, validAfter, ?_⟩
  · obtain ⟨index, agent, located, -, -⟩ := agentIndex_of_mem present
    rw [interruptIn, recursive, located]
    exact loops
  · constructor
    · rw [ended.agents, stopAgents, List.length_map]
    · intro index agent found inBranch running
      rw [ended.agents, stopAgents_getElem? found,
        if_pos ⟨mem_interruptTargets.mpr inBranch, running⟩]
    · intro index agent found spared
      rw [ended.agents, stopAgents_getElem? found, if_neg]
      rintro ⟨target, running⟩
      rcases spared with outside | stopped
      · exact outside (mem_interruptTargets.mp target)
      · exact running stopped
    · rw [ended.named]
      exact (nodup_interruptTargets _ _ _).filter _
    · intro other
      rw [ended.named, List.mem_filter, mem_interruptTargets]
      simp [alive]
    · exact fun event member => (ended.kinds event member).1
    · exact logged
    · exact ended.frame

variable {store : CoordinatorStore} {loaded : SessionDocument}

/-- What is loaded for a store that may write is valid. -/
theorem LoadEnd.valid {loadedAt : Nat} {files final : Files}
    (ended : LoadEnd store loadedAt files loaded final)
    (writable : store.authority.allowsNextWrite = true) (inhabited : loaded.agents ≠ []) :
    loaded.validate = .ok () := by
  cases ended with
  | fresh => exact absurd rfl inhabited
  | same _ _ valid => exact valid
  | recovered _ _ _ _ _ _ _ _ written =>
      rcases written with ⟨mayNotWrite, -⟩ | ⟨valid, -⟩
      · rw [writable] at mayNotWrite
        cases mayNotWrite
      · exact valid

/-- Saving a valid document. -/
theorem save_exec (size : Encoder) {document : SessionDocument}
    (files : Files) (writable : store.requireWrite = .ok ())
    (valid : document.validate = .ok ()) :
    (store.save size document).exec files =
      if store.stateEscapes then (.error .workspaceEscape, files)
      else if maxDocumentBytes < size document then
        (.error (.documentTooLarge maxDocumentBytes), files)
      else (.ok (), ⟨.document document, .absent⟩) := by
  simp only [CoordinatorStore.save, CoordinatorStore.checkSave, writable, valid, bind,
    Except.bind]
  by_cases escapes : store.stateEscapes = true
  · rw [if_pos escapes, if_pos escapes]
    rfl
  · rw [if_neg escapes, if_neg escapes]
    by_cases tooLarge : maxDocumentBytes < size document
    · rw [if_pos tooLarge, if_pos tooLarge]
      rfl
    · rw [if_neg tooLarge, if_neg tooLarge]
      rfl

/-- An accepted recursive interrupt ends: it stops the branch and saves the document,
unless the file would be too large or lie outside the workspace. -/
theorem interrupt_exec {size : Encoder} {loadedAt : Nat}
    {request : AgentInterruptRequest} {files middle : Files}
    (matching : store.requireMatchingAuthority request.grant = .ok ())
    (valid : request.validate = .ok ()) (writable : store.requireWrite = .ok ())
    (loads : (store.loadOrNew size loadedAt).exec files = (.ok loaded, middle))
    (recursive : request.recursive = true)
    (present : request.agentId ∈ loaded.agents.map StoredAgent.id) :
    ∃ after made, BranchStopped request.agentId now loaded after made.events ∧
      (store.interrupt size loadedAt now request).exec files =
        if store.stateEscapes then (.error .workspaceEscape, middle)
        else if maxDocumentBytes < size after then
          (.error (.documentTooLarge maxDocumentBytes), middle)
        else (.ok made, ⟨.document after, .absent⟩) := by
  have mayWrite : store.authority.allowsNextWrite = true := by
    unfold CoordinatorStore.requireWrite at writable
    split at writable
    · assumption
    · cases writable
  have loadEnd : LoadEnd store loadedAt files loaded middle :=
    (Fallible.of_wp (loadOrNew_spec store size loadedAt files) loads).1 loaded rfl
  have inhabited : loaded.agents ≠ [] := by
    intro empty
    simp [empty] at present
  obtain ⟨after, snapshots, events, changes, validAfter, stopped⟩ :=
    interruptIn_spec now (loadEnd.valid mayWrite inhabited) recursive present
  have each := changes
  simp only [interruptIn, Except.bind_eq_ok] at each
  obtain ⟨_, -, each⟩ := each
  have finishes := interrupt_result (SessionDocument.validate_eq_ok validAfter) each
  refine ⟨after, ⟨snapshots, events⟩, stopped, ?_⟩
  have validRequest : protocol request.validate = .ok () :=
    Except.mapError_eq_ok.mpr valid
  have saves := save_exec size middle writable validAfter
  simp only [CoordinatorStore.interrupt, CoordinatorStore.operate, Fallible.exec_bind,
    Fallible.exec_ofExcept, matching, validRequest, writable, loads, changes, saves]
  by_cases escapes : store.stateEscapes = true
  · simp [escapes]
  · by_cases tooLarge : maxDocumentBytes < size after
    · simp [escapes, tooLarge]
    · simp [escapes, tooLarge, finishes]

/-- Interrupted agents are as they were and have no new children.  An agent under the
name of the session itself is not told apart from the session, which may have new ones. -/
structure Absorbed (before after : SessionDocument) : Prop where
  kept : ∀ (index : Nat) (agent : StoredAgent), before.agents[index]? = some agent →
    agent.status = .interrupted → after.agents[index]? = some agent
  childless : ∀ agent ∈ before.agents, agent.status = .interrupted →
    agent.id ≠ rootAgentId →
      childrenOf after.agents agent.id = childrenOf before.agents agent.id

theorem Absorbed.refl (document : SessionDocument) : Absorbed document document :=
  ⟨fun _ _ found _ => found, fun _ _ _ _ => rfl⟩

theorem Absorbed.trans {first second third : SessionDocument}
    (earlier : Absorbed first second) (later : Absorbed second third) :
    Absorbed first third where
  kept index agent found stopped :=
    later.kept index agent (earlier.kept index agent found stopped) stopped
  childless agent member stopped named := by
    obtain ⟨index, found⟩ := List.mem_iff_getElem?.mp member
    have stays : agent ∈ second.agents :=
      List.mem_iff_getElem?.mpr ⟨index, earlier.kept index agent found stopped⟩
    rw [later.childless agent stays stopped named,
      earlier.childless agent member stopped named]

section Absorbing

variable {document after : SessionDocument}

theorem map_modify_const {α : Type} {changed : StoredAgent}
    (view : StoredAgent → α) (found : document.agents[index]? = some agent)
    (same : view changed = view agent) :
    (document.agents.modify index fun _ => changed).map view = document.agents.map view := by
  rw [modify_const_eq_set _ found]
  exact map_set_of_eq view found same

/-- Children are found by the links alone. -/
theorem childrenOf_eq (agents : List StoredAgent) (parent : String) :
    childrenOf agents parent =
      ((agents.map fun agent => (agent.id, agent.parentId)).filter
        (·.2 == parent)).map Prod.fst := by
  rw [List.filter_map, List.map_map]
  rfl

/-- Changing an agent that is not interrupted touches no interrupted agent. -/
theorem absorbed_changeAgent (changed : StoredAgent)
    (found : document.agents[index]? = some agent) (active : agent.status ≠ .interrupted)
    (sameLinks : (changed.id, changed.parentId) = (agent.id, agent.parentId))
    (agents : after.agents = document.agents.modify index fun _ => changed) :
    Absorbed document after where
  kept position other atPosition stopped := by
    have elsewhere : index ≠ position := by
      rintro rfl
      rw [found, Option.some.injEq] at atPosition
      rw [atPosition] at active
      exact active stopped
    rw [agents, List.getElem?_modify, atPosition]
    simp [elsewhere]
  childless other _ _ _ := by
    rw [childrenOf_eq, childrenOf_eq, agents,
      map_modify_const (fun agent => (agent.id, agent.parentId)) found sameLinks]

/-- The ids of the agents only get more. -/
theorem DocumentStep.ids (step : DocumentStep document after) :
    document.agents.map StoredAgent.id <+: after.agents.map StoredAgent.id := by
  cases step with
  | spawn stored =>
      change _ <+: (document.agents ++ [stored]).map StoredAgent.id
      rw [List.map_append]
      exact List.prefix_append _ _
  | start index agent message detail now found =>
      have sameId : (agent.beginTurn ⟨.user, message⟩ now).id = agent.id := rfl
      exact (map_modify_const StoredAgent.id found sameId).symm ▸ List.prefix_rfl
  | change index agent changed kind detail now found step =>
      have sameId : changed.id = agent.id := by cases step <;> rfl
      exact (map_modify_const StoredAgent.id found sameId).symm ▸ List.prefix_rfl
  | adopt instanceId => exact List.prefix_rfl

theorem DocumentStep.absorbed (step : DocumentStep document after)
    (distinct : (document.agents.map StoredAgent.id).Nodup) :
    Absorbed document after := by
  cases step with
  | spawn stored depth grants detail now parent named deeper shallow contained fresh room =>
      constructor
      · intro index agent found _
        change (document.agents ++ [stored])[index]? = some agent
        rw [List.getElem?_append_left (List.getElem?_eq_some_iff.mp found).1]
        exact found
      · intro agent member stopped notRoot
        have elsewhere : stored.parentId ≠ agent.id := by
          generalize parentName : stored.parentId = name at parent
          cases parent with
          | root => exact Ne.symm notRoot
          | agent ancestor index found available =>
              intro same
              have twin : ancestor = agent := List.inj_on_of_nodup_map distinct
                (List.mem_iff_getElem?.mpr ⟨index, found⟩) member same
              exact available (twin ▸ stopped)
        change childrenOf (document.agents ++ [stored]) agent.id = _
        simp [childrenOf, List.filter_append, elsewhere]
  | start index agent message detail now found notRunning notInterrupted allowed room =>
      exact absorbed_changeAgent (agent.beginTurn ⟨.user, message⟩ now) found notInterrupted
        rfl rfl
  | change index agent changed kind detail now found step =>
      cases step with
      | complete reply running =>
          exact absorbed_changeAgent (agent.record ⟨.assistant, reply⟩ .completed now) found
            (by simp [running]) rfl rfl
      | fail running =>
          exact absorbed_changeAgent (agent.setStatus .failed now) found (by simp [running])
            rfl rfl
      | interrupt notInterrupted =>
          exact absorbed_changeAgent (agent.setStatus .interrupted now) found notInterrupted
            rfl rfl
  | adopt instanceId => exact ⟨fun _ _ found _ => found, fun _ _ _ _ => rfl⟩

/-- Steps that lead to a document without two agents of one id. -/
theorem DocumentSteps.absorbed (steps : DocumentSteps document after)
    (distinct : (after.agents.map StoredAgent.id).Nodup) :
    Absorbed document after := by
  induction steps with
  | refl => exact .refl document
  | tail _ step ih =>
      have distinctBefore := step.ids.sublist.nodup distinct
      exact (ih distinctBefore).trans (step.absorbed distinctBefore)

end Absorbing

/-- What the files hold later. -/
def AbsorbedIn (stored : SessionDocument) (files : Files) : Prop :=
  ∃ document, files.load = .ok (some document) ∧ Absorbed stored document

/-- What a load has made of the stored document. -/
theorem LoadEnd.steps {loadedAt : Nat} {files final : Files}
    {stored : SessionDocument} (ended : LoadEnd store loadedAt files loaded final)
    (found : files.load = .ok (some stored)) :
    DocumentSteps stored loaded ∧
      (final = files ∨ loaded.validate = .ok () ∧ final = ⟨.document loaded, .absent⟩) := by
  cases ended with
  | fresh nothing =>
      rw [found] at nothing
      cases nothing
  | same _ otherFound =>
      rw [found, Except.ok.injEq, Option.some.injEq] at otherFound
      rw [otherFound]
      exact ⟨.refl, .inl rfl⟩
  | recovered _ _ _ otherFound _ _ _ steps written =>
      rw [found, Except.ok.injEq, Option.some.injEq] at otherFound
      rw [otherFound]
      rcases written with ⟨-, unwritten⟩ | saved
      · exact ⟨steps, .inl unwritten⟩
      · exact ⟨steps, .inr saved⟩

/-- No call touches an interrupted agent. -/
theorem storeStep_absorbed (size : Encoder) (stored : SessionDocument) (files : Files)
    (action : StoreAction) (absorbed : AbsorbedIn stored files) :
    AbsorbedIn stored (storeStep size files action) := by
  obtain ⟨document, found, earlier⟩ := absorbed
  have ended : CallEnd action files _ (storeStep size files action) :=
    perform_spec size action files
  have saved : ∀ after, DocumentSteps document after → after.validate = .ok () →
      AbsorbedIn stored ⟨.document after, .absent⟩ := by
    intro after steps valid
    have distinct := (SessionDocument.validate_eq_ok valid).distinct
    exact ⟨after, rfl, earlier.trans (steps.absorbed distinct)⟩
  rcases ended.steps with unchanged | ⟨loaded, loads⟩ | ⟨loaded, middle, after, loads, rest⟩
  · rw [unchanged]
    exact ⟨document, found, earlier⟩
  · obtain ⟨steps, unchanged | ⟨valid, written⟩⟩ := loads.steps found
    · rw [unchanged]
      exact ⟨document, found, earlier⟩
    · rw [written]
      exact saved loaded steps valid
  · obtain ⟨steps, valid, written⟩ := rest
    rw [written]
    exact saved after ((loads.steps found).1.trans steps) valid

/-- A recursive interrupt of an agent that is loaded, whatever graph the parent links
form, stops exactly its branch; and in every later run, with restarts and other stores,
the stopped agents stay as they are and get no children. -/
theorem interrupt_stops_branch_for_good (size : Encoder) (files : Files)
    (stored : SessionDocument) (found : files.load = .ok (some stored)) :
    (∀ (store : CoordinatorStore) (loadedAt now : Nat) (request : AgentInterruptRequest)
        (loaded : SessionDocument) (middle : Files),
      store.requireMatchingAuthority request.grant = .ok () → request.validate = .ok () →
      store.requireWrite = .ok () →
      (store.loadOrNew size loadedAt).exec files = (.ok loaded, middle) →
      request.recursive = true → request.agentId ∈ loaded.agents.map StoredAgent.id →
      ∃ after made, BranchStopped request.agentId now loaded after made.events ∧
        (store.interrupt size loadedAt now request).exec files =
          if store.stateEscapes then (.error .workspaceEscape, middle)
          else if maxDocumentBytes < size after then
            (.error (.documentTooLarge maxDocumentBytes), middle)
          else (.ok made, ⟨.document after, .absent⟩)) ∧
    ∀ actions, Throughout (storeStep size) (AbsorbedIn stored) files actions := by
  constructor
  · intro store loadedAt now request loaded middle matching valid writable loads recursive
      present
    exact interrupt_exec matching valid writable loads recursive present
  · intro actions
    exact throughout_of_invariant (AbsorbedIn stored) (storeStep_absorbed size stored)
      ⟨stored, found, .refl stored⟩ actions

/-- Two agents that are each the other's parent. -/
def cyclicDocument : SessionDocument :=
  { SessionDocument.new sampleStore.authority "first" with
    nextAgentSequence := 3
    agents := [⟨"agent-1", "agent-2", "Agent 1", 1, .pending, 0, [], [], 0, 0⟩,
      ⟨"agent-2", "agent-1", "Agent 2", 2, .completed, 0, [], [], 0, 0⟩] }

theorem interrupt_stops_cycle_for_good :
    (∃ after made, BranchStopped "agent-1" 5 cyclicDocument after made.events ∧
      (sampleStore.interrupt (fun _ => 0) 4 5 ⟨sampleStore.authority, "agent-1", true⟩).exec
          ⟨.document cyclicDocument, .absent⟩ =
        (.ok made, ⟨.document after, .absent⟩)) ∧
    Throughout (storeStep fun _ => 0) (AbsorbedIn cyclicDocument)
      ⟨.document cyclicDocument, .absent⟩ failedTurnRun := by
  have holds := interrupt_stops_branch_for_good (fun _ => 0)
    ⟨.document cyclicDocument, .absent⟩ cyclicDocument rfl
  refine ⟨?_, holds.2 failedTurnRun⟩
  exact holds.1 sampleStore 4 5 ⟨sampleStore.authority, "agent-1", true⟩ cyclicDocument
    ⟨.document cyclicDocument, .absent⟩ (by decide) (by decide)
    (by decide) (by decide) rfl (by decide)

/-- A document the store can load, with an interrupted agent called like the session. -/
def rootNamedDocument : SessionDocument :=
  { SessionDocument.new sampleStore.authority "first" with
    agents := [⟨rootAgentId, rootAgentId, "Root", 1, .interrupted, 0, [], [], 0, 0⟩] }

/-- A spawn under the session adds a child to that agent. -/
theorem rootNamed_agent_gets_child :
    ¬ ∀ (size : Encoder) (files : Files) (stored : SessionDocument),
      files.load = .ok (some stored) → stored.validate = .ok () →
      ∀ actions, Throughout (storeStep size) (fun later => ∃ document,
        later.load = .ok (some document) ∧
        ∀ agent ∈ stored.agents, agent.status = .interrupted →
          childrenOf document.agents agent.id = childrenOf stored.agents agent.id)
        files actions := by
  intro always
  have atEnd := (always (fun _ => 0) ⟨.document rootNamedDocument, .absent⟩ rootNamedDocument
    rfl (by decide)
    [⟨sampleStore, 0, .spawn 1 ⟨sampleStore.authority, rootAgentId, none, "task", []⟩⟩]).last
  obtain ⟨document, found, childless⟩ := atEnd
  have same := childless ⟨rootAgentId, rootAgentId, "Root", 1, .interrupted, 0, [], [], 0, 0⟩
    (by decide) rfl
  have grown : (finalState (storeStep fun _ => 0) ⟨.document rootNamedDocument, .absent⟩
      [⟨sampleStore, 0, .spawn 1 ⟨sampleStore.authority, rootAgentId, none, "task", []⟩⟩]).load =
        .ok (some { rootNamedDocument with
          nextAgentSequence := 2
          nextEventSequence := 2
          agents := rootNamedDocument.agents ++
            [⟨"agent-1", rootAgentId, "Agent 1", 1, .pending, 0, [], [], 1, 1⟩]
          events := [⟨1, "agent-1", .spawned, "spawned under root", 1⟩] }) := by
    decide
  rw [grown, Except.ok.injEq, Option.some.injEq] at found
  rw [← found] at same
  revert same
  decide

end MultiAgent
end YunXi
