import YunXi.MultiAgent.Interrupt
import YunXi.Program.Strings

/-!
# Ending a turn

A child turn ends with a reply or with a failure.  In the documents of a run nothing but
two bounds can refuse the end: the event of a failure holds the code beside the message,
and the document has to fit in its file with what the end adds.  A transcript never gets
near its bound, because a turn adds at most two entries and turns are few.
-/

namespace YunXi
namespace MultiAgent

open Fallible
open Protocol (GrantKind)

/-- A turn adds its message, and its reply when it is not running any more. -/
def StoredAgent.Brief (agent : StoredAgent) : Prop :=
  agent.transcript.length + (if agent.status = .running then 1 else 0) ≤ 2 * agent.turnsUsed

/-- A document of a run: the graph is coherent and the transcripts are brief. -/
structure SessionDocument.Settled (document : SessionDocument) : Prop where
  coherent : document.Coherent
  brief : ∀ agent ∈ document.agents, agent.Brief

variable {agent : StoredAgent}

section Steps

variable {document after : SessionDocument}

theorem AgentStep.brief {changed : StoredAgent} {kind : AgentEventKind} {now : Nat}
    (step : AgentStep now agent changed kind) (brief : agent.Brief) :
    changed.Brief := by
  unfold StoredAgent.Brief at brief ⊢
  cases step with
  | complete reply running =>
      simpa [StoredAgent.record, running] using brief
  | fail running =>
      simp only [running, if_true] at brief
      simp only [StoredAgent.setStatus, reduceCtorEq, if_false]
      omega
  | interrupt notInterrupted =>
      simp only [StoredAgent.setStatus, reduceCtorEq, if_false]
      omega

/-- A turn that begins is counted, so its message and its reply are. -/
theorem StoredAgent.Brief.beginTurn (brief : agent.Brief)
    (message : String) (now : Nat) (notRunning : agent.status ≠ .running)
    (small : agent.turnsUsed < 65535) :
    (agent.beginTurn ⟨.user, message⟩ now).Brief := by
  unfold StoredAgent.Brief at brief ⊢
  rw [if_neg notRunning] at brief
  simp only [StoredAgent.beginTurn, StoredAgent.record, List.length_append,
    List.length_singleton, if_true, nextU16_of_lt small]
  omega

/-- Changing one agent into a brief one leaves all of them brief. -/
theorem brief_modify {agents : List StoredAgent} {index : Nat} {changed : StoredAgent}
    (brief : ∀ agent ∈ agents, agent.Brief) (changedBrief : changed.Brief) :
    ∀ agent ∈ agents.modify index fun _ => changed, agent.Brief := by
  intro agent member
  obtain ⟨position, found⟩ := List.mem_iff_getElem?.mp member
  rw [List.getElem?_modify] at found
  obtain ⟨original, present, rfl⟩ := Option.map_eq_some_iff.mp found
  split
  · exact changedBrief
  · exact brief original (List.mem_iff_getElem?.mpr ⟨position, present⟩)

theorem DocumentStep.settled (step : DocumentStep document after)
    (settled : document.Settled) :
    after.Settled := by
  refine ⟨step.coherent settled.coherent, ?_⟩
  cases step with
  | spawn stored depth grants detail now parent named deeper shallow contained fresh room =>
      obtain ⟨pending, unused, silent⟩ := fresh
      intro agent member
      rcases List.mem_append.mp member with old | new
      · exact settled.brief agent old
      · rw [List.mem_singleton.mp new]
        simp [StoredAgent.Brief, pending, silent]
  | start index agent message detail now found notRunning notInterrupted allowed room =>
      have limits := AgentBudget.validate_eq_ok settled.coherent.budget
      unfold maxAgentTurnsPerAgent at limits
      have brief := settled.brief agent (List.mem_iff_getElem?.mpr ⟨index, found⟩)
      exact brief_modify settled.brief (brief.beginTurn message now notRunning (by omega))
  | change index agent changed kind detail now found step =>
      have brief := settled.brief agent (List.mem_iff_getElem?.mpr ⟨index, found⟩)
      exact brief_modify settled.brief (step.brief brief)
  | adopt instanceId => exact settled.brief

theorem DocumentSteps.settled (steps : DocumentSteps document after)
    (settled : document.Settled) :
    after.Settled := by
  induction steps with
  | refl => exact settled
  | tail _ step ih => exact step.settled ih

/-- A running agent of a run has room for a reply: thirty-one entries at most. -/
theorem SessionDocument.Settled.room (settled : document.Settled)
    (member : agent ∈ document.agents) (running : agent.status = .running) :
    agent.transcript.length < maxAgentTranscriptEntries := by
  have limits := AgentBudget.validate_eq_ok settled.coherent.budget
  have turns := settled.coherent.turns agent member
  have brief := settled.brief agent member
  unfold StoredAgent.Brief at brief
  rw [if_pos running] at brief
  unfold maxAgentTurnsPerAgent at limits
  unfold maxAgentTranscriptEntries
  omega

end Steps

/-- What the files of a session hold when only stores have written them: nothing, or one
settled document that passes its check. -/
structure Files.Settled (files : Files) : Prop where
  noBackup : files.backup = .absent
  kept : files.primary = .absent ∨ ∃ document, files.primary = .document document ∧
    document.Settled ∧ document.validate = .ok ()

theorem Files.Settled.loaded {files : Files} {document : SessionDocument}
    (settled : files.Settled) (found : files.load = .ok (some document)) :
    document.Settled ∧ document.validate = .ok () := by
  obtain ⟨noBackup, absent | ⟨stored, present, kept⟩⟩ := settled
  · simp [Files.load, absent, noBackup, Stored.load] at found
  · simp only [Files.load, present, Stored.load, Except.ok.injEq, Option.some.injEq] at found
    rw [← found]
    exact kept

theorem LoadEnd.settled {store : CoordinatorStore} {loadedAt : Nat} {files final : Files}
    {loaded : SessionDocument} (ended : LoadEnd store loadedAt files loaded final)
    (settled : files.Settled) :
    loaded.Settled ∧ final.Settled := by
  cases ended with
  | fresh =>
      refine ⟨⟨.new store, ?_⟩, settled⟩
      simp [SessionDocument.new]
  | same stored found => exact ⟨(settled.loaded found).1, settled⟩
  | recovered stored recovered _ found _ _ _ steps written =>
      have kept := steps.settled (settled.loaded found).1
      rcases written with ⟨-, rfl⟩ | ⟨valid, rfl⟩
      · exact ⟨kept, settled⟩
      · exact ⟨kept, rfl, .inr ⟨loaded, rfl, kept, valid⟩⟩

/-- Every call leaves a settled document. -/
theorem storeStep_settled (size : Encoder) (files : Files) (action : StoreAction)
    (settled : files.Settled) :
    (storeStep size files action).Settled := by
  have ended : CallEnd action files _ (storeStep size files action) :=
    perform_spec size action files
  rcases ended.steps with unchanged | ⟨loaded, loads⟩ | saved
  · rw [unchanged]
    exact settled
  · exact (loads.settled settled).2
  · obtain ⟨loaded, middle, document, loads, steps, valid, written⟩ := saved
    rw [written]
    exact ⟨rfl, .inr ⟨document, rfl, steps.settled (loads.settled settled).1, valid⟩⟩

/-- The files after any calls on a session that had none. -/
def filesAfter (size : Encoder) (actions : List StoreAction) : Files :=
  finalState (storeStep size) ⟨.absent, .absent⟩ actions

theorem filesAfter_settled (size : Encoder) (actions : List StoreAction) :
    (filesAfter size actions).Settled :=
  (throughout_of_invariant Files.Settled (storeStep_settled size) ⟨rfl, .inl rfl⟩
    actions).last

/-- The document with the end of a turn: the agent as it has become, and the event. -/
def SessionDocument.turnEnded (document : SessionDocument) (index : Nat)
    (ended : StoredAgent) (kind : AgentEventKind) (detail : String) (now : Nat) :
    SessionDocument :=
  (document.changeAgent index fun _ => ended).log
    (document.nextEvent ended.id kind detail now)

/-- What the event of a failed turn says. -/
def AgentTurnFailRequest.detail (request : AgentTurnFailRequest) : String :=
  request.code ++ ": " ++ request.message

section Validity

variable {document : SessionDocument} {index : Nat} {agent ended : StoredAgent}

/-- A valid agent in place of another one of its name, with a valid event. -/
theorem SessionDocument.turnEnded_valid {kind : AgentEventKind} {detail : String} {now : Nat}
    (valid : document.validate = .ok ()) (found : document.agents[index]? = some agent)
    (sameId : ended.id = agent.id) (sameParent : ended.parentId = agent.parentId)
    (validAgent : ended.validate = .ok ())
    (validEvent : (document.nextEvent ended.id kind detail now).validate = .ok ()) :
    (document.turnEnded index ended kind detail now).validate = .ok () := by
  have sameIds : (document.agents.modify index fun _ => ended).map StoredAgent.id =
      document.agents.map StoredAgent.id := map_modify_const StoredAgent.id found sameId
  have members : ∀ other ∈ document.agents.modify index fun _ => ended,
      other = ended ∨ other ∈ document.agents := by
    intro other member
    rw [modify_const_eq_set _ found] at member
    exact (List.mem_or_eq_of_mem_set member).symm
  simp only [SessionDocument.validate, Except.ite_throw_eq_ok, Except.bind_eq_ok, protocol,
    Except.mapError_eq_ok, not_or] at valid ⊢
  obtain ⟨version, _, budget, _, instanceId, ⟨agentNumber, -⟩, ⟨count, -⟩, _, agents,
    _, parents, validEvents⟩ := valid
  obtain ⟨validAgents, distinct, -⟩ := checkAgents_eq_ok.mp agents
  have logged : (document.turnEnded index ended kind detail now).events =
      newestEvents (document.events ++ [document.nextEvent ended.id kind detail now]) :=
    SessionDocument.log_events _ _
  refine ⟨version, (), budget, (), instanceId, ⟨agentNumber, Nat.ne_of_gt (nextU64_pos _)⟩,
    ⟨?_, ?_⟩, (), ?_, (), ?_, ?_⟩
  · change ¬ maxAgentCount < (document.agents.modify index _).length
    rwa [List.length_modify]
  · rw [logged]
    exact Nat.not_lt.mpr (length_newestEvents _)
  · refine checkAgents_eq_ok.mpr ⟨?_, sameIds ▸ distinct, fun _ _ => List.not_mem_nil⟩
    intro other member
    rcases members other member with rfl | old
    · exact validAgent
    · exact validAgents other old
  · rw [checkAll_eq_ok] at parents ⊢
    intro other member
    change checkParent (document.agents.modify index fun _ => ended) other = .ok ()
    unfold checkParent at parents ⊢
    rw [sameIds]
    rcases members other member with rfl | old
    · rw [sameId, sameParent]
      exact parents agent (List.mem_iff_getElem?.mpr ⟨index, found⟩)
    · exact parents other old
  · rw [checkAll_eq_ok] at validEvents ⊢
    intro event member
    rw [logged] at member
    rcases List.mem_append.mp (List.mem_of_mem_drop member) with old | new
    · exact validEvents event old
    · rw [List.mem_singleton.mp new]
      exact Except.mapError_eq_ok.mpr validEvent

/-- A reply makes no agent invalid that has room for it. -/
theorem StoredAgent.record_valid (reply : String) (status : AgentStatus) (now : Nat)
    (valid : agent.validate = .ok ()) (room : agent.transcript.length < maxAgentTranscriptEntries)
    (validReply : (⟨.assistant, reply⟩ : AgentTranscriptEntry).validate = .ok ()) :
    (agent.record ⟨.assistant, reply⟩ status now).validate = .ok () := by
  have statusValid := (StoredAgent.setStatus_valid status now valid).2.1
  obtain ⟨-, -, entries⟩ := StoredAgent.validate_eq_ok valid
  have snapshot : (agent.record ⟨.assistant, reply⟩ status now).snapshot =
      .ok (agent.record ⟨.assistant, reply⟩ status now).view := statusValid
  simp only [StoredAgent.validate, Except.bind_eq_ok, Except.ite_throw_eq_ok]
  refine ⟨(), Except.discard_eq_ok.mpr ⟨_, snapshot⟩, ?_, checkAll_eq_ok.mpr ?_⟩
  · simp only [StoredAgent.record, List.length_append, List.length_singleton]
    omega
  · intro entry member
    apply Except.mapError_eq_ok.mpr
    rcases List.mem_append.mp member with old | new
    · exact entries entry old
    · rw [List.mem_singleton.mp new]
      exact validReply

end Validity

theorem validateText_eq_ok {field value : String} {maximum : Nat} :
    validateText field value maximum = .ok () ↔
      Protocol.isBlank value = false ∧ value.utf8ByteSize ≤ maximum ∧
        Protocol.containsNul value = false := by
  unfold validateText
  rw [Except.ite_error_eq_ok, Except.ite_error_eq_ok, Except.ite_error_eq_ok]
  simp

theorem validateToken_eq_ok {field value : String} {maximum : Nat}
    (valid : validateToken field value maximum = .ok ()) :
    (∃ first ∈ value.toList, Protocol.isAsciiAlphanumeric first = true) ∧
      ∀ character ∈ value.toList, tokenCharacter character = true := by
  simp only [validateToken, Except.ite_error_eq_ok, Bool.or_eq_true, Bool.not_eq_true',
    not_or, Bool.not_eq_false] at valid
  obtain ⟨-, -, ⟨starts, token⟩, -⟩ := valid
  constructor
  · cases head : value.toList.head? with
    | none => simp [head] at starts
    | some first => exact ⟨first, List.mem_of_head? head, by simpa [head] using starts⟩
  · exact List.all_eq_true.mp token

theorem not_isWhiteSpace_of_alphanumeric {character : Char}
    (alphanumeric : Protocol.isAsciiAlphanumeric character = true) :
    Protocol.isWhiteSpace character = false := by
  simp only [Protocol.isAsciiAlphanumeric, Protocol.isAsciiLowercase,
    Protocol.isAsciiUppercase, Protocol.isAsciiDigit, Bool.or_eq_true, Bool.and_eq_true,
    decide_eq_true_eq] at alphanumeric
  simp only [Protocol.isWhiteSpace, Bool.or_eq_false_iff, Bool.and_eq_false_iff,
    decide_eq_false_iff_not, beq_eq_false_iff_ne]
  omega

theorem ne_nul_of_token {character : Char} (token : tokenCharacter character = true) :
    character.toNat ≠ 0 := by
  intro nul
  have isNul : character = Char.ofNat 0 := by
    rw [← nul, Char.ofNat_toNat]
  rw [isNul] at token
  revert token
  decide

variable {request : AgentTurnFailRequest}

/-- The detail of a valid failure can only be too long. -/
theorem AgentTurnFailRequest.detail_valid_iff (valid : request.validate = .ok ()) :
    validateText "agent event detail" request.detail maxAgentDetailBytes = .ok () ↔
      request.code.utf8ByteSize + 2 + request.message.utf8ByteSize ≤ maxAgentDetailBytes := by
  simp only [AgentTurnFailRequest.validate, Except.bind_eq_ok] at valid
  obtain ⟨_, -, _, -, _, validCode, validMessage⟩ := valid
  obtain ⟨⟨first, member, alphanumeric⟩, token⟩ := validateToken_eq_ok validCode
  obtain ⟨-, -, noNul⟩ := validateText_eq_ok.mp validMessage
  have notBlank : Protocol.isBlank request.detail = false := by
    rw [Protocol.isBlank, List.all_eq_false]
    refine ⟨first, ?_, by simp [not_isWhiteSpace_of_alphanumeric alphanumeric]⟩
    simp [AgentTurnFailRequest.detail, member]
  have clean : Protocol.containsNul request.detail = false := by
    simp only [Protocol.containsNul, List.any_eq_false, beq_iff_eq] at noNul ⊢
    intro character inDetail
    simp only [AgentTurnFailRequest.detail, String.toList_append, List.mem_append] at inDetail
    rcases inDetail with (inCode | inColon) | inMessage
    · exact ne_nul_of_token (token character inCode)
    · rcases List.mem_pair.mp inColon with rfl | rfl <;> decide
    · exact noNul character inMessage
  have length : request.detail.utf8ByteSize =
      request.code.utf8ByteSize + 2 + request.message.utf8ByteSize := by
    rw [AgentTurnFailRequest.detail, String.utf8ByteSize_append, String.utf8ByteSize_append]
    rfl
  rw [validateText_eq_ok, length]
  simp only [notBlank, clean, true_and, and_true]

/-- The store works for a grant on a document: the grant matches, the store may write its
state into the granted workspace, asks for no more than is stored, and is of the instance
the document belongs to. -/
structure CoordinatorStore.WorksOn (store : CoordinatorStore) (grant : AgentDelegationGrant)
    (document : SessionDocument) : Prop where
  matching : store.requireMatchingAuthority grant = .ok ()
  writable : store.authority.allowsNextWrite = true
  inside : store.stateEscapes = false
  fits : store.fits document = true
  ownInstance : document.coordinatorInstanceId = store.instanceId

section Calls

variable {store : CoordinatorStore} {grant : AgentDelegationGrant}
  {files : Files} {document : SessionDocument} {size : Encoder} {loadedAt now : Nat}

theorem CoordinatorStore.WorksOn.loads (works : store.WorksOn grant document)
    (found : files.load = .ok (some document)) (valid : document.validate = .ok ()) :
    (store.loadOrNew size loadedAt).exec files = (.ok document, files) := by
  simp [CoordinatorStore.loadOrNew, exec_bind, throwIf, found, valid,
    works.fits, works.ownInstance]
  rfl

/-- A change that is refused leaves the files as they are. -/
theorem CoordinatorStore.WorksOn.operate_refused {ρ α : Type}
    {valid : Except AgentProtocolError Unit}
    {change : SessionDocument → StoreResult (SessionDocument × ρ)}
    {finish : ρ → StoreResult α} {error : MultiAgentStoreError}
    (works : store.WorksOn grant document)
    (found : files.load = .ok (some document)) (checked : document.validate = .ok ())
    (accepted : valid = .ok ()) (refuses : change document = .error error) :
    (store.operate size loadedAt grant valid change finish).exec files =
      (.error error, files) := by
  have writable : store.requireWrite = .ok () := by
    rw [CoordinatorStore.requireWrite, if_pos works.writable]
  subst accepted
  simp only [CoordinatorStore.operate, exec_bind, exec_ofExcept,
    works.matching, protocol, Except.mapError, writable, works.loads found checked, refuses]

/-- A valid change is saved, unless its file would be too large. -/
theorem CoordinatorStore.WorksOn.operate_changed {ρ α : Type}
    {valid : Except AgentProtocolError Unit}
    {change : SessionDocument → StoreResult (SessionDocument × ρ)}
    {finish : ρ → StoreResult α} {after : SessionDocument} {made : ρ}
    (works : store.WorksOn grant document)
    (found : files.load = .ok (some document)) (checked : document.validate = .ok ())
    (accepted : valid = .ok ()) (changes : change document = .ok (after, made))
    (validAfter : after.validate = .ok ()) :
    (store.operate size loadedAt grant valid change finish).exec files =
      if maxDocumentBytes < size after then
        (.error (.documentTooLarge maxDocumentBytes), files)
      else (finish made, ⟨.document after, .absent⟩) := by
  have writable : store.requireWrite = .ok () := by
    rw [CoordinatorStore.requireWrite, if_pos works.writable]
  have saves := save_exec size files writable validAfter
  rw [works.inside] at saves
  subst accepted
  simp only [CoordinatorStore.operate, exec_bind, exec_ofExcept,
    works.matching, protocol, Except.mapError, writable, works.loads found checked, changes,
    saves]
  by_cases tooLarge : maxDocumentBytes < size after
  · simp [tooLarge]
  · simp [tooLarge]

section Running

variable {index : Nat} {agent : StoredAgent}

theorem agentIndex_of_getElem? (distinct : (document.agents.map StoredAgent.id).Nodup)
    (present : document.agents[index]? = some agent) :
    document.agentIndex agent.id = .ok index := by
  have member : agent ∈ document.agents := List.mem_iff_getElem?.mpr ⟨index, present⟩
  obtain ⟨other, twin, located, found, same⟩ :=
    agentIndex_of_mem (List.mem_map_of_mem (f := StoredAgent.id) member)
  obtain ⟨bound, -⟩ := List.getElem?_eq_some_iff.mp found
  have keys : (document.agents.map StoredAgent.id)[other]? =
      (document.agents.map StoredAgent.id)[index]? := by
    simp [found, present, same]
  have sameIndex := (List.getElem?_inj (by simpa using bound) distinct).mp keys
  rw [located, sameIndex]

/-- The event of an agent's change, whose detail is all that can be refused. -/
theorem pushEvent_changeAgent {ended : StoredAgent} (index : Nat) (kind : AgentEventKind)
    (detail : String) (now : Nat) (valid : document.Valid) (sameId : ended.id = agent.id)
    (validId : validateAgentId agent.id = .ok ()) :
    (validateText "agent event detail" detail maxAgentDetailBytes = .ok () →
      (document.nextEvent ended.id kind detail now).validate = .ok () ∧
        (document.changeAgent index fun _ => ended).pushEvent agent.id kind detail now =
          .ok (document.nextEvent ended.id kind detail now,
            document.turnEnded index ended kind detail now)) ∧
    ∀ error, validateText "agent event detail" detail maxAgentDetailBytes = .error error →
      (document.changeAgent index fun _ => ended).pushEvent agent.id kind detail now =
        .error (.protocol error) := by
  have numbered : (document.changeAgent index fun _ => ended).nextEventSequence ≠ 0 :=
    valid.sequence
  constructor
  · intro validDetail
    obtain ⟨validEvent, pushed⟩ := pushEvent_of_valid kind now numbered validId validDetail
    rw [sameId, SessionDocument.turnEnded, sameId]
    exact ⟨validEvent, pushed⟩
  · intro error refused
    have refusedEvent : ((document.changeAgent index fun _ => ended).nextEvent agent.id kind
        detail now).validate = .error error := by
      unfold AgentEvent.validate SessionDocument.nextEvent
      rw [if_neg numbered, validId]
      exact refused
    simp only [SessionDocument.pushEvent, refusedEvent, protocol]
    rfl

/-- The end of a turn that failed, or the refusal of its event. -/
theorem failTurnIn_of_running (now : Nat)
    (valid : document.validate = .ok ()) (present : document.agents[index]? = some agent)
    (running : agent.status = .running) (named : request.agentId = agent.id) :
    (validateText "agent event detail" request.detail maxAgentDetailBytes = .ok () →
      (document.turnEnded index (agent.setStatus .failed now) .failed request.detail
          now).validate = .ok () ∧
        ∃ made, failTurnIn request now document = .ok (document.turnEnded index
          (agent.setStatus .failed now) .failed request.detail now, made)) ∧
    ∀ error, validateText "agent event detail" request.detail maxAgentDetailBytes =
        .error error →
      failTurnIn request now document = .error (.protocol error) := by
  have checked := SessionDocument.validate_eq_ok valid
  have member : agent ∈ document.agents := List.mem_iff_getElem?.mpr ⟨index, present⟩
  have located := agentIndex_of_getElem? checked.distinct present
  obtain ⟨validEnded, snapshot, validId⟩ :=
    StoredAgent.setStatus_valid .failed now (checked.agents agent member)
  have sameId : (agent.setStatus .failed now).id = agent.id := rfl
  obtain ⟨pushes, refuses⟩ := pushEvent_changeAgent index .failed request.detail now checked
    sameId validId
  have text : request.code ++ ": " ++ request.message = request.detail := rfl
  rw [failTurnIn, named, located, text]
  simp only [bind, Except.bind, present, running, ne_eq, not_true_eq_false, if_false]
  constructor
  · intro validDetail
    obtain ⟨validEvent, pushed⟩ := pushes validDetail
    refine ⟨SessionDocument.turnEnded_valid valid present sameId rfl validEnded validEvent,
      ((agent.setStatus .failed now).view,
        document.nextEvent agent.id .failed request.detail now), ?_⟩
    rw [pushed, snapshot]
    rfl
  · intro error refused
    rw [refuses error refused]

/-- The end of a turn with a reply. -/
theorem completeTurnIn_of_running {request : AgentTurnCompleteRequest} (now : Nat)
    (valid : document.validate = .ok ()) (present : document.agents[index]? = some agent)
    (running : agent.status = .running)
    (room : agent.transcript.length < maxAgentTranscriptEntries)
    (named : request.agentId = agent.id) (accepted : request.validate = .ok ()) :
    (document.turnEnded index (agent.record ⟨.assistant, request.reply⟩ .completed now)
        .completed "child model turn completed" now).validate = .ok () ∧
      ∃ made, completeTurnIn request now document = .ok (document.turnEnded index
        (agent.record ⟨.assistant, request.reply⟩ .completed now) .completed
          "child model turn completed" now, made) := by
  have checked := SessionDocument.validate_eq_ok valid
  have member : agent ∈ document.agents := List.mem_iff_getElem?.mpr ⟨index, present⟩
  have located := agentIndex_of_getElem? checked.distinct present
  have validReply : (⟨.assistant, request.reply⟩ : AgentTranscriptEntry).validate =
      .ok () := by
    simp only [AgentTurnCompleteRequest.validate, Except.bind_eq_ok] at accepted
    obtain ⟨_, -, _, -, reply⟩ := accepted
    exact validateText_eq_ok.mpr (validateText_eq_ok.mp reply)
  have entry : protocol (AgentTranscriptEntry.new .assistant request.reply) =
      .ok ⟨.assistant, request.reply⟩ := by
    rw [protocol, Except.mapError_eq_ok, AgentTranscriptEntry.new, validReply]
    rfl
  have validAgent := checked.agents agent member
  have validId := (StoredAgent.setStatus_valid .completed now validAgent).2.2
  have validEnded := StoredAgent.record_valid request.reply .completed now validAgent room
    validReply
  have snapshot := (StoredAgent.validate_eq_ok validEnded).1
  have sameId : (agent.record ⟨.assistant, request.reply⟩ .completed now).id = agent.id := rfl
  have validDetail : validateText "agent event detail" "child model turn completed"
      maxAgentDetailBytes = .ok () := by decide
  obtain ⟨validEvent, pushed⟩ := (pushEvent_changeAgent index .completed _ now checked sameId
    validId).1 validDetail
  refine ⟨SessionDocument.turnEnded_valid valid present sameId rfl validEnded validEvent,
    ((agent.record ⟨.assistant, request.reply⟩ .completed now).view,
      document.nextEvent agent.id .completed "child model turn completed" now), ?_⟩
  rw [completeTurnIn, named, located]
  simp only [bind, Except.bind, present, running, ne_eq, not_true_eq_false, if_false,
    if_neg (Nat.not_le.mpr room), entry, pushed, snapshot]
  rfl

/-- A failure that is accepted for a running agent is stored, unless its text is too long
for the event or the document too large for its file; then the files stay as they are. -/
theorem failTurn_exec (size : Encoder) (loadedAt now : Nat)
    (works : store.WorksOn request.grant document)
    (found : files.load = .ok (some document)) (valid : document.validate = .ok ())
    (present : document.agents[index]? = some agent) (running : agent.status = .running)
    (named : request.agentId = agent.id) (accepted : request.validate = .ok ()) :
    (request.code.utf8ByteSize + 2 + request.message.utf8ByteSize ≤ maxAgentDetailBytes →
      ∃ result, (store.failTurn size loadedAt now request).exec files =
        if maxDocumentBytes < size (document.turnEnded index (agent.setStatus .failed now)
            .failed request.detail now) then
          (.error (.documentTooLarge maxDocumentBytes), files)
        else (.ok result, ⟨.document (document.turnEnded index (agent.setStatus .failed now)
            .failed request.detail now), .absent⟩)) ∧
    (¬ request.code.utf8ByteSize + 2 + request.message.utf8ByteSize ≤ maxAgentDetailBytes →
      ∃ error, (store.failTurn size loadedAt now request).exec files =
        (.error (.protocol error), files)) := by
  obtain ⟨changes, refuses⟩ := failTurnIn_of_running now valid present running named
  rw [← AgentTurnFailRequest.detail_valid_iff accepted]
  constructor
  · intro validDetail
    obtain ⟨validAfter, made, changed⟩ := changes validDetail
    exact ⟨_, works.operate_changed found valid accepted changed validAfter⟩
  · intro tooLong
    cases checked : validateText "agent event detail" request.detail maxAgentDetailBytes with
    | ok _ => exact absurd checked tooLong
    | error error =>
        exact ⟨error, works.operate_refused found valid accepted (refuses error checked)⟩

/-- A reply that is accepted for a running agent is stored, unless the document is too
large for its file. -/
theorem completeTurn_exec {request : AgentTurnCompleteRequest} (size : Encoder)
    (loadedAt now : Nat)
    (works : store.WorksOn request.grant document)
    (found : files.load = .ok (some document)) (valid : document.validate = .ok ())
    (present : document.agents[index]? = some agent) (running : agent.status = .running)
    (room : agent.transcript.length < maxAgentTranscriptEntries)
    (named : request.agentId = agent.id) (accepted : request.validate = .ok ()) :
    ∃ result, (store.completeTurn size loadedAt now request).exec files =
      if maxDocumentBytes < size (document.turnEnded index
          (agent.record ⟨.assistant, request.reply⟩ .completed now) .completed
          "child model turn completed" now) then
        (.error (.documentTooLarge maxDocumentBytes), files)
      else (.ok result, ⟨.document (document.turnEnded index
          (agent.record ⟨.assistant, request.reply⟩ .completed now) .completed
          "child model turn completed" now), .absent⟩) := by
  obtain ⟨validAfter, made, changed⟩ :=
    completeTurnIn_of_running now valid present running room named accepted
  exact ⟨_, works.operate_changed found valid accepted changed validAfter⟩

end Running

end Calls

/-- The call returns a result. -/
def Succeeds {α : Type} (program : StoreM α) (files : Files) : Prop :=
  ∃ result, (program.exec files).1 = .ok result

theorem succeeds_ite_iff {α : Type} {program : StoreM α} {files final : Files} {value : α}
    {error : MultiAgentStoreError} {condition : Prop} [Decidable condition]
    (ran : program.exec files =
      if condition then (.error error, files) else (.ok value, final)) :
    Succeeds program files ↔ ¬ condition := by
  unfold Succeeds
  rw [ran]
  by_cases refused : condition <;> simp [refused]

/-- In the document after any calls, a running turn can be ended by every valid request of
the agent: with a reply when the document with it fits in its file, with a failure when
moreover its code and message together fit in an event. -/
theorem running_turn_ends_iff (size : Encoder) (actions : List StoreAction)
    {document : SessionDocument} {index : Nat}
    (found : (filesAfter size actions).load = .ok (some document))
    (present : document.agents[index]? = some agent) (running : agent.status = .running)
    (store : CoordinatorStore) (loadedAt now : Nat) :
    (∀ request : AgentTurnFailRequest, request.agentId = agent.id →
      request.validate = .ok () → store.WorksOn request.grant document →
      (Succeeds (store.failTurn size loadedAt now request) (filesAfter size actions) ↔
        request.code.utf8ByteSize + 2 + request.message.utf8ByteSize ≤ maxAgentDetailBytes ∧
        size (document.turnEnded index (agent.setStatus .failed now) .failed request.detail
          now) ≤ maxDocumentBytes)) ∧
    ∀ request : AgentTurnCompleteRequest, request.agentId = agent.id →
      request.validate = .ok () → store.WorksOn request.grant document →
      (Succeeds (store.completeTurn size loadedAt now request) (filesAfter size actions) ↔
        size (document.turnEnded index
          (agent.record ⟨.assistant, request.reply⟩ .completed now) .completed
          "child model turn completed" now) ≤ maxDocumentBytes) := by
  obtain ⟨settled, valid⟩ := (filesAfter_settled size actions).loaded found
  constructor
  · intro request named accepted works
    obtain ⟨fits, tooLong⟩ := failTurn_exec size loadedAt now works found valid present running
      named accepted
    by_cases short :
        request.code.utf8ByteSize + 2 + request.message.utf8ByteSize ≤ maxAgentDetailBytes
    · obtain ⟨result, ran⟩ := fits short
      rw [succeeds_ite_iff ran, Nat.not_lt]
      exact ⟨fun small => ⟨short, small⟩, fun both => both.2⟩
    · obtain ⟨error, ran⟩ := tooLong short
      unfold Succeeds
      rw [ran]
      simp [short]
  · intro request named accepted works
    have room := settled.room (List.mem_iff_getElem?.mpr ⟨index, present⟩) running
    obtain ⟨result, ran⟩ := completeTurn_exec size loadedAt now works found valid present running
      room named accepted
    rw [succeeds_ite_iff ran, Nat.not_lt]

/-- A session in which an agent was asked once. -/
def askedRun : List StoreAction := failedTurnRun.take 2

/-- The agent then. -/
def askedAgent : StoredAgent :=
  ⟨"agent-1", rootAgentId, "Agent 1", 1, .running, 1, [], [⟨.user, "next"⟩], 1, 3⟩

/-- The document then. -/
def askedDocument : SessionDocument :=
  { SessionDocument.new sampleStore.authority "first" with
    totalTurns := 1
    nextAgentSequence := 2
    nextEventSequence := 3
    agents := [askedAgent]
    events :=
      [⟨1, "agent-1", .spawned, "spawned under root", 1⟩,
        ⟨2, "agent-1", .turnStarted, "child model turn started", 3⟩] }

theorem askedRun_files : filesAfter (fun _ => 1024) askedRun =
    ⟨.document askedDocument, .absent⟩ := by decide

theorem sampleStore_worksOn : sampleStore.WorksOn sampleStore.authority askedDocument where
  matching := by decide
  writable := rfl
  inside := rfl
  fits := by decide
  ownInstance := rfl

theorem running_turn_ends_iff_asked : Succeeds (sampleStore.failTurn (fun _ => 1024) 4 5
        ⟨sampleStore.authority, "agent-1", "model", "no reply"⟩)
        (filesAfter (fun _ => 1024) askedRun) ∧
      Succeeds (sampleStore.completeTurn (fun _ => 1024) 4 5
        ⟨sampleStore.authority, "agent-1", "done"⟩) (filesAfter (fun _ => 1024) askedRun) := by
  have found : (filesAfter (fun _ => 1024) askedRun).load = .ok (some askedDocument) := by
    rw [askedRun_files]
    rfl
  have present : askedDocument.agents[0]? = some askedAgent := rfl
  have ends := running_turn_ends_iff (fun _ => 1024) askedRun found present rfl sampleStore 4 5
  constructor
  · apply (ends.1 ⟨sampleStore.authority, "agent-1", "model", "no reply"⟩ rfl
      (by decide) sampleStore_worksOn).mpr
    decide
  · apply (ends.2 ⟨sampleStore.authority, "agent-1", "done"⟩ rfl (by decide)
      sampleStore_worksOn).mpr
    decide

/-- A message of as many letters. -/
def letters (count : Nat) : String := String.ofList (List.replicate count 'x')

theorem utf8ByteSize_letters (count : Nat) : (letters count).utf8ByteSize = count :=
  Strings.utf8ByteSize_replicate rfl count

/-- The longest message that a request may carry, with a code. -/
def longFailure : AgentTurnFailRequest :=
  ⟨sampleStore.authority, "agent-1", "model", letters maxAgentDetailBytes⟩

theorem longFailure_valid : longFailure.validate = .ok () := by
  have characters : longFailure.message.toList = List.replicate maxAgentDetailBytes 'x' :=
    String.toList_ofList
  have message : validateText "agent failure message" longFailure.message
      maxAgentDetailBytes = .ok () := by
    refine validateText_eq_ok.mpr ⟨?_, Nat.le_of_eq (utf8ByteSize_letters _), ?_⟩
    · rw [Protocol.isBlank, characters, List.all_eq_false]
      exact ⟨'x', List.mem_replicate.mpr ⟨by decide, rfl⟩, by decide⟩
    · rw [Protocol.containsNul, characters, List.any_eq_false]
      intro character member
      rw [List.eq_of_mem_replicate member]
      decide
  simp only [AgentTurnFailRequest.validate, Except.bind_eq_ok]
  exact ⟨(), by decide, (), by decide, (), by decide, message⟩

/-- A valid failure of a running agent is refused, and the agent goes on running. -/
theorem longFailure_refused :
    ¬ ∀ (size : Encoder) (actions : List StoreAction) (document : SessionDocument)
        (agent : StoredAgent),
      (filesAfter size actions).load = .ok (some document) → agent ∈ document.agents →
      agent.status = .running →
      ∀ (store : CoordinatorStore) (loadedAt now : Nat) (request : AgentTurnFailRequest),
        request.agentId = agent.id → request.validate = .ok () →
        store.WorksOn request.grant document →
        Succeeds (store.failTurn size loadedAt now request) (filesAfter size actions) := by
  intro always
  have found : (filesAfter (fun _ => 1024) askedRun).load = .ok (some askedDocument) := by
    rw [askedRun_files]
    rfl
  obtain ⟨result, returned⟩ := always (fun _ => 1024) askedRun askedDocument askedAgent found
    (List.mem_singleton_self _) rfl sampleStore 4 5 longFailure rfl longFailure_valid
    sampleStore_worksOn
  have valid := ((filesAfter_settled (fun _ => 1024) askedRun).loaded found).2
  have tooLong : ¬ longFailure.code.utf8ByteSize + 2 + longFailure.message.utf8ByteSize ≤
      maxAgentDetailBytes := by
    have length : longFailure.message.utf8ByteSize = maxAgentDetailBytes :=
      utf8ByteSize_letters _
    omega
  have present : askedDocument.agents[0]? = some askedAgent := rfl
  obtain ⟨error, refused⟩ := (failTurn_exec (fun _ => 1024) 4 5 sampleStore_worksOn found
    valid present rfl rfl longFailure_valid).2 tooLong
  rw [refused] at returned
  cases returned

end MultiAgent
end YunXi
