import YunXi.MultiAgent.Refusal
import Mathlib.Algebra.Ring.Nat

/-!
# The persisted agent graph

In every document the store has written, agents form a tree under the session whose
grants only shrink and whose depth grows by one, the counters stay within the stored
budget, and events are numbered without gaps.  A transcript may hold messages that were
never answered: one for each failed turn, and one more while a turn runs.
-/

namespace YunXi
namespace MultiAgent

open Protocol (GrantKind)

/-- A message of the user that is not followed by a reply. -/
def awaits (entry : AgentTranscriptEntry) (next : Option AgentTranscriptEntry) : Bool :=
  entry.role == .user && next.map AgentTranscriptEntry.role != some .assistant

/-- Number of messages of the user that are not followed by a reply. -/
def unanswered : List AgentTranscriptEntry → Nat
  | [] => 0
  | entry :: rest => (if awaits entry rest.head? then 1 else 0) + unanswered rest

/-- Failed turns of an agent. -/
def failures (events : List AgentEvent) (id : String) : Nat :=
  events.countP fun event => event.agentId == id && event.kind == .failed

variable (document : SessionDocument)

/-- The agent's parent is the session or an earlier agent one level up, and its grants
are among the parent's. -/
def ParentOk (index : Nat) (agent : StoredAgent) : Prop :=
  (agent.parentId = rootAgentId ∧ agent.depth = 1 ∧
      agent.childGrants ⊆ document.allowedChildGrants) ∨
    ∃ earlier parent, earlier < index ∧ document.agents[earlier]? = some parent ∧
      agent.parentId = parent.id ∧ agent.depth = parent.depth + 1 ∧
      agent.childGrants ⊆ parent.childGrants

/-- What holds of every persisted document, with a bound on the unanswered messages of
an agent that runs a turn. -/
structure SessionDocument.Contract (mayRemain : StoredAgent → Nat) : Prop where
  distinct : (document.agents.map StoredAgent.id).Nodup
  parents : ∀ index agent, document.agents[index]? = some agent →
    ParentOk document index agent
  agents : document.agents.length ≤ document.budget.maxAgents
  depths : ∀ agent ∈ document.agents, agent.depth ≤ document.budget.maxDepth
  turns : ∀ agent ∈ document.agents, agent.turnsUsed ≤ document.budget.maxTurnsPerAgent
  total : document.totalTurns ≤ document.budget.maxTotalTurns
  sum : document.totalTurns = (document.agents.map StoredAgent.turnsUsed).sum
  answered : ∀ agent ∈ document.agents, agent.status = .running →
    unanswered agent.transcript ≤ mayRemain agent
  increasing : ∀ index first second, document.events[index]? = some first →
    document.events[index + 1]? = some second → second.sequence = first.sequence + 1
  newest : ∀ event, document.events.getLast? = some event →
    event.sequence = document.nextEventSequence - 1

/-- What no change of an agent touches. -/
structure AgentShape where
  id : String
  parentId : String
  depth : Nat
  childGrants : List GrantKind
  deriving DecidableEq

def StoredAgent.shape (agent : StoredAgent) : AgentShape :=
  ⟨agent.id, agent.parentId, agent.depth, agent.childGrants⟩

variable {index : Nat}

theorem map_set_of_eq {α β : Type} {elements : List α} {old new : α}
    (view : α → β) (found : elements[index]? = some old) (same : view new = view old) :
    (elements.set index new).map view = elements.map view := by
  apply List.ext_getElem?
  intro position
  rw [List.getElem?_map, List.getElem?_map, List.getElem?_set]
  by_cases here : index = position
  · obtain ⟨bound, -⟩ := List.getElem?_eq_some_iff.mp found
    subst here
    rw [if_pos rfl, if_pos bound, found]
    simp [same]
  · simp [here]

theorem sum_map_set {α : Type} {elements : List α} {old : α} (new : α)
    (measure : α → Nat) (found : elements[index]? = some old) :
    ((elements.set index new).map measure).sum + measure old =
      (elements.map measure).sum + measure new := by
  induction elements generalizing index with
  | nil => simp at found
  | cons first rest ih =>
      cases index with
      | zero =>
          simp only [List.getElem?_cons_zero, Option.some.injEq] at found
          subst found
          simp only [List.set_cons_zero, List.map_cons, List.sum_cons]
          omega
      | succ index =>
          simp only [List.getElem?_cons_succ] at found
          have later := ih found
          simp only [List.set_cons_succ, List.map_cons, List.sum_cons]
          omega

theorem modify_const_eq_set {α : Type} {elements : List α} {old : α} (new : α)
    (found : elements[index]? = some old) :
    (elements.modify index fun _ => new) = elements.set index new := by
  rw [List.modify_eq_set_getElem?, found]
  rfl

theorem countP_set_add {α : Type} {elements : List α} {old : α} (new : α)
    (test : α → Bool) (found : elements[index]? = some old) :
    (elements.set index new).countP test + (if test old then 1 else 0) =
      elements.countP test + (if test new then 1 else 0) := by
  obtain ⟨bound, atIndex⟩ := List.getElem?_eq_some_iff.mp found
  rw [List.countP_set bound, atIndex]
  by_cases held : test old = true
  · have positive : 0 < elements.countP test := List.countP_pos_iff.mpr
      ⟨old, List.mem_iff_getElem?.mpr ⟨index, found⟩, held⟩
    simp only [held, if_true]
    omega
  · simp [held]

theorem unanswered_append_user (transcript : List AgentTranscriptEntry) (message : String) :
    unanswered (transcript ++ [⟨.user, message⟩]) = unanswered transcript + 1 := by
  induction transcript with
  | nil => simp [unanswered, awaits]
  | cons entry rest ih =>
      have sameNext : awaits entry
          (rest ++ [(⟨.user, message⟩ : AgentTranscriptEntry)]).head? =
          awaits entry rest.head? := by
        cases rest with
        | nil => rfl
        | cons next later => rfl
      rw [List.cons_append, unanswered, unanswered, ih, sameNext]
      omega

/-- A reply answers the last message of a transcript that ends with one. -/
theorem unanswered_append_assistant {transcript : List AgentTranscriptEntry}
    {last : AgentTranscriptEntry} (reply : String)
    (ends : transcript.getLast? = some last) (asked : last.role = .user) :
    unanswered (transcript ++ [⟨.assistant, reply⟩]) + 1 = unanswered transcript := by
  induction transcript with
  | nil => simp at ends
  | cons entry rest ih =>
      cases rest with
      | nil =>
          simp only [List.getLast?_singleton, Option.some.injEq] at ends
          subst ends
          simp [unanswered, awaits, asked]
      | cons next later =>
          rw [List.getLast?_cons_cons] at ends
          have answered := ih ends
          have sameNext : awaits entry
              ((next :: later) ++ [(⟨.assistant, reply⟩ : AgentTranscriptEntry)]).head? =
              awaits entry (next :: later).head? := rfl
          rw [List.cons_append, unanswered, sameNext, unanswered]
          omega

/-- Agents are numbered from one, and every agent has a parent before it. -/
structure Tree (allowed : List GrantKind) (shapes : List AgentShape) : Prop where
  named : ∀ index shape, shapes[index]? = some shape →
    shape.id = "agent-" ++ toString (index + 1)
  parents : ∀ (index : Nat) (shape : AgentShape), shapes[index]? = some shape →
    (shape.parentId = rootAgentId ∧ shape.depth = 1 ∧ shape.childGrants ⊆ allowed) ∨
      ∃ earlier parent, earlier < index ∧ shapes[earlier]? = some parent ∧
        shape.parentId = parent.id ∧ shape.depth = parent.depth + 1 ∧
        shape.childGrants ⊆ parent.childGrants

/-- A number is read back from its digits. -/
theorem eq_of_toString_eq {left right : Nat} (same : toString left = toString right) :
    left = right := by
  have read := congrArg (fun digits : String => Nat.ofDigitChars 10 digits.toList 0) same
  simpa [Nat.ofDigitChars_ten_toDigits] using read

/-- Two agents with one name stand at one place. -/
theorem Tree.index_eq {allowed : List GrantKind} {shapes : List AgentShape}
    (tree : Tree allowed shapes) {left right : Nat} {leftShape rightShape : AgentShape}
    (atLeft : shapes[left]? = some leftShape) (atRight : shapes[right]? = some rightShape)
    (same : leftShape.id = rightShape.id) :
    left = right := by
  rw [tree.named left leftShape atLeft, tree.named right rightShape atRight] at same
  have digits := eq_of_toString_eq ((String.append_right_inj "agent-").mp same)
  omega

/-- Agents that run a turn. -/
def runningCount (agents : List StoredAgent) : Nat :=
  agents.countP (·.status == .running)

/-- What every step keeps.  The number of events is bounded by what agents can do at
all, so no event is ever dropped and no counter is ever full. -/
structure SessionDocument.Coherent : Prop where
  budget : document.budget.validate = .ok ()
  sequence : document.nextAgentSequence = document.agents.length + 1
  tree : Tree document.allowedChildGrants (document.agents.map StoredAgent.shape)
  agents : document.agents.length ≤ document.budget.maxAgents
  depths : ∀ agent ∈ document.agents, agent.depth ≤ document.budget.maxDepth
  turns : ∀ agent ∈ document.agents, agent.turnsUsed ≤ document.budget.maxTurnsPerAgent
  total : document.totalTurns ≤ document.budget.maxTotalTurns
  sum : document.totalTurns = (document.agents.map StoredAgent.turnsUsed).sum
  next : document.nextEventSequence = document.events.length + 1
  numbered : ∀ index event, document.events[index]? = some event →
    event.sequence = index + 1
  known : ∀ event ∈ document.events, ∃ agent ∈ document.agents, event.agentId = agent.id
  bound : document.events.length + runningCount document.agents ≤
    document.agents.length + 2 * document.totalTurns + interruptedCount document.agents
  asking : ∀ agent ∈ document.agents, agent.status = .running →
    ∃ last, agent.transcript.getLast? = some last ∧ last.role = .user
  answered : ∀ agent ∈ document.agents, agent.status ≠ .interrupted →
    unanswered agent.transcript = failures document.events agent.id +
      (if agent.status = .running then 1 else 0)

namespace SessionDocument.Coherent

variable {document : SessionDocument}

theorem new (store : CoordinatorStore) :
    (SessionDocument.new store.authority store.instanceId).Coherent := by
  constructor <;>
    simp [SessionDocument.new, store.budget_valid, runningCount, interruptedCount]
  · constructor <;> simp

/-- Fewer than two hundred events are ever logged. -/
theorem events_lt (coherent : document.Coherent) : document.events.length ≤ 160 := by
  have limits := AgentBudget.validate_eq_ok coherent.budget
  unfold maxAgentCount maxAgentTotalTurns at limits
  have count := coherent.agents
  have total := coherent.total
  have bound := coherent.bound
  have interrupted : interruptedCount document.agents ≤ document.agents.length :=
    List.countP_le_length
  omega

/-- Two agents with one id stand at one place. -/
theorem index_eq (coherent : document.Coherent) {left right : Nat}
    {leftAgent rightAgent : StoredAgent}
    (atLeft : document.agents[left]? = some leftAgent)
    (atRight : document.agents[right]? = some rightAgent)
    (same : leftAgent.id = rightAgent.id) :
    left = right := by
  have leftShape : (document.agents.map StoredAgent.shape)[left]? = some leftAgent.shape := by
    rw [List.getElem?_map, atLeft]
    rfl
  have rightShape :
      (document.agents.map StoredAgent.shape)[right]? = some rightAgent.shape := by
    rw [List.getElem?_map, atRight]
    rfl
  exact coherent.tree.index_eq leftShape rightShape same

theorem nodup_ids (coherent : document.Coherent) :
    (document.agents.map StoredAgent.id).Nodup := by
  rw [List.nodup_iff_getElem?_ne_getElem?]
  intro left right before bound same
  rw [List.length_map] at bound
  have atLeft := List.getElem?_eq_getElem (Nat.lt_trans before bound)
  have atRight := List.getElem?_eq_getElem bound
  rw [List.getElem?_map, List.getElem?_map, atLeft, atRight] at same
  have sameIndex := coherent.index_eq atLeft atRight (by simpa using same)
  omega

/-- An event is appended and nothing dropped. -/
theorem log_eq (coherent : document.Coherent) (changed : SessionDocument)
    (sameEvents : changed.events = document.events)
    (sameNext : changed.nextEventSequence = document.nextEventSequence)
    (event : AgentEvent) :
    changed.log event = { changed with
      nextEventSequence := document.nextEventSequence + 1
      events := document.events ++ [event] } := by
  have few := coherent.events_lt
  have next := coherent.next
  have small : nextU64 changed.nextEventSequence = document.nextEventSequence + 1 := by
    rw [sameNext]
    apply nextU64_of_lt
    omega
  have kept : (document.events ++ [event]).length - maxAgentEvents = 0 := by
    rw [List.length_append, List.length_singleton]
    unfold maxAgentEvents
    omega
  unfold SessionDocument.log
  rw [small, sameEvents, kept, List.drop_zero]

/-- The next event keeps the numbering. -/
theorem numbered_append (coherent : document.Coherent) {event : AgentEvent}
    (next : event.sequence = document.nextEventSequence) :
    ∀ index other, (document.events ++ [event])[index]? = some other →
      other.sequence = index + 1 := by
  intro index other found
  rw [List.getElem?_append] at found
  split at found
  · exact coherent.numbered index other found
  · case isFalse beyond =>
      have atEnd : index - document.events.length = 0 := by
        by_contra later
        rw [List.getElem?_eq_none (by simp; omega)] at found
        cases found
      rw [atEnd] at found
      simp only [List.getElem?_cons_zero, Option.some.injEq] at found
      rw [← found, next, coherent.next]
      omega

end SessionDocument.Coherent

/-- One event counts as one failed turn of its agent, if it is one. -/
theorem failures_append (events : List AgentEvent) (event : AgentEvent) (id : String) :
    failures (events ++ [event]) id = failures events id +
      (if event.agentId == id && event.kind == .failed then 1 else 0) := by
  simp [failures, List.countP_append, List.countP_singleton]

/-- 1 where the status is the given one. -/
def weight (status : AgentStatus) (agent : StoredAgent) : Nat :=
  if agent.status == status then 1 else 0

/-- What the change of one agent has to keep for that agent; `turn` is 1 where it begins
a turn. -/
structure AgentKept (agent changed : StoredAgent)
    (kind : AgentEventKind) (turn : Nat) : Prop where
  shape : changed.shape = agent.shape
  used : changed.turnsUsed = agent.turnsUsed + turn
  turns : changed.turnsUsed ≤ document.budget.maxTurnsPerAgent
  total : document.totalTurns + turn ≤ document.budget.maxTotalTurns
  potential : 1 + weight .running changed + weight .interrupted agent ≤
    2 * turn + weight .running agent + weight .interrupted changed
  asking : changed.status = .running →
    ∃ last, changed.transcript.getLast? = some last ∧ last.role = .user
  answered : changed.status ≠ .interrupted →
    unanswered changed.transcript = failures document.events agent.id +
      (if kind = .failed then 1 else 0) + (if changed.status = .running then 1 else 0)

section Steps

variable {document after : SessionDocument}

/-- Replacing an agent and logging it keeps the invariant. -/
theorem SessionDocument.Coherent.replace (coherent : document.Coherent) {turn : Nat}
    {agent changed : StoredAgent} {kind : AgentEventKind} (detail : String) (now : Nat)
    (found : document.agents[index]? = some agent)
    (kept : AgentKept document agent changed kind turn) :
    SessionDocument.Coherent { document with
      agents := document.agents.set index changed
      totalTurns := document.totalTurns + turn
      nextEventSequence := document.nextEventSequence + 1
      events := document.events ++ [document.nextEvent agent.id kind detail now] } := by
  have sameId : changed.id = agent.id := congrArg AgentShape.id kept.shape
  have sameDepth : changed.depth = agent.depth := congrArg AgentShape.depth kept.shape
  have oldMember : agent ∈ document.agents := List.mem_iff_getElem?.mpr ⟨index, found⟩
  have sameShapes := map_set_of_eq StoredAgent.shape found kept.shape
  constructor
  · exact coherent.budget
  · change _ = (document.agents.set index changed).length + 1
    rw [List.length_set]
    exact coherent.sequence
  · change Tree _ ((document.agents.set index changed).map StoredAgent.shape)
    rw [sameShapes]
    exact coherent.tree
  · change (document.agents.set index changed).length ≤ _
    rw [List.length_set]
    exact coherent.agents
  · intro other member
    rcases List.mem_or_eq_of_mem_set member with old | same
    · exact coherent.depths other old
    · rw [same, sameDepth]
      exact coherent.depths agent oldMember
  · intro other member
    rcases List.mem_or_eq_of_mem_set member with old | same
    · exact coherent.turns other old
    · rw [same]
      exact kept.turns
  · exact kept.total
  · have summed := sum_map_set changed StoredAgent.turnsUsed found
    have sum := coherent.sum
    have used := kept.used
    change document.totalTurns + turn = ((document.agents.set index changed).map _).sum
    omega
  · simp [coherent.next]
  · exact coherent.numbered_append rfl
  · intro event member
    have stays : ∀ other ∈ document.agents, ∃ twin ∈ document.agents.set index changed,
        other.id = twin.id := by
      intro other present
      have names := map_set_of_eq StoredAgent.id found sameId
      have listed : other.id ∈ (document.agents.set index changed).map StoredAgent.id := by
        rw [names]
        exact List.mem_map_of_mem present
      obtain ⟨twin, twinMember, same⟩ := List.mem_map.mp listed
      exact ⟨twin, twinMember, same.symm⟩
    rcases List.mem_append.mp member with old | new
    · obtain ⟨other, present, same⟩ := coherent.known event old
      obtain ⟨twin, twinMember, sameTwin⟩ := stays other present
      exact ⟨twin, twinMember, same.trans sameTwin⟩
    · rw [List.mem_singleton.mp new]
      exact stays agent oldMember
  · have running := countP_set_add changed (·.status == .running) found
    have interrupted := countP_set_add changed (·.status == .interrupted) found
    have potential := kept.potential
    have bound := coherent.bound
    change (document.events ++ [_]).length + runningCount (document.agents.set index changed) ≤
      (document.agents.set index changed).length + 2 * (document.totalTurns + turn) +
        interruptedCount (document.agents.set index changed)
    unfold runningCount interruptedCount weight at *
    rw [List.length_append, List.length_singleton, List.length_set]
    omega
  · intro other member
    rcases List.mem_or_eq_of_mem_set member with old | same
    · exact coherent.asking other old
    · rw [same]
      exact kept.asking
  · intro other member notInterrupted
    obtain ⟨position, atPosition⟩ := List.mem_iff_getElem?.mp member
    change unanswered other.transcript = failures (document.events ++ [_]) other.id + _
    rw [failures_append]
    by_cases here : index = position
    · obtain ⟨bound, -⟩ := List.getElem?_eq_some_iff.mp found
      subst here
      change (document.agents.set index changed)[index]? = some other at atPosition
      rw [List.getElem?_set_self bound, Option.some.injEq] at atPosition
      rw [← atPosition] at notInterrupted ⊢
      rw [kept.answered notInterrupted, sameId]
      simp [SessionDocument.nextEvent]
    · change (document.agents.set index changed)[position]? = some other at atPosition
      rw [List.getElem?_set_ne here] at atPosition
      have differs : agent.id ≠ other.id := by
        intro same
        apply here
        exact coherent.index_eq found atPosition same
      rw [coherent.answered other (List.mem_iff_getElem?.mpr ⟨position, atPosition⟩)
        notInterrupted]
      simp [SessionDocument.nextEvent, differs]

theorem AgentStep.kept (coherent : document.Coherent)
    {agent changed : StoredAgent} {kind : AgentEventKind} {now : Nat}
    (found : document.agents[index]? = some agent) (step : AgentStep now agent changed kind) :
    AgentKept document agent changed kind 0 := by
  have member : agent ∈ document.agents := List.mem_iff_getElem?.mpr ⟨index, found⟩
  have turns := coherent.turns agent member
  have total := coherent.total
  cases step with
  | complete reply running =>
      obtain ⟨last, ends, asked⟩ := coherent.asking agent member running
      have before := coherent.answered agent member (by simp [running])
      have answered := unanswered_append_assistant reply ends asked
      refine ⟨rfl, rfl, turns, total, ?_, ?_, ?_⟩
      · simp [weight, StoredAgent.record, running]
      · intro impossible
        cases impossible
      · intro _
        rw [running] at before
        simp only [if_true] at before
        simp only [StoredAgent.record, reduceCtorEq, if_false]
        omega
  | fail running =>
      have before := coherent.answered agent member (by simp [running])
      refine ⟨rfl, rfl, turns, total, ?_, ?_, ?_⟩
      · simp [weight, StoredAgent.setStatus, running]
      · intro impossible
        cases impossible
      · intro _
        rw [running] at before
        simpa [StoredAgent.setStatus] using before
  | interrupt notInterrupted =>
      refine ⟨rfl, rfl, turns, total, ?_, ?_, ?_⟩
      · simp [weight, StoredAgent.setStatus, notInterrupted]
      · intro impossible
        cases impossible
      · intro impossible
        exact absurd rfl impossible

theorem beginTurn_kept (coherent : document.Coherent) {agent : StoredAgent}
    (message : String) (now : Nat)
    (found : document.agents[index]? = some agent)
    (notRunning : agent.status ≠ .running) (notInterrupted : agent.status ≠ .interrupted)
    (allowed : agent.turnsUsed < document.budget.maxTurnsPerAgent)
    (room : document.totalTurns < document.budget.maxTotalTurns) :
    AgentKept document agent (agent.beginTurn ⟨.user, message⟩ now) .turnStarted 1 := by
  have member : agent ∈ document.agents := List.mem_iff_getElem?.mpr ⟨index, found⟩
  have limits := AgentBudget.validate_eq_ok coherent.budget
  have counted : nextU16 agent.turnsUsed = agent.turnsUsed + 1 := by
    apply nextU16_of_lt
    unfold maxAgentTurnsPerAgent at limits
    omega
  have before := coherent.answered agent member notInterrupted
  rw [if_neg notRunning] at before
  refine ⟨rfl, counted, ?_, by omega, ?_, ?_, ?_⟩
  · change nextU16 agent.turnsUsed ≤ _
    omega
  · simp [weight, StoredAgent.beginTurn, StoredAgent.record, notInterrupted]
  · intro _
    exact ⟨⟨.user, message⟩, by simp [StoredAgent.beginTurn, StoredAgent.record], rfl⟩
  · intro _
    change unanswered (agent.transcript ++ [⟨.user, message⟩]) = _
    rw [unanswered_append_user, before]
    simp [StoredAgent.beginTurn, StoredAgent.record]

/-- A new agent under a parent of the tree. -/
theorem Tree.append {allowed : List GrantKind} {shapes : List AgentShape}
    (tree : Tree allowed shapes) (shape : AgentShape)
    (named : shape.id = "agent-" ++ toString (shapes.length + 1))
    (parent : (shape.parentId = rootAgentId ∧ shape.depth = 1 ∧
        shape.childGrants ⊆ allowed) ∨
      ∃ (earlier : Nat) (parent : AgentShape), shapes[earlier]? = some parent ∧
        shape.parentId = parent.id ∧ shape.depth = parent.depth + 1 ∧
        shape.childGrants ⊆ parent.childGrants) :
    Tree allowed (shapes ++ [shape]) := by
  have cases : ∀ (index : Nat) (other : AgentShape),
      (shapes ++ [shape])[index]? = some other →
        shapes[index]? = some other ∨ index = shapes.length ∧ other = shape := by
    intro index other found
    rw [List.getElem?_append] at found
    split at found
    · exact .inl found
    · case isFalse beyond =>
        rw [List.getElem?_singleton] at found
        split at found
        · case isTrue atEnd =>
            cases found
            exact .inr ⟨by omega, rfl⟩
        · cases found
  constructor
  · intro index other found
    rcases cases index other found with old | ⟨rfl, rfl⟩
    · exact tree.named index other old
    · exact named
  · intro index other found
    have kept : ∀ (earlier : Nat) (ancestor : AgentShape), shapes[earlier]? = some ancestor →
        (shapes ++ [shape])[earlier]? = some ancestor := by
      intro earlier ancestor located
      rw [List.getElem?_append_left (List.getElem?_eq_some_iff.mp located).1]
      exact located
    rcases cases index other found with old | ⟨rfl, rfl⟩
    · rcases tree.parents index other old with atRoot | under
      · exact .inl atRoot
      · obtain ⟨earlier, ancestor, before, located, rest⟩ := under
        exact .inr ⟨earlier, ancestor, before, kept earlier ancestor located, rest⟩
    · rcases parent with atRoot | under
      · exact .inl atRoot
      · obtain ⟨earlier, ancestor, located, rest⟩ := under
        exact .inr ⟨earlier, ancestor, (List.getElem?_eq_some_iff.mp located).1,
          kept earlier ancestor located, rest⟩

/-- Agents that do not exist have no events. -/
theorem SessionDocument.Coherent.failures_of_fresh (coherent : document.Coherent)
    {id : String} (fresh : ∀ agent ∈ document.agents, agent.id ≠ id) :
    failures document.events id = 0 := by
  refine List.countP_eq_zero.mpr ?_
  intro event member matched
  obtain ⟨agent, present, same⟩ := coherent.known event member
  simp only [Bool.and_eq_true, beq_iff_eq] at matched
  exact fresh agent present (same.symm.trans matched.1)

theorem SessionDocument.Coherent.spawn (coherent : document.Coherent)
    {stored : StoredAgent} {depth : Nat} {grants : List GrantKind} {detail : String}
    {now : Nat} (parent : ParentFor document stored.parentId depth grants)
    (named : stored.id = "agent-" ++ toString document.nextAgentSequence)
    (deeper : stored.depth = nextU16 depth)
    (shallow : stored.depth ≤ document.budget.maxDepth)
    (contained : stored.childGrants ⊆ grants)
    (fresh : stored.status = .pending ∧ stored.turnsUsed = 0 ∧ stored.transcript = [])
    (room : document.agents.length < document.budget.maxAgents) :
    ((document.takeSequence.log
      (document.takeSequence.nextEvent stored.id .spawned detail now)).addAgent
        stored).Coherent := by
  obtain ⟨pending, unused, silent⟩ := fresh
  have limits := AgentBudget.validate_eq_ok coherent.budget
  unfold maxAgentCount maxAgentDepth at limits
  have drawn : nextU64 document.nextAgentSequence = document.nextAgentSequence + 1 := by
    apply nextU64_of_lt
    have sequence := coherent.sequence
    omega
  have newName : ∀ agent ∈ document.agents, agent.id ≠ stored.id := by
    intro agent member same
    obtain ⟨index, found⟩ := List.mem_iff_getElem?.mp member
    obtain ⟨bound, -⟩ := List.getElem?_eq_some_iff.mp found
    have name := coherent.tree.named index agent.shape (by rw [List.getElem?_map, found]; rfl)
    change agent.id = _ at name
    rw [same, named, coherent.sequence] at name
    have digits := eq_of_toString_eq ((String.append_right_inj "agent-").mp name)
    omega
  rw [coherent.log_eq document.takeSequence rfl rfl]
  change SessionDocument.Coherent
    { document with
      nextAgentSequence := nextU64 document.nextAgentSequence
      nextEventSequence := document.nextEventSequence + 1
      events := document.events ++ [document.nextEvent stored.id .spawned detail now]
      agents := document.agents ++ [stored] }
  rw [drawn]
  constructor
  · exact coherent.budget
  · simp [coherent.sequence]
  · change Tree _ ((document.agents ++ [stored]).map StoredAgent.shape)
    rw [List.map_append]
    apply coherent.tree.append
    · rw [List.length_map, ← coherent.sequence]
      exact named
    · generalize parentName : stored.parentId = name at parent
      cases parent with
      | root => exact .inl ⟨parentName, deeper, contained⟩
      | agent ancestor index found available =>
          right
          refine ⟨index, ancestor.shape, by rw [List.getElem?_map, found]; rfl, parentName, ?_,
            contained⟩
          have ancestorDepth := coherent.depths ancestor
            (List.mem_iff_getElem?.mpr ⟨index, found⟩)
          change stored.depth = ancestor.depth + 1
          rw [deeper]
          apply nextU16_of_lt
          omega
  · simpa using Nat.succ_le_of_lt room
  · intro agent member
    rcases List.mem_append.mp member with old | new
    · exact coherent.depths agent old
    · rw [List.mem_singleton.mp new]
      exact shallow
  · intro agent member
    rcases List.mem_append.mp member with old | new
    · exact coherent.turns agent old
    · rw [List.mem_singleton.mp new, unused]
      exact Nat.zero_le _
  · exact coherent.total
  · have sum := coherent.sum
    simp only [List.map_append, List.sum_append]
    simpa [unused] using sum
  · simp [coherent.next]
  · exact coherent.numbered_append rfl
  · intro event member
    rcases List.mem_append.mp member with old | new
    · obtain ⟨agent, present, same⟩ := coherent.known event old
      exact ⟨agent, List.mem_append_left _ present, same⟩
    · rw [List.mem_singleton.mp new]
      exact ⟨stored, by simp, rfl⟩
  · have bound := coherent.bound
    unfold runningCount interruptedCount at bound ⊢
    simp only [List.countP_append, List.length_append, List.length_singleton,
      List.countP_singleton, pending]
    simp only [beq_iff_eq, reduceCtorEq, if_false]
    omega
  · intro agent member running
    rcases List.mem_append.mp member with old | new
    · exact coherent.asking agent old running
    · rw [List.mem_singleton.mp new, pending] at running
      cases running
  · intro agent member notInterrupted
    change unanswered agent.transcript = failures (document.events ++ [_]) agent.id + _
    rw [failures_append]
    rcases List.mem_append.mp member with old | new
    · rw [coherent.answered agent old notInterrupted]
      simp [SessionDocument.nextEvent]
    · rw [List.mem_singleton.mp new, silent, pending, coherent.failures_of_fresh newName]
      simp [unanswered, SessionDocument.nextEvent]

/-- Every small step keeps the invariant. -/
theorem DocumentStep.coherent (step : DocumentStep document after)
    (coherent : document.Coherent) :
    after.Coherent := by
  cases step with
  | spawn stored depth grants detail now parent named deeper shallow contained fresh room =>
      exact coherent.spawn parent named deeper shallow contained fresh room
  | start index agent message detail now found notRunning notInterrupted allowed room =>
      have limits := AgentBudget.validate_eq_ok coherent.budget
      unfold maxAgentTotalTurns at limits
      have counted : nextU16 document.totalTurns = document.totalTurns + 1 := by
        apply nextU16_of_lt
        omega
      rw [coherent.log_eq ((document.changeAgent index fun _ =>
        agent.beginTurn ⟨.user, message⟩ now).countTurn) rfl rfl]
      have replaced := coherent.replace detail now found
        (beginTurn_kept coherent message now found notRunning notInterrupted allowed room)
      rw [← modify_const_eq_set _ found, ← counted] at replaced
      exact replaced
  | change index agent changed kind detail now found step =>
      rw [coherent.log_eq (document.changeAgent index fun _ => changed) rfl rfl]
      have replaced := coherent.replace detail now found
        (step.kept coherent found)
      rw [← modify_const_eq_set _ found] at replaced
      exact replaced
  | adopt instanceId =>
      exact ⟨coherent.budget, coherent.sequence, coherent.tree, coherent.agents,
        coherent.depths, coherent.turns, coherent.total, coherent.sum, coherent.next,
        coherent.numbered, coherent.known, coherent.bound, coherent.asking,
        coherent.answered⟩

theorem DocumentSteps.coherent (steps : DocumentSteps document after)
    (coherent : document.Coherent) :
    after.Coherent := by
  induction steps with
  | refl => exact coherent
  | tail _ step ih => exact step.coherent ih

end Steps

/-- A coherent document keeps the contract; each failed turn of an agent leaves one
message unanswered. -/
theorem SessionDocument.Coherent.contract {document : SessionDocument}
    (coherent : document.Coherent) :
    document.Contract fun agent => 1 + failures document.events agent.id := by
  constructor
  · exact coherent.nodup_ids
  · intro index agent found
    have listed : (document.agents.map StoredAgent.shape)[index]? = some agent.shape := by
      rw [List.getElem?_map, found]
      rfl
    rcases coherent.tree.parents index agent.shape listed with atRoot | under
    · exact .inl atRoot
    · obtain ⟨earlier, parentShape, before, located, named, depth, grants⟩ := under
      rw [List.getElem?_map] at located
      obtain ⟨parent, atEarlier, rfl⟩ := Option.map_eq_some_iff.mp located
      exact .inr ⟨earlier, parent, before, atEarlier, named, depth, grants⟩
  · exact coherent.agents
  · exact coherent.depths
  · exact coherent.turns
  · exact coherent.total
  · exact coherent.sum
  · intro agent member running
    rw [coherent.answered agent member (by simp [running]), if_pos running]
    omega
  · intro index first second atFirst atSecond
    rw [coherent.numbered index first atFirst, coherent.numbered (index + 1) second atSecond]
  · intro event last
    rw [List.getLast?_eq_getElem?] at last
    have bound := (List.getElem?_eq_some_iff.mp last).1
    rw [coherent.numbered _ event last, coherent.next]
    omega

/-- What the files of a session hold when only stores have written them. -/
structure Files.Coherent (files : Files) : Prop where
  noBackup : files.backup = .absent
  kept : files.primary = .absent ∨
    ∃ document, files.primary = .document document ∧ document.Coherent

/-- A loaded document is the one of the state file. -/
theorem Files.Coherent.loaded {files : Files} {document : SessionDocument}
    (coherent : files.Coherent) (found : files.load = .ok (some document)) :
    document.Coherent := by
  obtain ⟨noBackup, absent | ⟨stored, present, kept⟩⟩ := coherent
  · simp [Files.load, absent, noBackup, Stored.load] at found
  · simp only [Files.load, present, Stored.load, Except.ok.injEq, Option.some.injEq] at found
    rw [← found]
    exact kept

/-- Loading keeps the invariant. -/
theorem LoadEnd.coherent {store : CoordinatorStore} {loadedAt : Nat} {files final : Files}
    {loaded : SessionDocument} (ended : LoadEnd store loadedAt files loaded final)
    (coherent : files.Coherent) :
    loaded.Coherent ∧ final.Coherent := by
  cases ended with
  | fresh => exact ⟨.new store, coherent⟩
  | same stored found => exact ⟨coherent.loaded found, coherent⟩
  | recovered stored recovered _ found _ _ _ steps written =>
      have kept := steps.coherent (coherent.loaded found)
      rcases written with ⟨-, rfl⟩ | ⟨-, rfl⟩
      · exact ⟨kept, coherent⟩
      · exact ⟨kept, rfl, .inr ⟨loaded, rfl, kept⟩⟩

/-- Every call keeps the invariant. -/
theorem storeStep_coherent (size : Encoder) (files : Files) (action : StoreAction)
    (coherent : files.Coherent) :
    (storeStep size files action).Coherent := by
  have ended : CallEnd action files _ (storeStep size files action) :=
    perform_spec size action files
  rcases ended.steps with unchanged | ⟨loaded, loads⟩ | saved
  · rw [unchanged]
    exact coherent
  · exact (loads.coherent coherent).2
  · obtain ⟨loaded, middle, document, loads, steps, -, written⟩ := saved
    rw [written]
    exact ⟨rfl, .inr ⟨document, rfl, steps.coherent (loads.coherent coherent).1⟩⟩

/-- Every document a session has after some calls keeps the contract: from no document,
by any stores with any authorities, and whichever calls fail.  The running turn of an
agent is the only one without a reply that has not failed. -/
theorem documents_keep_contract (size : Encoder) (actions : List StoreAction) :
    Throughout (storeStep size) (fun files => ∀ document,
      files.load = .ok (some document) →
        document.Contract fun agent => 1 + failures document.events agent.id)
      ⟨.absent, .absent⟩ actions := by
  have coherent : Throughout (storeStep size) Files.Coherent ⟨.absent, .absent⟩ actions :=
    throughout_of_invariant Files.Coherent (storeStep_coherent size) ⟨rfl, .inl rfl⟩ actions
  exact coherent.mono fun files kept document found => (kept.loaded found).contract

/-- A spawn, a turn that fails, and another turn. -/
def failedTurnRun : List StoreAction :=
  [⟨sampleStore, 0, .spawn 1 ⟨sampleStore.authority, rootAgentId, none, "task", []⟩⟩,
    ⟨sampleStore, 2, .startTurn 3 (sampleStart sampleStore.authority "agent-1")⟩,
    ⟨sampleStore, 4, .failTurn 5 ⟨sampleStore.authority, "agent-1", "model", "no reply"⟩⟩,
    ⟨sampleStore, 6, .startTurn 7 (sampleStart sampleStore.authority "agent-1")⟩]

/-- The agent after it. -/
def twiceAsked : StoredAgent :=
  ⟨"agent-1", rootAgentId, "Agent 1", 1, .running, 2, [], [⟨.user, "next"⟩, ⟨.user, "next"⟩],
    1, 7⟩

/-- The document after it. -/
def twiceAskedDocument : SessionDocument :=
  { SessionDocument.new sampleStore.authority "first" with
    totalTurns := 2
    nextAgentSequence := 2
    nextEventSequence := 5
    agents := [twiceAsked]
    events :=
      [⟨1, "agent-1", .spawned, "spawned under root", 1⟩,
        ⟨2, "agent-1", .turnStarted, "child model turn started", 3⟩,
        ⟨3, "agent-1", .failed, "model: no reply", 5⟩,
        ⟨4, "agent-1", .turnStarted, "child model turn started", 7⟩] }

/-- A turn that follows a failed one leaves two messages without a reply. -/
theorem failed_turn_stays_unanswered : ¬ ∀ (size : Encoder) (actions : List StoreAction),
      Throughout (storeStep size) (fun files => ∀ document,
        files.load = .ok (some document) → document.Contract fun _ => 1)
        ⟨.absent, .absent⟩ actions := by
  intro always
  have atEnd := (always (fun _ => 0) failedTurnRun).last
  have reached : finalState (storeStep fun _ => 0) ⟨.absent, .absent⟩ failedTurnRun =
      ⟨.document twiceAskedDocument, .absent⟩ := by decide
  rw [reached] at atEnd
  have few := (atEnd twiceAskedDocument rfl).answered twiceAsked (by decide) rfl
  revert few
  decide

end MultiAgent
end YunXi
