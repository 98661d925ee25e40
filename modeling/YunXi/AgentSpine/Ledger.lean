import YunXi.AgentSpine.Journal
import YunXi.Program.Run

/-!
# The ledger of turns

The session log is a ledger: its records are numbered from one, its byte count is
the sum of the encodings, the records of a turn stand together, and a turn that is
over has one terminal record, which is its last.  The terminal record is appended
with its result ignored, so the last of these depends on the text of the error
that ended the turn.  The module finds the exact condition.
-/

namespace YunXi
namespace AgentSpine

open Fallible
open Protocol

variable {σ : Type}

/-- The turn has one terminal record, and it is the last record of the turn. -/
def EndsOnce (turnId : String) (events : List SessionEvent) : Prop :=
  ∃ progress last, (events.filter fun event => event.turnId == turnId) =
      progress ++ [last] ∧
    (∀ event ∈ progress, event.isTerminal = false) ∧ last.isTerminal = true

/-- The records of a turn stand together. -/
def Grouped (events : List SessionEvent) : Prop :=
  ∀ first second third, List.Sublist [first, second, third] events →
    first.turnId = third.turnId → second.turnId = first.turnId

/-- Sequence numbers count from one and the byte count adds up. -/
structure SessionLog.Counted (log : SessionLog) : Prop where
  sequences : log.records.map SessionRecord.sequence = List.range' 1 log.records.length
  nextSequence : log.nextSequence = log.records.length + 1
  bytesUsed : log.bytesUsed = (log.events.map SessionEvent.encodedSize).sum
  bounded : log.bytesUsed ≤ log.limits.maxBytes

/-- The turn the agent keeps suspended. -/
def Agent.suspendedTurn (agent : Agent σ) : Option String :=
  agent.pendingTurn.map fun pending => pending.tracker.snapshot.id

/-- Every turn with a record is suspended or has ended once, turns do not interleave,
and the counters of the log are right. -/
structure Agent.LogKept (agent : Agent σ) : Prop where
  ended : ∀ event ∈ agent.session.events, agent.suspendedTurn ≠ some event.turnId →
    EndsOnce event.turnId agent.session.events
  grouped : Grouped agent.session.events
  counted : agent.session.Counted

theorem turnName_injective : Function.Injective turnName := by
  intro first second same
  unfold turnName at same
  have digits : Nat.toDigits 10 first = Nat.toDigits 10 second := by
    have lists := congrArg String.toList same
    simpa using lists
  have numbers := congrArg (fun characters => Nat.ofDigitChars 10 characters 0) digits
  simpa using numbers

/-- The turn of the first event is not later than the turn of the second. -/
def NotLater (first second : SessionEvent) : Prop :=
  ∃ earlier later, earlier ≤ later ∧ first.turnId = turnName earlier ∧
    second.turnId = turnName later

variable {events : List SessionEvent}

/-- Records in the order of their turns are grouped by turns. -/
theorem grouped_of_pairwise (ordered : events.Pairwise NotLater) :
    Grouped events := by
  intro first second third within same
  have three := List.Pairwise.sublist within ordered
  simp only [List.pairwise_cons, List.mem_cons, List.not_mem_nil, or_false, forall_eq_or_imp,
    forall_eq] at three
  obtain ⟨⟨⟨one, two, below, isOne, isTwo⟩, -⟩, ⟨alsoTwo, three, above, also, isThree⟩, -⟩ :=
    three
  have sameTwo := turnName_injective (isTwo.symm.trans also)
  have sameThree := turnName_injective (isOne.symm.trans (same.trans isThree))
  have equal : two = one := by omega
  rw [isTwo, isOne, equal]

/-- The log of an agent that has named the turns below `nextTurn`, with at most one
of them, the last, still running. -/
structure Ledger (nextTurn : Nat) (running : Option String) (log : SessionLog) : Prop where
  numbered : ∀ event ∈ log.events, ∃ number, number < nextTurn ∧
    event.turnId = turnName number
  ordered : log.events.Pairwise NotLater
  ended : ∀ event ∈ log.events, running ≠ some event.turnId →
    EndsOnce event.turnId log.events
  latest : ∀ turnId, running = some turnId → ∃ number, nextTurn = number + 1 ∧
    turnId = turnName number
  unended : ∀ event ∈ log.events, running = some event.turnId → event.isTerminal = false

/-- The log has a record of the turn. -/
def SessionLog.Mentions (log : SessionLog) (turnId : String) : Prop :=
  ∃ event ∈ log.events, event.turnId = turnId

variable {event : SessionEvent} {turnId : String}

theorem EndsOnce.append_other (ends : EndsOnce turnId events) (other : event.turnId ≠ turnId) :
    EndsOnce turnId (events ++ [event]) := by
  obtain ⟨progress, last, split, running, terminal⟩ := ends
  refine ⟨progress, last, ?_, running, terminal⟩
  rw [List.filter_append, split]
  simp [other]

/-- A turn ends with its first terminal record. -/
theorem endsOnce_append (running : ∀ earlier ∈ events, earlier.turnId = event.turnId →
      earlier.isTerminal = false)
    (terminal : event.isTerminal = true) :
    EndsOnce event.turnId (events ++ [event]) := by
  refine ⟨events.filter fun earlier => earlier.turnId == event.turnId, event, ?_, ?_,
    terminal⟩
  · rw [List.filter_append]
    simp
  · intro earlier member
    obtain ⟨member, same⟩ := List.mem_filter.mp member
    exact running earlier member (by simpa using same)

/-- A turn without a terminal record has not ended. -/
theorem not_endsOnce
    (running : ∀ event ∈ events, event.turnId = turnId → event.isTerminal = false) :
    ¬ EndsOnce turnId events := by
  rintro ⟨progress, last, split, -, terminal⟩
  have member : last ∈ events.filter fun event => event.turnId == turnId := by
    rw [split]
    simp
  obtain ⟨member, same⟩ := List.mem_filter.mp member
  rw [running last member (by simpa using same)] at terminal
  cases terminal

variable {before after : Live σ}

namespace Ledger

variable {nextTurn : Nat} {running : Option String} {turnId : String} {log : SessionLog}

theorem grouped (ledger : Ledger nextTurn running log) : Grouped log.events :=
  grouped_of_pairwise ledger.ordered

/-- A new turn has no record yet. -/
theorem unmentioned (ledger : Ledger nextTurn running log) :
    ¬ log.Mentions (turnName nextTurn) := by
  rintro ⟨event, member, same⟩
  obtain ⟨number, below, name⟩ := ledger.numbered event member
  have equal := turnName_injective (name.symm.trans same)
  omega

/-- The next turn starts. -/
theorem start (ledger : Ledger nextTurn none log) :
    Ledger (nextTurn + 1) (some (turnName nextTurn)) log where
  numbered event member := by
    obtain ⟨number, below, name⟩ := ledger.numbered event member
    exact ⟨number, by omega, name⟩
  ordered := ledger.ordered
  ended event member _ := ledger.ended event member (by simp)
  latest turnId same := by
    cases same
    exact ⟨nextTurn, rfl, rfl⟩
  unended event member same :=
    absurd ⟨event, member, (Option.some.inj same).symm⟩ ledger.unmentioned

/-- A turn that left no record never ran. -/
theorem unlogged (ledger : Ledger nextTurn (some turnId) log)
    (silent : ¬ log.Mentions turnId) :
    Ledger nextTurn none log where
  numbered := ledger.numbered
  ordered := ledger.ordered
  ended event member _ := ledger.ended event member fun same =>
    silent ⟨event, member, (Option.some.inj same).symm⟩
  latest _ nothing := by cases nothing
  unended _ _ nothing := by cases nothing

/-- Records of the running turn come last. -/
theorem ordered_extend (ledger : Ledger nextTurn (some turnId) log)
    (ofTurn : event.turnId = turnId) :
    (log.extend event).events.Pairwise NotLater := by
  obtain ⟨current, last, name⟩ := ledger.latest turnId rfl
  rw [SessionLog.events_extend, List.pairwise_append]
  refine ⟨ledger.ordered, List.pairwise_singleton _ _, ?_⟩
  intro earlier member later same
  rw [List.mem_singleton.mp same]
  obtain ⟨number, below, earlierName⟩ := ledger.numbered earlier member
  exact ⟨number, current, by omega, earlierName, ofTurn.trans name⟩

theorem numbered_extend (ledger : Ledger nextTurn (some turnId) log)
    (ofTurn : event.turnId = turnId) :
    ∀ logged ∈ (log.extend event).events, ∃ number, number < nextTurn ∧
      logged.turnId = turnName number := by
  obtain ⟨current, last, name⟩ := ledger.latest turnId rfl
  intro logged member
  rw [SessionLog.events_extend, List.mem_append, List.mem_singleton] at member
  rcases member with member | rfl
  · exact ledger.numbered logged member
  · exact ⟨current, by omega, ofTurn.trans name⟩

/-- Another turn ended before the running one logged its event. -/
theorem ended_extend (ledger : Ledger nextTurn (some turnId) log)
    (ofTurn : event.turnId = turnId) :
    ∀ logged ∈ log.events, logged.turnId ≠ turnId →
      EndsOnce logged.turnId (log.extend event).events := by
  intro logged member other
  rw [SessionLog.events_extend]
  refine (ledger.ended logged member fun same => other (Option.some.inj same).symm).append_other ?_
  rw [ofTurn]
  exact Ne.symm other

/-- The running turn goes on. -/
theorem progress (ledger : Ledger nextTurn (some turnId) log)
    (isProgress : event.IsProgressOf turnId) :
    Ledger nextTurn (some turnId) (log.extend event) where
  numbered := ledger.numbered_extend isProgress.1
  ordered := ledger.ordered_extend isProgress.1
  ended logged member notRunning := by
    have other : logged.turnId ≠ turnId := fun same => notRunning (by rw [same])
    rw [SessionLog.events_extend, List.mem_append, List.mem_singleton] at member
    rcases member with member | rfl
    · exact ledger.ended_extend isProgress.1 logged member other
    · exact absurd isProgress.1 other
  latest := ledger.latest
  unended logged member same := by
    rw [SessionLog.events_extend, List.mem_append, List.mem_singleton] at member
    rcases member with member | rfl
    · exact ledger.unended logged member same
    · exact isProgress.2

/-- The running turn ends. -/
theorem finish (ledger : Ledger nextTurn (some turnId) log)
    (ofTurn : event.turnId = turnId) (terminal : event.isTerminal = true) :
    Ledger nextTurn none (log.extend event) where
  numbered := ledger.numbered_extend ofTurn
  ordered := ledger.ordered_extend ofTurn
  ended logged member _ := by
    by_cases same : logged.turnId = turnId
    · rw [same, ← ofTurn, SessionLog.events_extend]
      refine endsOnce_append (fun earlier within sameTurn => ?_) terminal
      exact ledger.unended earlier within (by rw [sameTurn, ofTurn])
    · rw [SessionLog.events_extend, List.mem_append, List.mem_singleton] at member
      rcases member with member | rfl
      · exact ledger.ended_extend ofTurn logged member same
      · exact absurd ofTurn same
  latest _ nothing := by cases nothing
  unended _ _ nothing := by cases nothing

/-- A turn keeps the ledger while it goes on. -/
theorem continues (ledger : Ledger nextTurn (some turnId) before.session)
    (continues : Continues turnId before after) :
    Ledger nextTurn (some turnId) after.session := by
  obtain ⟨events, growth, isProgress⟩ := continues.grows
  refine growth.keeps (Ledger nextTurn (some turnId)) ledger ?_
  intro middle event kept member _
  exact kept.progress (isProgress event member)

end Ledger

namespace SessionLog

theorem Counted.extend {log : SessionLog} (counted : log.Counted)
    (accepts : log.Accepts event) :
    (log.extend event).Counted where
  sequences := by
    have next := counted.nextSequence
    simp only [SessionLog.extend, List.map_append, counted.sequences, List.map_cons,
      List.map_nil, List.length_append, List.length_cons, List.length_nil, next]
    rw [List.range'_concat]
    simp [Nat.add_comm]
  nextSequence := by simp [SessionLog.extend, counted.nextSequence]
  bytesUsed := by
    rw [events_extend, List.map_append, List.sum_append, ← counted.bytesUsed]
    simp [SessionLog.extend]
  bounded := accepts.2.bytesFit

theorem Counted.continues
    (counted : before.session.Counted) (continues : Continues turnId before after) :
    after.session.Counted := by
  obtain ⟨events, growth, -⟩ := continues.grows
  exact growth.keeps Counted counted fun _ _ kept _ accepts => kept.extend accepts

theorem Mentions.continues {mentioned : String}
    (mentions : before.session.Mentions mentioned)
    (continues : Continues turnId before after) :
    after.session.Mentions mentioned := by
  obtain ⟨events, growth, -⟩ := continues.grows
  obtain ⟨event, member, same⟩ := mentions
  refine ⟨event, ?_, same⟩
  rw [growth.events]
  exact List.mem_append_left _ member

end SessionLog

/-- The operation ends a turn that has a record, with an event for the log. -/
inductive Agent.Ends (components : Components σ) (agent : Agent σ) :
    AgentOp σ → SessionLog → SessionEvent → Prop
  | turn {op : AgentOp σ} {error : AgentError} {after : Live σ}
      (ran : agent.turnResult components op = some (.error error, after))
      (mentions : after.session.Mentions after.tracker.snapshot.id) :
      Ends components agent op after.session
        (terminalEvent after.tracker.snapshot.id error)
  | cancel {reason : String} {pending : PendingTurn}
      (awaiting : agent.state = .awaitingApproval)
      (suspended : agent.pendingTurn = some pending) :
      Ends components agent (.cancelPendingTurn reason) agent.session
        (.turnCancelled pending.tracker.snapshot.id reason)

variable (components : Components σ)

/-- The limits of the log leave room for the record of the end of a turn. -/
def Agent.RoomToEnd (agent : Agent σ) (op : AgentOp σ) : Prop :=
  ∀ log event, agent.Ends components op log event → log.HasRoomFor event

/-- The text of the record of the end of a turn is valid. -/
def Agent.EndIsValid (agent : Agent σ) (op : AgentOp σ) : Prop :=
  ∀ log event, agent.Ends components op log event → event.validate = .ok ()

variable {agent : Agent σ}

theorem Agent.suspendedTurn_eq {pending : PendingTurn}
    (suspended : agent.pendingTurn = some pending) :
    agent.suspendedTurn = some pending.tracker.snapshot.id := by
  unfold suspendedTurn
  rw [suspended]
  rfl

/-- The invariant of the agent: its log is the ledger of the turns it has named. -/
structure Agent.KeepsLedger (agent : Agent σ) : Prop where
  idle : agent.state = .ready → agent.pendingTurn = none
  ledger : Ledger agent.nextTurnId agent.suspendedTurn agent.session
  counted : agent.session.Counted
  mentioned : ∀ turnId, agent.suspendedTurn = some turnId → agent.session.Mentions turnId

/-- An agent that dropped a turn whose records it has and whose end it has not. -/
structure Agent.DropsTurn (agent : Agent σ) : Prop where
  dropped : agent.suspendedTurn = none
  unended : ∃ turnId, agent.session.Mentions turnId ∧
    ∀ event ∈ agent.session.events, event.turnId = turnId → event.isTerminal = false

theorem Agent.KeepsLedger.logKept (keeps : agent.KeepsLedger) :
    agent.LogKept :=
  ⟨keeps.ledger.ended, keeps.ledger.grouped, keeps.counted⟩

theorem Agent.DropsTurn.not_logKept (drops : agent.DropsTurn) :
    ¬ agent.LogKept := by
  obtain ⟨turnId, ⟨event, member, rfl⟩, running⟩ := drops.unended
  intro kept
  refine not_endsOnce running (kept.ended event member ?_)
  rw [drops.dropped]
  simp

theorem terminalEvent_turnId (turnId : String) (error : AgentError) :
    (terminalEvent turnId error).turnId = turnId := by
  unfold terminalEvent
  cases error.cancellationReason <;> rfl

theorem terminalEvent_isTerminal (turnId : String) (error : AgentError) :
    (terminalEvent turnId error).isTerminal = true := by
  unfold terminalEvent
  cases error.cancellationReason <;> rfl

section Turns

variable {components : Components σ} {budget : TurnBudget} {turnId : String}

variable {outcome : Except AgentError InnerTurnOutcome}

/-- A turn that goes on or completes keeps its records. -/
theorem TurnExit.mentions (leaves : TurnExit turnId budget before outcome after)
    (notRefused : ∀ error, outcome ≠ .error error)
    (mentions : before.session.Mentions turnId) :
    after.session.Mentions turnId := by
  cases leaves with
  | completed continues accepts session snapshot =>
      obtain ⟨event, member, same⟩ := mentions.continues continues
      rw [session]
      exact ⟨event, by simp [member], same⟩
  | suspended continues suspension => exact mentions.continues continues
  | failed continues => exact absurd rfl (notRefused _)

/-- A turn that is not refused logs its start. -/
theorem runTurnInner_mentions (userMessage : ChatMessage) (cancellation : SharedToken σ)
    (mode : ExecutionMode) (before : Live σ) :
    (runTurnInner components budget turnId userMessage cancellation 1 true mode none).wp
      (fun result after => (∀ error, result ≠ .error error) →
        after.session.Mentions turnId) before := by
  unfold runTurnInner
  rw [if_pos rfl, wp_bind]
  refine TurnProgram.wp_record ?_ ?_
  · intro accepts
    rw [andThen_ok]
    have logged : (before.session.extend (.turnStarted turnId userMessage)).Mentions turnId :=
      ⟨.turnStarted turnId userMessage, by simp, rfl⟩
    refine wp_mono (turnLoop_exit components budget userMessage cancellation mode
      none _ 1 _) ?_
    exact fun _ _ leaves notRefused => leaves.mentions notRefused logged
  · exact fun error refused notRefused => absurd rfl (notRefused _)

/-- What is known of a turn when it has run. -/
structure TurnRan (turnId : String) (budget : TurnBudget) (before : Live σ)
    (outcome : Except AgentError InnerTurnOutcome) (after : Live σ) : Prop where
  leaves : TurnExit turnId budget before outcome after
  ofTurn : before.tracker.snapshot.id = turnId
  mentions : (∀ error, outcome ≠ .error error) → after.session.Mentions turnId

/-- The log accepts the record of the end of a turn that failed with a record. -/
def TurnCloses (outcome : Except AgentError InnerTurnOutcome) (after : Live σ) : Prop :=
  ∀ error, outcome = .error error → after.session.Mentions after.tracker.snapshot.id →
    after.session.Accepts (terminalEvent after.tracker.snapshot.id error)

/-- A finished turn keeps the ledger, or its end is refused and the turn dropped. -/
theorem Agent.ledger_afterTurn (userMessage : ChatMessage)
    (ran : TurnRan turnId budget before outcome after)
    (ledger : Ledger agent.nextTurnId (some turnId) before.session)
    (counted : before.session.Counted) (taken : agent.pendingTurn = none) :
    (TurnCloses outcome after ∧
      (agent.afterTurn userMessage outcome after).KeepsLedger) ∨
    (¬ TurnCloses outcome after ∧
      (agent.afterTurn userMessage outcome after).DropsTurn) := by
  obtain ⟨leaves, ofTurn, mentions⟩ := ran
  cases leaves with
  | @completed response middle after continues accepts session snapshot =>
      have ends := (ledger.continues continues).finish
        (show (SessionEvent.turnCompleted turnId response.content).turnId = turnId from rfl)
        rfl
      have extended := (counted.continues continues).extend accepts
      have ended : (agent.afterTurn userMessage (.ok (.completed response))
          after).suspendedTurn = none := by
        simp [afterTurn, suspendedTurn, taken]
      rw [← session] at ends extended
      refine .inl ⟨fun _ failed => (by cases failed), fun _ => taken, ?_, extended,
        fun id same => ?_⟩
      · rw [ended]
        exact ends
      · rw [ended] at same
        cases same
  | @suspended pending after continues suspension =>
      have waits : (agent.afterTurn userMessage (.ok (.awaitingApproval pending))
          after).suspendedTurn = some turnId := by
        rw [← ofTurn, ← continues.snapshot]
        rfl
      refine .inl ⟨fun _ failed => (by cases failed), fun ready => (by cases ready), ?_,
        counted.continues continues, fun id same => ?_⟩
      · rw [waits]
        exact ledger.continues continues
      · rw [waits] at same
        cases same
        exact mentions (by simp)
  | @failed error after continues =>
      have running := ledger.continues continues
      have goesOn := counted.continues continues
      have sameTurn : after.tracker.snapshot.id = turnId := by
        rw [continues.snapshot, ofTurn]
      unfold TurnCloses
      rw [sameTurn]
      have session : (agent.afterTurn userMessage (.error error) after).session =
          after.session.appendIgnored (terminalEvent turnId error) := by
        rw [← sameTurn]
        rfl
      by_cases accepts : after.session.Accepts (terminalEvent turnId error)
      · have ends := running.finish (terminalEvent_turnId turnId error)
          (terminalEvent_isTerminal turnId error)
        have extended := goesOn.extend accepts
        rw [SessionLog.appendIgnored_of_accepts accepts] at session
        rw [← session] at ends extended
        refine .inl ⟨?_, fun _ => rfl, ends, extended, fun _ same => (by cases same)⟩
        rintro _ ⟨⟩ _
        exact accepts
      · rw [SessionLog.appendIgnored_of_refuses accepts] at session
        by_cases mentioned : after.session.Mentions turnId
        · refine .inr ⟨fun closes => accepts (closes error rfl mentioned), rfl, turnId, ?_⟩
          rw [session]
          exact ⟨mentioned, fun event member same =>
            running.unended event member (by rw [same])⟩
        · have silent := running.unlogged mentioned
          rw [← session] at silent goesOn
          exact .inl ⟨fun _ _ mentions => absurd mentions mentioned, fun _ => rfl, silent,
            goesOn, fun _ same => by cases same⟩

/-- With room in the log, a valid end is an accepted one. -/
theorem Agent.endIsValid_iff {op : AgentOp σ}
    {program : TurnProgram σ InnerTurnOutcome}
    (turn : agent.turnOf components op = some (program, before))
    (ran : program.exec before = (outcome, after))
    (room : agent.RoomToEnd components op) :
    agent.EndIsValid components op ↔ TurnCloses outcome after := by
  have result : agent.turnResult components op = some (outcome, after) := by
    rw [turnResult, turn, Option.map_some, ran]
  constructor
  · rintro valid error rfl mentions
    have ends := Ends.turn result mentions
    exact ⟨valid _ _ ends, room _ _ ends⟩
  · intro closes log event ends
    cases ends with
    | turn alsoRan mentions =>
        rw [result] at alsoRan
        cases alsoRan
        exact (closes _ rfl mentions).1
    | cancel awaiting suspended => cases turn

/-- An operation that runs no turn and drops none ends none. -/
theorem Agent.endIsValid_of_none {op : AgentOp σ}
    (noTurn : agent.turnOf components op = none)
    (noCancel : ∀ reason, op = .cancelPendingTurn reason →
      agent.state = .awaitingApproval → agent.pendingTurn = none) :
    agent.EndIsValid components op := by
  intro log event ends
  cases ends with
  | turn ran =>
      rw [turnResult, noTurn] at ran
      cases ran
  | cancel awaiting suspended =>
      rw [noCancel _ rfl awaiting] at suspended
      cases suspended

/-- The end of a direct turn is that of an approval-aware one. -/
theorem Agent.afterDirectTurn_eq (userMessage : ChatMessage)
    {live : Live σ}
    (ended : ∀ pending, outcome ≠ .ok (.awaitingApproval pending))
    (taken : agent.pendingTurn = none) :
    agent.afterDirectTurn outcome live = agent.afterTurn userMessage outcome live := by
  match outcome with
  | .ok (.completed _) => rfl
  | .ok (.awaitingApproval pending) => exact absurd rfl (ended pending)
  | .error error =>
      unfold afterDirectTurn afterTurn
      rw [taken]

end Turns

/-- An operation keeps the ledger, or it drops a turn whose end is not valid. -/
theorem Agent.ledger_perform (agent : Agent σ) (op : AgentOp σ)
    (keeps : agent.KeepsLedger) (room : agent.RoomToEnd components op) :
    (agent.EndIsValid components op ∧ (agent.perform components op).KeepsLedger) ∨
      (¬ agent.EndIsValid components op ∧ (agent.perform components op).DropsTurn) := by
  have step := agent.perform_step components op
  generalize agent.perform components op = final at step
  have starts (ready : agent.state = .ready) :
      Ledger (agent.nextTurnId + 1) (some (turnName agent.nextTurnId)) agent.session := by
    have ledger := keeps.ledger
    unfold suspendedTurn at ledger
    rw [keeps.idle ready] at ledger
    exact ledger.start
  cases step with
  | refused state consulted noTurn noCancel =>
      exact .inl ⟨endIsValid_of_none noTurn noCancel, keeps.idle, keeps.ledger,
        keeps.counted, keeps.mentioned⟩
  | @direct userMessage cancellation state consulted outcome live ready fromUser _ turn
      ran =>
      have ended := of_wp (runTurnInner_legacy _ _ _ _ _ _ _ _ _) ran
      rw [endIsValid_iff turn ran room, afterDirectTurn_eq userMessage ended
        (show (agent.started state).pendingTurn = none from keeps.idle ready)]
      exact ledger_afterTurn userMessage ⟨exit_of_directProgram ran, rfl,
          of_wp (runTurnInner_mentions userMessage cancellation _ _) ran⟩
        (starts ready) keeps.counted (keeps.idle ready)
  | @approvalAware userMessage cancellation state consulted outcome live ready fromUser _
      turn ran =>
      rw [endIsValid_iff turn ran room]
      exact ledger_afterTurn userMessage ⟨exit_of_approvalProgram ran, rfl,
          of_wp (runTurnInner_mentions userMessage cancellation _ _) ran⟩
        (starts ready) keeps.counted (keeps.idle ready)
  | @resumed decision cancellation state consulted pending outcome live awaiting suspended
      _ turn ran =>
      have running := suspendedTurn_eq suspended
      have ledger := keeps.ledger
      rw [running] at ledger
      rw [endIsValid_iff turn ran room]
      have leaves := exit_of_resumeProgram ran
      refine ledger_afterTurn _ ⟨leaves, rfl, fun notRefused => ?_⟩ ledger keeps.counted rfl
      exact leaves.mentions notRefused (keeps.mentioned _ running)
  | @cancelled reason pending awaiting suspended accepts =>
      have running := suspendedTurn_eq suspended
      have ledger := keeps.ledger
      rw [running] at ledger
      refine .inl ⟨fun log event ends => ?_, fun _ => rfl, ledger.finish rfl rfl,
        keeps.counted.extend accepts, fun _ same => by cases same⟩
      cases ends with
      | turn ran => cases ran
      | cancel _ kept =>
          rw [suspended] at kept
          cases kept
          exact accepts.1
  | @cancelRefused reason pending awaiting suspended refuses =>
      have running := suspendedTurn_eq suspended
      refine .inr ⟨fun valid => ?_, rfl, _, keeps.mentioned _ running,
        fun event member same => keeps.ledger.unended event member (by rw [running, same])⟩
      have ends : agent.Ends components (.cancelPendingTurn reason) _ _ :=
        .cancel awaiting suspended
      exact refuses ⟨valid _ _ ends, room _ _ ends⟩
  | @reset messages session ready replaced =>
      cases SessionLog.resetWithMessages_eq_ok replaced
      have taken := keeps.idle ready
      refine .inl ⟨endIsValid_of_none rfl (by simp), fun _ => taken, ?_, ?_,
        fun id same => ?_⟩
      · unfold suspendedTurn
        rw [taken]
        exact ⟨by simp [SessionLog.events], by simp [SessionLog.events],
          by simp [SessionLog.events], by simp, by simp [SessionLog.events]⟩
      · exact ⟨rfl, rfl, rfl, Nat.zero_le _⟩
      · unfold suspendedTurn at same
        rw [taken] at same
        cases same

theorem Agent.keepsLedger_new {id : String} {outside : σ} {config : AgentConfig}
    (created : Agent.new id outside config = .ok agent) :
    agent.KeepsLedger := by
  cases Agent.new_eq_ok created
  refine ⟨fun _ => rfl, ⟨?_, ?_, ?_, ?_, ?_⟩, ⟨rfl, rfl, rfl, Nat.zero_le _⟩, ?_⟩
  all_goals simp [SessionLog.events, suspendedTurn]

/-- In every run of an agent whose log has room for the ends of its turns, the log is
kept exactly when the records of these ends are valid. -/
theorem logKept_throughout_iff {id : String} {outside : σ}
    {config : AgentConfig}
    (created : Agent.new id outside config = .ok agent) (ops : List (AgentOp σ))
    (room : EachStep (Agent.perform components) (Agent.RoomToEnd components) agent ops) :
    Throughout (Agent.perform components) Agent.LogKept agent ops ↔
      EachStep (Agent.perform components) (Agent.EndIsValid components) agent ops := by
  refine throughout_iff_eachStep Agent.KeepsLedger (Agent.RoomToEnd components)
    (fun _ keeps => keeps.logKept) ?_ ?_ (Agent.keepsLedger_new created) room
  · intro current op keeps hasRoom valid
    obtain ⟨-, after⟩ | ⟨invalid, -⟩ := current.ledger_perform components op keeps hasRoom
    · exact after
    · exact absurd valid invalid
  · intro current op keeps hasRoom invalid
    obtain ⟨valid, -⟩ | ⟨-, after⟩ := current.ledger_perform components op keeps hasRoom
    · exact absurd valid invalid
    · exact after.not_logKept

/-- The room an operation needs, computed. -/
def Agent.roomToEnd (agent : Agent σ) (op : AgentOp σ) : Bool :=
  ((agent.turnResult components op).all fun ran =>
    match ran.1 with
    | .ok _ => true
    | .error error =>
        (ran.2.session.checkRoom (terminalEvent ran.2.tracker.snapshot.id error)).isOk) &&
  match op with
  | .cancelPendingTurn reason => agent.pendingTurn.all fun pending =>
      (agent.session.checkRoom (.turnCancelled pending.tracker.snapshot.id reason)).isOk
  | _ => true

theorem SessionLog.hasRoomFor_of_isOk {log : SessionLog}
    (passes : (log.checkRoom event).isOk = true) :
    log.HasRoomFor event := by
  cases checked : log.checkRoom event with
  | ok room => exact hasRoomFor_of_checkRoom checked
  | error error =>
      rw [checked] at passes
      cases passes

/-- The computed check gives the room. -/
theorem Agent.roomToEnd_of_check {components : Components σ}
    {op : AgentOp σ} (passes : agent.roomToEnd components op = true) :
    agent.RoomToEnd components op := by
  intro log event ends
  unfold roomToEnd at passes
  rw [Bool.and_eq_true] at passes
  cases ends with
  | turn ran mentions =>
      rw [ran, Option.all_some] at passes
      dsimp only at passes
      exact SessionLog.hasRoomFor_of_isOk passes.1
  | cancel awaiting suspended =>
      dsimp only at passes
      rw [suspended, Option.all_some] at passes
      exact SessionLog.hasRoomFor_of_isOk passes.2

/-- The rule applies to a turn that is suspended and then cancelled. -/
theorem logKept_throughout_iff_asking :
    Throughout (Agent.perform askingComponents) Agent.LogKept (.fresh [askFor [echoCall]])
        [.runTurnWithApproval (.user "hello") .fresh, .cancelPendingTurn "no"] ↔
      EachStep (Agent.perform askingComponents) (Agent.EndIsValid askingComponents)
        (.fresh [askFor [echoCall]])
        [.runTurnWithApproval (.user "hello") .fresh, .cancelPendingTurn "no"] :=
  logKept_throughout_iff askingComponents (Agent.new_default _) _
    ⟨Agent.roomToEnd_of_check (by decide +kernel),
      Agent.roomToEnd_of_check (by decide +kernel), trivial⟩

/-- A model that fails with a NUL in its message. -/
def nulScript : Script := [.error (.new "failed" "no\x00" false)]

/-- A model error with a NUL in its message leaves its turn without an end. -/
theorem nul_in_error_leaves_turn_open :
    Agent.new "agent" nulScript .default = .ok (.fresh nulScript) ∧
    EachStep (Agent.perform askingComponents) (Agent.RoomToEnd askingComponents)
      (.fresh nulScript) [.runTurn (.user "hello") .fresh] ∧
    ¬ Throughout (Agent.perform askingComponents) Agent.LogKept
      (.fresh nulScript) [.runTurn (.user "hello") .fresh] := by
  refine ⟨rfl, ⟨Agent.roomToEnd_of_check (by decide), trivial⟩, ?_⟩
  intro holds
  have final : (finalState (Agent.perform askingComponents)
        (.fresh nulScript)
        [.runTurn (.user "hello") .fresh]).suspendedTurn = none ∧
      ((finalState (Agent.perform askingComponents)
        (.fresh nulScript)
        [.runTurn (.user "hello") .fresh]).session.events.map fun event =>
          (event.turnId, event.isTerminal)) =
        [("turn-1", false), ("turn-1", false), ("turn-1", false)] := by
    decide
  have kept := holds.last
  generalize finalState (Agent.perform askingComponents) _ _ = agent at final kept
  have running : ∀ event ∈ agent.session.events, event.isTerminal = false := by
    intro event member
    have listed := List.mem_map_of_mem
      (f := fun event : SessionEvent => (event.turnId, event.isTerminal)) member
    rw [final.2] at listed
    have entry : event.turnId = "turn-1" ∧ event.isTerminal = false := by simpa using listed
    exact entry.2
  cases logged : agent.session.events with
  | nil =>
      rw [logged] at final
      cases final.2
  | cons event events =>
      have member : event ∈ agent.session.events := by simp [logged]
      refine not_endsOnce (fun event member _ => running event member)
        (kept.ended event member ?_)
      rw [final.1]
      simp

end AgentSpine
end YunXi
