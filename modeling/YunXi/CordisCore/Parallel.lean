import YunXi.CordisCore.EventBus
import YunXi.Program.Run
import Mathlib.Data.List.Perm.Basic
import Mathlib.Algebra.GroupWithZero.Nat

/-!
# The batches of a parallel dispatch

`parallel` drains its handlers in batches, spawns a thread for each handler of a batch, and
joins the threads in the order they were spawned.  The threads come back in any order, also
while others are still to be spawned or joined.
-/

namespace YunXi
namespace CordisCore

/-- A handler of a dispatch, with what its callback does when it is called. -/
structure HandlerCall where
  id : HandlerId
  outcome : HandlerOutcome
  deriving DecidableEq

namespace HandlerCall

def error (call : HandlerCall) (event : String) : Option EventError :=
  call.outcome.error event call.id

/-- The handler as it is registered for a mode. -/
def handler (mode : EventMode) (payloadType : PayloadType) (call : HandlerCall) :
    RegisteredHandler :=
  ⟨mode, call.id, payloadType⟩

end HandlerCall

/-- `first_error.map_or(Ok(()), Err)`. -/
def reported : Option EventError → Except EventError Unit
  | none => .ok ()
  | some error => .error error

variable (event : String)

variable (calls : List HandlerCall)

/-- The error of the failing handler that was registered first. -/
def firstFailure : Option EventError :=
  calls.findSome? (·.error event)

theorem firstFailure_concat (call : HandlerCall) :
    firstFailure event (calls ++ [call]) = (firstFailure event calls).or (call.error event) := by
  unfold firstFailure
  rw [List.findSome?_append]
  cases found : call.error event <;> simp [List.findSome?, found]

/-- The thread of a handler, which has come back or still runs. -/
structure Worker where
  call : HandlerCall
  finished : Bool
  deriving DecidableEq

/-- The loop of `parallel`: the handlers it has not drained, those of the batch it has not
spawned, and the threads it has not joined.  `invoked` records the callbacks that ran. -/
structure ParallelLoop where
  event : String
  pending : List HandlerCall
  batch : List HandlerCall
  joins : List Worker
  invoked : List HandlerCall
  firstError : Option EventError
  result : Option (Except EventError Unit)
  deriving DecidableEq

/-- The loop drains a batch, spawns a thread or joins one, or a thread comes back. -/
inductive ParallelAction
  | drain
  | spawn
  | finish (index : Nat)
  | join

namespace ParallelLoop

def start : ParallelLoop :=
  ⟨event, calls, [], [], [], none, none⟩

variable (loop : ParallelLoop)

/-- The head of the loop: return, or drain the next batch. -/
def drain : ParallelLoop :=
  match loop.result, loop.batch, loop.joins with
  | none, [], [] =>
      if loop.pending.isEmpty then { loop with result := some (reported loop.firstError) }
      else
        let batchLen := min loop.pending.length maxParallelWorkers
        { loop with
          batch := loop.pending.take batchLen
          pending := loop.pending.drop batchLen }
  | _, _, _ => loop

/-- Spawn the thread of the next handler of the batch. -/
def spawn : ParallelLoop :=
  match loop.batch with
  | call :: rest => { loop with batch := rest, joins := loop.joins ++ [⟨call, false⟩] }
  | [] => loop

/-- The callback of a thread comes back, or panics. -/
def finish (index : Nat) : ParallelLoop :=
  match loop.joins[index]? with
  | some ⟨call, false⟩ =>
      { loop with
        joins := loop.joins.set index ⟨call, true⟩
        invoked := loop.invoked ++ [call] }
  | _ => loop

/-- Join the first thread of a batch that is spawned, once it has come back. -/
def join : ParallelLoop :=
  match loop.batch, loop.joins with
  | [], ⟨call, true⟩ :: rest =>
      { loop with
        joins := rest
        firstError := loop.firstError.or (call.error loop.event) }
  | _, _ => loop

def step : ParallelAction → ParallelLoop
  | .drain => loop.drain
  | .spawn => loop.spawn
  | .finish index => loop.finish index
  | .join => loop.join

/-- The callbacks of threads that are not joined but have come back. -/
def back (joins : List Worker) : List HandlerCall :=
  (joins.filter Worker.finished).map Worker.call

/-- The handlers are those joined, spawned, drained and waiting, in order; the first error is
that of the joined ones, and a callback ran for each thread that came back. -/
structure Sound (calls : List HandlerCall) (loop : ParallelLoop) : Prop where
  split : ∃ joined, calls = joined ++ loop.joins.map Worker.call ++ loop.batch ++ loop.pending ∧
    loop.firstError = firstFailure loop.event joined ∧
      loop.invoked.Perm (joined ++ back loop.joins)
  returned : ∀ result, loop.result = some result → loop.joins = [] ∧ loop.batch = [] ∧
    loop.pending = [] ∧ result = reported loop.firstError

theorem sound_start : Sound calls (start event calls) where
  split := ⟨[], rfl, rfl, List.Perm.refl _⟩
  returned _ impossible := by cases impossible

variable {calls : List HandlerCall} {loop : ParallelLoop}

theorem Sound.drain (sound : Sound calls loop) : Sound calls loop.drain := by
  unfold ParallelLoop.drain
  split
  case h_2 => exact sound
  case h_1 unreturned noBatch noJoin =>
    obtain ⟨joined, split, first, ran⟩ := sound.split
    split
    case isTrue ended =>
      refine ⟨⟨joined, split, first, ran⟩, ?_⟩
      rintro _ ⟨⟩
      exact ⟨noJoin, noBatch, List.isEmpty_iff.mp ended, rfl⟩
    case isFalse =>
      refine ⟨⟨joined, ?_, first, ran⟩, fun _ returned => ?_⟩
      · rw [split, noBatch, List.append_nil, List.append_assoc _ (loop.pending.take _),
          List.take_append_drop]
      · cases unreturned.symm.trans returned

theorem Sound.spawn (sound : Sound calls loop) : Sound calls loop.spawn := by
  unfold ParallelLoop.spawn
  split
  case h_2 => exact sound
  case h_1 call rest hasBatch =>
    obtain ⟨joined, split, first, ran⟩ := sound.split
    refine ⟨⟨joined, ?_, first, ?_⟩, fun _ returned => ?_⟩
    · rw [split, hasBatch, List.map_append]
      simp
    · unfold back at ran ⊢
      simpa using ran
    · cases hasBatch.symm.trans (sound.returned _ returned).2.1

/-- A thread among the others, and another state of it in its place. -/
theorem split_joins {joins : List Worker} {index : Nat} {worker : Worker}
    (isWorker : joins[index]? = some worker) :
    ∃ before after, joins = before ++ worker :: after ∧
      ∀ next, joins.set index next = before ++ next :: after := by
  obtain ⟨inside, rfl⟩ := List.getElem?_eq_some_iff.mp isWorker
  refine ⟨joins.take index, joins.drop (index + 1), ?_, fun next => ?_⟩
  · rw [List.getElem_cons_drop, List.take_append_drop]
  · exact List.set_eq_take_append_cons_drop.trans (if_pos inside)

/-- A thread that comes back is one of those that are not joined. -/
theorem finish_joins (before after : List Worker) (call : HandlerCall) :
    (before ++ ⟨call, true⟩ :: after).map Worker.call =
        (before ++ ⟨call, false⟩ :: after).map Worker.call ∧
      (back (before ++ ⟨call, true⟩ :: after)).Perm
        (back (before ++ ⟨call, false⟩ :: after) ++ [call]) := by
  constructor
  · rw [List.map_append, List.map_append]
    rfl
  · have came : back (before ++ ⟨call, true⟩ :: after) = back before ++ call :: back after := by
      unfold back
      rw [List.filter_append, List.map_append]
      rfl
    have waits : back (before ++ ⟨call, false⟩ :: after) = back before ++ back after := by
      unfold back
      rw [List.filter_append, List.map_append]
      rfl
    rw [came, waits]
    exact List.perm_middle.trans (List.perm_append_singleton call _).symm

theorem Sound.finish (sound : Sound calls loop) (index : Nat) :
    Sound calls (loop.finish index) := by
  unfold ParallelLoop.finish
  split
  case h_2 => exact sound
  case h_1 call running =>
    obtain ⟨before, after, whole, replaced⟩ := split_joins running
    obtain ⟨joined, split, first, ran⟩ := sound.split
    obtain ⟨same, came⟩ := finish_joins before after call
    rw [← whole, ← replaced] at same came
    refine ⟨⟨joined, ?_, first, ?_⟩, fun _ returned => ?_⟩
    · rw [same]
      exact split
    · exact (ran.append_right [call]).trans
        ((List.append_assoc _ _ _).symm ▸ (came.symm.append_left joined))
    · have noJoin := (sound.returned _ returned).1
      rw [noJoin] at running
      cases running

theorem Sound.join (sound : Sound calls loop) : Sound calls loop.join := by
  unfold ParallelLoop.join
  split
  case h_2 => exact sound
  case h_1 call rest noBatch hasJoin =>
    obtain ⟨joined, split, first, ran⟩ := sound.split
    refine ⟨⟨joined ++ [call], ?_, ?_, ?_⟩, fun _ returned => ?_⟩
    · rw [split, hasJoin, List.map_cons, List.append_assoc joined [call]]
      rfl
    · rw [firstFailure_concat, ← first]
    · rw [hasJoin] at ran
      rw [List.append_assoc]
      exact ran
    · cases hasJoin.symm.trans (sound.returned _ returned).1

theorem Sound.step (sound : Sound calls loop) (action : ParallelAction) :
    Sound calls (loop.step action) := by
  cases action with
  | drain => exact sound.drain
  | spawn => exact sound.spawn
  | finish index => exact sound.finish index
  | join => exact sound.join

theorem sound_run (calls : List HandlerCall) (actions : List ParallelAction) :
    Sound calls (finalState step (start event calls) actions) :=
  (throughout_of_invariant (Sound calls) (fun _ action sound => sound.step action)
    (sound_start event calls) actions).last

theorem event_step (loop : ParallelLoop) (action : ParallelAction) :
    (loop.step action).event = loop.event := by
  cases action with
  | drain =>
      change loop.drain.event = loop.event
      unfold drain
      split
      · split <;> rfl
      · rfl
  | spawn =>
      change loop.spawn.event = loop.event
      unfold spawn
      split <;> rfl
  | finish index =>
      change (loop.finish index).event = loop.event
      unfold finish
      split <;> rfl
  | join =>
      change loop.join.event = loop.event
      unfold join
      split <;> rfl

theorem event_run (event : String) (calls : List HandlerCall) (actions : List ParallelAction) :
    (finalState step (start event calls) actions).event = event :=
  (throughout_of_invariant (fun loop => loop.event = event)
    (fun loop action named => (event_step loop action).trans named) rfl actions).last

/-- The callbacks that ran are among the handlers, each as often as it is among them at most. -/
theorem Sound.subperm (sound : Sound calls loop) : loop.invoked.Subperm calls := by
  obtain ⟨joined, split, -, ran⟩ := sound.split
  have some : (back loop.joins).Sublist (loop.joins.map Worker.call) :=
    List.filter_sublist.map Worker.call
  refine ran.subperm.trans (List.Sublist.subperm ?_)
  rw [split, List.append_assoc _ loop.batch]
  exact (some.append_left joined).trans (List.sublist_append_left _ _)

/-- A loop that returned invoked every handler once. -/
theorem Sound.result (sound : Sound calls loop) {result : Except EventError Unit}
    (returned : loop.result = some result) :
    loop.invoked.Perm calls ∧ result = reported (firstFailure loop.event calls) := by
  obtain ⟨joined, split, first, ran⟩ := sound.split
  obtain ⟨noJoin, noBatch, nonePending, isResult⟩ := sound.returned result returned
  rw [noJoin, noBatch, nonePending, List.map_nil, List.append_nil, List.append_nil,
    List.append_nil] at split
  rw [noJoin, ← split] at ran
  rw [← split] at first
  exact ⟨(List.append_nil calls) ▸ ran, by rw [isResult, first]⟩

/-- What is left to do: four steps for a handler that waits, the last two of which are its
thread coming back and being joined, and one step to return. -/
def remaining (loop : ParallelLoop) : Nat :=
  4 * loop.pending.length + 3 * loop.batch.length +
    (loop.joins.map fun worker => if worker.finished then 1 else 2).sum +
    (if loop.result = none then 1 else 0)

theorem sum_running_set {joins : List Worker} {index : Nat} {call : HandlerCall}
    (running : joins[index]? = some ⟨call, false⟩) :
    ((joins.set index ⟨call, true⟩).map fun worker => if worker.finished then 1 else 2).sum + 1 =
      (joins.map fun worker => if worker.finished then 1 else 2).sum := by
  obtain ⟨before, after, rfl, replaced⟩ := split_joins running
  rw [replaced]
  simp only [List.map_append, List.map_cons, List.sum_append, List.sum_cons, if_true,
    Bool.false_eq_true, if_false]
  omega

/-- A loop that has not returned can go on: some step has less to do behind it. -/
theorem exists_step (loop : ParallelLoop) (unreturned : loop.result = none) :
    ∃ action, (loop.step action).remaining < loop.remaining := by
  cases hasBatch : loop.batch with
  | cons call rest =>
      refine ⟨.spawn, ?_⟩
      simp only [step, spawn, remaining, hasBatch, List.length_cons, List.map_append,
        List.map_cons, List.map_nil, List.sum_append, List.sum_cons, List.sum_nil,
        Bool.false_eq_true, if_false]
      omega
  | nil =>
      cases hasJoins : loop.joins with
      | nil =>
          refine ⟨.drain, ?_⟩
          simp only [step, drain, unreturned, hasBatch, hasJoins]
          split
          case isTrue =>
            simp only [remaining, unreturned, hasBatch, hasJoins]
            simp
          case isFalse some =>
            have more : 0 < loop.pending.length := by
              rw [List.length_pos_iff]
              exact fun none => some (List.isEmpty_iff.mpr none)
            simp only [remaining, unreturned, hasBatch, hasJoins, List.length_take,
              List.length_drop, maxParallelWorkers]
            omega
      | cons worker rest =>
          obtain ⟨call, finished⟩ := worker
          cases finished with
          | false =>
              refine ⟨.finish 0, ?_⟩
              have running : loop.joins[0]? = some ⟨call, false⟩ := by rw [hasJoins]; rfl
              have fewer := sum_running_set running
              simp only [step, finish, running, remaining]
              omega
          | true =>
              refine ⟨.join, ?_⟩
              simp only [step, join, hasBatch, hasJoins, remaining, List.map_cons,
                List.sum_cons, if_true]
              omega

/-- So every run can be continued until the loop returns. -/
theorem exists_return (loop : ParallelLoop) :
    ∃ actions, (finalState step loop actions).result ≠ none := by
  induction size : loop.remaining using Nat.strong_induction_on generalizing loop with
  | _ size ih =>
      by_cases unreturned : loop.result = none
      · obtain ⟨action, less⟩ := exists_step loop unreturned
        obtain ⟨actions, returns⟩ :=
          ih _ (size ▸ less) (loop.step action) rfl
        exact ⟨action :: actions, returns⟩
      · exact ⟨[], unreturned⟩

end ParallelLoop

namespace Dispatch

variable {π : Type}

/-- `emit` over the handlers of some calls. -/
def emitting (name : String) (payloadType : PayloadType) (payload : π)
    (stored : List RegisteredHandler) (calls : List HandlerCall) : Dispatch π :=
  calls.foldl (fun dispatch call => dispatch.advance ⟨call.outcome, payload⟩)
    (.start .emit name payloadType payload stored (calls.map (·.handler .emit payloadType)))

/-- One turn of the loop. -/
theorem advance_emit (dispatch : Dispatch π) {call : HandlerCall} {calls : List HandlerCall}
    (payload : π) (mode : dispatch.mode = .emit) (unreturned : dispatch.result = none)
    (pending : dispatch.pending =
      (call :: calls).map (·.handler .emit dispatch.payloadType)) :
    ∃ ran, dispatch.advance ⟨call.outcome, payload⟩ =
      ({ dispatch with
        ran, firstError := dispatch.firstError.or (call.error dispatch.name) } : Dispatch π).goOn
          (calls.map (·.handler .emit dispatch.payloadType)) := by
  have accepted : dispatch.accepts (call.handler .emit dispatch.payloadType) = true :=
    beq_self_eq_true _
  have outcome : dispatch.outcomeOf (call.handler .emit dispatch.payloadType) call.outcome =
      call.outcome := if_pos accepted
  have sameMode : ¬ (call.handler .emit dispatch.payloadType).mode ≠ dispatch.mode :=
    not_not.mpr mode.symm
  rw [List.map_cons] at pending
  unfold advance
  rw [unreturned, pending]
  dsimp only
  rw [if_neg sameMode, outcome]
  simp only [mode]
  exact ⟨_, rfl⟩

/-- `emit` returns the error of the failing handler that was registered first. -/
theorem emitting_result (name : String) (payloadType : PayloadType) (payload : π)
    (stored : List RegisteredHandler) (calls : List HandlerCall) :
    (emitting name payloadType payload stored calls).result =
      some ((reported (firstFailure name calls)).map fun _ => .unit) := by
  -- the induction is on the handlers that wait; `done` are those that were called
  have loop : ∀ (waiting done : List HandlerCall) (dispatch : Dispatch π),
      dispatch.mode = .emit → dispatch.name = name → dispatch.payloadType = payloadType →
      dispatch.firstError = firstFailure name done →
      (waiting.foldl (fun dispatch call => dispatch.advance ⟨call.outcome, payload⟩)
        (dispatch.goOn (waiting.map (·.handler .emit payloadType)))).result =
          some ((reported (firstFailure name (done ++ waiting))).map fun _ => .unit) := by
    intro waiting
    induction waiting with
    | nil =>
        intro done dispatch mode _ _ first
        rw [List.append_nil, ← first]
        simp only [List.foldl_nil, List.map_nil, goOn, List.isEmpty_nil, if_true, loopEnd, mode]
        cases dispatch.firstError <;> rfl
    | cons call waiting ih =>
        rintro done dispatch mode rfl rfl first
        have pending : (dispatch.goOn
            ((call :: waiting).map (·.handler .emit dispatch.payloadType))).pending =
              (call :: waiting).map (·.handler .emit dispatch.payloadType) := rfl
        obtain ⟨ran, advanced⟩ := advance_emit (dispatch.goOn
          ((call :: waiting).map (·.handler .emit dispatch.payloadType))) payload mode rfl pending
        rw [List.foldl_cons, advanced]
        have later := ih (done ++ [call])
          { dispatch.goOn ((call :: waiting).map (·.handler .emit dispatch.payloadType)) with
            ran, firstError := dispatch.firstError.or (call.error dispatch.name) }
          mode rfl rfl (by rw [firstFailure_concat, ← first])
        rw [List.append_assoc] at later
        exact later
  exact loop calls [] _ rfl rfl rfl rfl

end Dispatch

/-- However the threads come back, a loop that returns has invoked every handler exactly once
and returns what `emit` returns over the same handlers: the error of the failing handler that
was registered first.  On the way no handler is invoked twice, and the loop can always go on. -/
theorem parallel_eq_emit {π : Type} (event : String) (payloadType : PayloadType) (payload : π)
    (stored : List RegisteredHandler) (calls : List HandlerCall)
    (actions : List ParallelAction) :
    let loop := finalState ParallelLoop.step (.start event calls) actions
    loop.invoked.Subperm calls ∧
      (∀ result, loop.result = some result → loop.invoked.Perm calls ∧
        result = reported (firstFailure event calls) ∧
          (Dispatch.emitting event payloadType payload stored calls).result =
            some (result.map fun _ => .unit)) ∧
      (loop.result = none → ∃ action, (loop.step action).remaining < loop.remaining) ∧
      ∃ more, (finalState ParallelLoop.step loop more).result ≠ none := by
  intro loop
  have sound : ParallelLoop.Sound calls loop := ParallelLoop.sound_run event calls actions
  refine ⟨sound.subperm, fun result returned => ?_, loop.exists_step, loop.exists_return⟩
  obtain ⟨once, isResult⟩ := sound.result returned
  rw [ParallelLoop.event_run event calls actions] at isResult
  refine ⟨once, isResult, ?_⟩
  rw [Dispatch.emitting_result, isResult]

/-- Two handlers whose threads come back in the opposite order, the first of which fails. -/
def twoCalls : List HandlerCall := [⟨4, .failed "late"⟩, ⟨9, .panicked⟩]

def oppositeOrder : List ParallelAction :=
  [.drain, .spawn, .spawn, .finish 1, .finish 0, .join, .join, .drain]

theorem parallel_eq_emit_opposite :
    (finalState ParallelLoop.step (.start "tick" twoCalls) oppositeOrder).invoked.Perm twoCalls :=
  ((parallel_eq_emit "tick" ⟨0, "u8"⟩ () [] twoCalls oppositeOrder).2.1
    (.error (.handlerFailed "tick" 4 "late")) (by decide)).1

end CordisCore
end YunXi
