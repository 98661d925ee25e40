import Mathlib.Logic.Relation

/-!
# Functions that end in tail calls

Functions that call each other only at their end are a table of bodies: a body runs once and
returns or names the call that comes next.  A rank that falls with every call makes their run
total, and what a run does is proved from what one body does.
-/

namespace YunXi

variable {ρ γ σ : Type}

/-- How a body ends. -/
inductive Ending (ρ γ : Type)
  | returns (result : ρ)
  | calls (next : γ)

/-- The bodies of functions named by calls, over a state, with a rank that falls. -/
structure TailCalls (ρ γ σ : Type) where
  body : γ → σ → Ending ρ γ × σ
  rank : γ → σ → Nat
  falls : ∀ {call next state after},
    body call state = (.calls next, after) → rank next after < rank call state

namespace TailCalls

variable (functions : TailCalls ρ γ σ)

/-- Run the functions from a call until one returns. -/
def run (call : γ) (state : σ) : ρ × σ :=
  match _ends : functions.body call state with
  | (.returns result, after) => (result, after)
  | (.calls next, after) => run next after
termination_by functions.rank call state
decreasing_by exact functions.falls _ends

variable {functions} {call next : γ} {state after : σ} {result : ρ}

theorem run_of_returns (ends : functions.body call state = (.returns result, after)) :
    functions.run call state = (result, after) := by
  rw [run]
  split
  · rename_i ended
    rw [ends, Prod.mk.injEq, Ending.returns.injEq] at ended
    rw [ended.1, ended.2]
  · rename_i ended
    rw [ends] at ended
    cases (Prod.mk.inj ended).1

theorem run_of_calls (ends : functions.body call state = (.calls next, after)) :
    functions.run call state = functions.run next after := by
  rw [run]
  split
  · rename_i ended
    rw [ends] at ended
    cases (Prod.mk.inj ended).1
  · rename_i ended
    rw [ends, Prod.mk.injEq, Ending.calls.injEq] at ended
    rw [ended.1, ended.2]

/-- One call is the next of another. -/
def Follows (functions : TailCalls ρ γ σ) (earlier later : γ × σ) : Prop :=
  functions.body earlier.1 earlier.2 = (.calls later.1, later.2)

/-- A run from one call comes by another. -/
def Reaches (functions : TailCalls ρ γ σ) : γ × σ → γ × σ → Prop :=
  Relation.ReflTransGen functions.Follows

/-- What a run returns is returned by the last body it reaches. -/
theorem exists_last (call : γ) (state : σ) :
    ∃ last, functions.Reaches (call, state) last ∧
      functions.body last.1 last.2 =
        (.returns (functions.run call state).1, (functions.run call state).2) := by
  induction call, state using run.induct functions with
  | case1 call state result after ends =>
      rw [run_of_returns ends]
      exact ⟨(call, state), .refl, ends⟩
  | case2 call state next after ends ih =>
      obtain ⟨last, reached, ended⟩ := ih
      have follows : functions.Follows (call, state) (next, after) := ends
      rw [run_of_calls ends]
      exact ⟨last, .head follows reached, ended⟩

/-- A property that every body hands to the call it ends with holds of every call reached. -/
theorem Reaches.invariant {invariant : γ → σ → Prop}
    (keeps : ∀ {call next state after}, invariant call state →
      functions.body call state = (.calls next, after) → invariant next after)
    {start last : γ × σ} (reached : functions.Reaches start last)
    (holds : invariant start.1 start.2) : invariant last.1 last.2 := by
  induction reached with
  | refl => exact holds
  | tail _ follows ih => exact keeps ih follows

/-- A run goes through the calls after any call it reaches. -/
theorem Reaches.run_eq {start later : γ × σ} (reached : functions.Reaches start later) :
    functions.run start.1 start.2 = functions.run later.1 later.2 := by
  induction reached with
  | refl => rfl
  | tail _ follows ih =>
      rw [ih]
      exact run_of_calls follows

/-- The rule for what a run ends with. -/
theorem run_ends {invariant : γ → σ → Prop} {post : ρ → σ → Prop}
    (keeps : ∀ {call next state after}, invariant call state →
      functions.body call state = (.calls next, after) → invariant next after)
    (returns : ∀ {call result state after}, invariant call state →
      functions.body call state = (.returns result, after) → post result after)
    (holds : invariant call state) :
    post (functions.run call state).1 (functions.run call state).2 := by
  obtain ⟨last, reached, ended⟩ := functions.exists_last call state
  exact returns (reached.invariant keeps holds) ended

end TailCalls

end YunXi
