import Mathlib.Control.Lawful
import Mathlib.Order.Defs.Unbundled

/-!
# Fallible programs over a mutable state

A program reads and updates a state and either returns a value or stops with an
error.  The state reached at an error survives it, so a caller sees every
update made before the failure.  Programs are the standard `ExceptT` over
`StateM`; this module adds an execution function, a weakest precondition whose
postcondition sees both kinds of result, and the rule that lifts a preorder on
states from the primitive steps to a whole program.
-/

namespace YunXi

/-- A program over states `σ` that returns an `α` or stops with an `ε`. -/
abbrev Fallible (σ ε α : Type) := ExceptT ε (StateM σ) α

namespace Fallible

variable {σ ε α β : Type}

/-- Run a program from a state. -/
def exec (program : Fallible σ ε α) (state : σ) : Except ε α × σ :=
  (ExceptT.run program).run state

/-- Build a program from its execution function. -/
def ofFunction (run : σ → Except ε α × σ) : Fallible σ ε α :=
  ExceptT.mk run

/-- Inject a result that does not depend on the state. -/
def ofExcept (result : Except ε α) : Fallible σ ε α :=
  ofFunction fun state => (result, state)

/-- Stop with an error exactly when a condition holds. -/
def throwIf (condition : Prop) [Decidable condition] (error : ε) : Fallible σ ε Unit :=
  ofExcept (if condition then .error error else .ok ())

/-- Run a program on a part of a larger state and wrap its errors. -/
def embed {τ ε' : Type} (wrap : ε → ε') (view : τ → σ) (put : σ → τ → τ)
    (program : Fallible σ ε α) : Fallible τ ε' α :=
  ofFunction fun state =>
    ((program.exec (view state)).1.mapError wrap, put (program.exec (view state)).2 state)

/-- Run a program on a part of a larger state and return its result as a value. -/
def attempt {τ ε' : Type} (view : τ → σ) (put : σ → τ → τ)
    (program : Fallible σ ε α) : Fallible τ ε' (Except ε α) :=
  ofFunction fun state =>
    (.ok (program.exec (view state)).1, put (program.exec (view state)).2 state)

/-- Run a program on the first part of a pair. -/
def onFirst {τ : Type} (program : Fallible σ ε α) : Fallible (σ × τ) ε α :=
  ofFunction fun state =>
    ((program.exec state.1).1, (program.exec state.1).2, state.2)

@[simp] theorem exec_onFirst {τ : Type}
    (program : Fallible σ ε α)
    (state : σ × τ) :
    (onFirst program).exec state =
      ((program.exec state.1).1, (program.exec state.1).2, state.2) := rfl

@[simp] theorem exec_ofFunction (run : σ → Except ε α × σ)
    (state : σ) :
    (ofFunction run).exec state = run state := rfl

@[simp] theorem exec_ofExcept (result : Except ε α)
    (state : σ) :
    (ofExcept result : Fallible σ ε α).exec state = (result, state) := rfl

theorem exec_attempt {τ ε' : Type} (view : τ → σ) (put : σ → τ → τ)
    (program : Fallible σ ε α)
    (state : τ) :
    (attempt view put program : Fallible τ ε' (Except ε α)).exec state =
      (.ok (program.exec (view state)).1, put (program.exec (view state)).2 state) := rfl

@[simp] theorem exec_pure (value : α) (state : σ) :
    (pure value : Fallible σ ε α).exec state = (.ok value, state) := rfl

@[simp] theorem exec_throw (error : ε) (state : σ) :
    (throw error : Fallible σ ε α).exec state = (.error error, state) := rfl

@[simp] theorem exec_get (state : σ) :
    (get : Fallible σ ε σ).exec state = (.ok state, state) := rfl

@[simp] theorem exec_modify (update : σ → σ) (state : σ) :
    (modify update : Fallible σ ε PUnit).exec state = (.ok ⟨⟩, update state) := rfl

/-- Sequencing runs the continuation exactly when the first program returns. -/
theorem exec_bind (program : Fallible σ ε α)
    (next : α → Fallible σ ε β)
    (state : σ) :
    (program >>= next).exec state =
      match program.exec state with
      | (.ok value, middle) => (next value).exec middle
      | (.error error, middle) => (.error error, middle) := by
  change (ExceptT.run (program >>= next)).run state = _
  rw [ExceptT.run_bind]
  change StateT.run (ExceptT.run program >>= _) state = _
  rw [StateT.run_bind]
  change (match program.exec state with
    | (result, middle) => StateT.run (match result with
      | .ok value => ExceptT.run (next value)
      | .error error => pure (.error error)) middle) = _
  rcases program.exec state with ⟨result, middle⟩
  cases result <;> rfl

variable {program : Fallible σ ε α} {next : α → Fallible σ ε β} {state : σ}

theorem exec_bind_of_ok {middle : σ} {value : α}
    (returns : program.exec state = (.ok value, middle)) :
    (program >>= next).exec state = (next value).exec middle := by
  rw [exec_bind, returns]

theorem exec_bind_of_error {middle : σ} {error : ε}
    (stops : program.exec state = (.error error, middle)) :
    (program >>= next).exec state = (.error error, middle) := by
  rw [exec_bind, stops]

theorem exec_get_bind (next : σ → Fallible σ ε β) (state : σ) :
    (get >>= next).exec state = (next state).exec state :=
  exec_bind_of_ok (exec_get state)

theorem exec_modify_bind (update : σ → σ) (next : PUnit → Fallible σ ε β) (state : σ) :
    (modify update >>= next).exec state = (next ⟨⟩).exec (update state) :=
  exec_bind_of_ok (exec_modify update state)

/-- Weakest precondition of a program for a postcondition on result and state. -/
def wp (program : Fallible σ ε α)
    (post : Except ε α → σ → Prop)
    (state : σ) : Prop :=
  post (program.exec state).1 (program.exec state).2

/-- A postcondition that holds of every exit may be weakened. -/
theorem wp_mono {strong weak : Except ε α → σ → Prop}
    (holds : program.wp strong state)
    (implies : ∀ result final, strong result final → weak result final) :
    program.wp weak state :=
  implies _ _ holds

/-- A postcondition that holds of everything holds of every exit. -/
theorem wp_of_forall {post : Except ε α → σ → Prop}
    (holds : ∀ result final, post result final) :
    program.wp post state :=
  holds _ _

/-- What is known of every exit is known of the exit that was reached. -/
theorem of_wp {post : Except ε α → σ → Prop}
    {final : σ} {result : Except ε α}
    (holds : program.wp post state)
    (ran : program.exec state = (result, final)) :
    post result final := by
  unfold wp at holds
  rwa [ran] at holds

/-- Two postconditions may be established separately. -/
theorem wp_and {left right : Except ε α → σ → Prop}
    (leftHolds : program.wp left state)
    (rightHolds : program.wp right state) :
    program.wp (fun result final => left result final ∧ right result final) state :=
  ⟨leftHolds, rightHolds⟩

@[simp] theorem wp_pure (value : α)
    (post : Except ε α → σ → Prop)
    (state : σ) :
    (pure value : Fallible σ ε α).wp post state ↔ post (.ok value) state := Iff.rfl

@[simp] theorem wp_throw (error : ε)
    (post : Except ε α → σ → Prop)
    (state : σ) :
    (throw error : Fallible σ ε α).wp post state ↔ post (.error error) state := Iff.rfl

@[simp] theorem wp_get (post : Except ε σ → σ → Prop)
    (state : σ) :
    (get : Fallible σ ε σ).wp post state ↔ post (.ok state) state := Iff.rfl

@[simp] theorem wp_modify (update : σ → σ)
    (post : Except ε PUnit → σ → Prop)
    (state : σ) :
    (modify update : Fallible σ ε PUnit).wp post state ↔
      post (.ok ⟨⟩) (update state) := Iff.rfl

@[simp] theorem wp_ofFunction (run : σ → Except ε α × σ)
    (post : Except ε α → σ → Prop)
    (state : σ) :
    (ofFunction run).wp post state ↔ post (run state).1 (run state).2 := Iff.rfl

@[simp] theorem wp_ofExcept (result : Except ε α)
    (post : Except ε α → σ → Prop)
    (state : σ) :
    (ofExcept result : Fallible σ ε α).wp post state ↔ post result state := Iff.rfl

@[simp] theorem wp_throwIf (condition : Prop) [Decidable condition]
    (error : ε)
    (post : Except ε Unit → σ → Prop)
    (state : σ) :
    (throwIf condition error : Fallible σ ε Unit).wp post state ↔
      (condition → post (.error error) state) ∧ (¬ condition → post (.ok ()) state) := by
  unfold throwIf
  by_cases holds : condition <;> simp [holds]

/-- The postcondition a sequenced program asks of its first part. -/
def andThen (next : α → Fallible σ ε β)
    (post : Except ε β → σ → Prop) : Except ε α → σ → Prop
  | .ok value, middle => (next value).wp post middle
  | .error error, middle => post (.error error) middle

@[simp] theorem andThen_ok (next : α → Fallible σ ε β)
    (post : Except ε β → σ → Prop)
    (value : α)
    (middle : σ) :
    andThen next post (.ok value) middle ↔ (next value).wp post middle := Iff.rfl

@[simp] theorem andThen_error (next : α → Fallible σ ε β)
    (post : Except ε β → σ → Prop)
    (error : ε)
    (middle : σ) :
    andThen next post (.error error) middle ↔ post (.error error) middle := Iff.rfl

/-- Sequencing threads the postcondition through the first program. -/
theorem wp_bind (program : Fallible σ ε α)
    (next : α → Fallible σ ε β)
    (post : Except ε β → σ → Prop)
    (state : σ) :
    (program >>= next).wp post state ↔ program.wp (andThen next post) state := by
  unfold wp
  rw [exec_bind]
  rcases program.exec state with ⟨result, middle⟩
  cases result <;> rfl

variable {post : Except ε β → σ → Prop}

/-- The bind rule with a stated intermediate condition. -/
theorem wp_bind_of {middlePost : Except ε α → σ → Prop}
    (first : program.wp middlePost state)
    (onOk : ∀ value middle, middlePost (.ok value) middle →
      (next value).wp post middle)
    (onError : ∀ error middle, middlePost (.error error) middle →
      post (.error error) middle) :
    (program >>= next).wp post state := by
  rw [wp_bind]
  refine wp_mono first ?_
  intro result middle reached
  cases result with
  | ok value => exact onOk value middle reached
  | error error => exact onError error middle reached

/-- The bind rule for a result that does not depend on the state. -/
theorem wp_ofExcept_bind {result : Except ε α}
    (onError : ∀ error, result = .error error → post (.error error) state)
    (onOk : ∀ value, result = .ok value → (next value).wp post state) :
    (ofExcept result >>= next).wp post state := by
  rw [wp_bind, wp_ofExcept]
  cases result with
  | ok value => exact onOk value rfl
  | error error => exact onError error rfl

/-- The bind rule for a first program of which nothing is known. -/
theorem wp_bind_of_forall (onOk : ∀ value middle, (next value).wp post middle)
    (onError : ∀ error middle, post (.error error) middle) :
    (program >>= next).wp post state := by
  rw [wp_bind]
  refine wp_of_forall fun result middle => ?_
  cases result with
  | ok value => exact onOk value middle
  | error error => exact onError error middle

/-- Every exit of the program is related to its start. -/
def Preserves (related : σ → σ → Prop)
    (program : Fallible σ ε α) : Prop :=
  ∀ state, related state (program.exec state).2

section Preserves

variable {related : σ → σ → Prop}

theorem Preserves.pure [Std.Refl related] (value : α) :
    Preserves related (Pure.pure value : Fallible σ ε α) :=
  fun state => Std.Refl.refl state

theorem Preserves.throw [Std.Refl related] (error : ε) :
    Preserves related (MonadExcept.throw error : Fallible σ ε α) :=
  fun state => Std.Refl.refl state

theorem Preserves.get [Std.Refl related] :
    Preserves related (MonadState.get : Fallible σ ε σ) :=
  fun state => Std.Refl.refl state

theorem Preserves.ofExcept [Std.Refl related] (result : Except ε α) :
    Preserves related (Fallible.ofExcept result : Fallible σ ε α) :=
  fun state => Std.Refl.refl state

/-- A sequence preserves a transitive relation that both parts preserve. -/
theorem Preserves.bind [IsTrans σ related]
    (first : Preserves related program)
    (rest : ∀ value, Preserves related (next value)) :
    Preserves related (program >>= next) := by
  intro state
  have firstRelated := first state
  rw [exec_bind]
  cases ran : program.exec state with
  | mk result middle =>
      rw [ran] at firstRelated
      cases result with
      | ok value => exact IsTrans.trans _ _ _ firstRelated (rest value middle)
      | error error => exact firstRelated

/-- A preserved relation as a postcondition. -/
theorem Preserves.wp (preserves : Preserves related program)
    (state : σ) :
    program.wp (fun _ final => related state final) state :=
  preserves state

/-- A relation established as a postcondition is preserved. -/
theorem Preserves.of_wp
    (holds : ∀ state, program.wp (fun _ final => related state final) state) :
    Preserves related program :=
  holds

/-- The bind rule for a first program of which only its relation is known. -/
theorem Preserves.wp_bind (first : Preserves related program)
    (onOk : ∀ value middle, related state middle → (next value).wp post middle)
    (onError : ∀ error middle, related state middle → post (.error error) middle) :
    (program >>= next).wp post state :=
  wp_bind_of (first.wp state)
    (fun value middle => onOk value middle) (fun error middle => onError error middle)

end Preserves

end Fallible
end YunXi
