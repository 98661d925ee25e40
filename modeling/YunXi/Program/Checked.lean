import Mathlib.Data.List.Basic

/-!
# Programs that only check

A check returns a value or an error and has no state.  These rules say when a sequence
of checks succeeds.
-/

namespace YunXi

variable {ε ε' α β : Type}

/-- A sequence succeeds when its first part does and the rest does on its value. -/
@[simp] theorem Except.bind_eq_ok {first : Except ε α} {next : α → Except ε β} {value : β} :
    (first >>= next) = .ok value ↔ ∃ middle, first = .ok middle ∧ next middle = .ok value := by
  cases first with
  | ok middle =>
      constructor
      · intro succeeds
        exact ⟨middle, rfl, succeeds⟩
      · rintro ⟨_, ⟨⟩, succeeds⟩
        exact succeeds
  | error error =>
      constructor
      · intro impossible
        cases impossible
      · rintro ⟨_, impossible, -⟩
        cases impossible

@[simp] theorem Except.pure_eq_ok {left right : α} :
    (pure left : Except ε α) = .ok right ↔ left = right := by
  change Except.ok left = Except.ok right ↔ _
  rw [Except.ok.injEq]

variable {value : α}

variable {error : ε}

@[simp] theorem Except.throw_eq_ok : (throw error : Except ε α) = .ok value ↔ False := by
  constructor
  · intro impossible
    cases impossible
  · exact False.elim

variable {result : Except ε α}

@[simp] theorem Except.mapError_eq_ok {wrap : ε → ε'} :
    result.mapError wrap = .ok value ↔ result = .ok value := by
  cases result <;> simp [Except.mapError]

@[simp] theorem Except.discard_eq_ok :
    (discard result : Except ε PUnit) = .ok ⟨⟩ ↔ ∃ value, result = .ok value := by
  cases result with
  | ok value => exact ⟨fun _ => ⟨value, rfl⟩, fun _ => rfl⟩
  | error error =>
      constructor
      · intro impossible
        cases impossible
      · rintro ⟨_, impossible⟩
        cases impossible

/-- A check that returns anything returns the one value it can. -/
theorem Except.exists_unit_eq_ok {result : Except ε Unit} :
    (∃ value, result = .ok value) ↔ result = .ok () :=
  ⟨fun ⟨_, returns⟩ => returns, fun returns => ⟨(), returns⟩⟩

theorem Except.exists_of_isOk (returns : result.isOk = true) :
    ∃ value, result = .ok value := by
  cases result with
  | ok value => exact ⟨value, rfl⟩
  | error error => cases returns

@[simp] theorem Except.toOption_eq_some :
    result.toOption = some value ↔ result = .ok value := by
  cases result <;> simp [Except.toOption]

variable {condition : Prop}

/-- A condition that is refused has to fail. -/
theorem Except.ite_throw_eq_ok [Decidable condition]
    {otherwise : Except ε α} :
    (if condition then throw error else otherwise) = .ok value ↔
      ¬ condition ∧ otherwise = .ok value := by
  by_cases refused : condition <;> simp [refused]

theorem Except.ite_error_eq_ok [Decidable condition]
    {otherwise : Except ε α} :
    (if condition then .error error else otherwise) = .ok value ↔
      ¬ condition ∧ otherwise = .ok value := by
  by_cases refused : condition <;> simp [refused]

/-- Stop with an error exactly when a condition holds. -/
def refuseIf (condition : Prop) [Decidable condition] (error : ε) : Except ε Unit :=
  if condition then .error error else .ok ()

@[simp] theorem refuseIf_eq_ok [Decidable condition]
    {value : Unit} :
    refuseIf condition error = .ok value ↔ ¬ condition := by
  unfold refuseIf
  by_cases refused : condition <;> simp [refused]

/-- Build a checked value, or return the error of its check. -/
def construct : (check : Except ε Unit) → (check = .ok () → α) → Except ε α
  | .ok (), make => .ok (make rfl)
  | .error error, _ => .error error

variable {check : Except ε Unit}

theorem construct_of_ok (passes : check = .ok ())
    (make : check = .ok () → α) : construct check make = .ok (make passes) := by
  subst passes
  rfl

theorem construct_eq_ok {make : check = .ok () → α} :
    (∃ value, construct check make = .ok value) ↔ check = .ok () := by
  constructor
  · rintro ⟨value, built⟩
    cases check with
    | ok => rfl
    | error error => cases built
  · intro passes
    exact ⟨make passes, construct_of_ok passes make⟩

/-- What was built is what its check lets be built. -/
theorem eq_of_construct {make : check = .ok () → α}
    (built : construct check make = .ok value) : ∃ passes, value = make passes := by
  obtain passes := construct_eq_ok.mp ⟨value, built⟩
  rw [construct_of_ok passes make, Except.ok.injEq] at built
  exact ⟨passes, built.symm⟩

/-- A check followed by more succeeds when both do. -/
theorem Except.check_bind_eq_ok {next : Unit → Except ε α} :
    (check >>= next) = .ok value ↔ check = .ok () ∧ next () = .ok value := by
  rw [Except.bind_eq_ok]
  constructor
  · rintro ⟨_, passes, succeeds⟩
    exact ⟨passes, succeeds⟩
  · rintro ⟨passes, succeeds⟩
    exact ⟨(), passes, succeeds⟩

/-- Check all elements of a list in order. -/
def checkAll (check : α → Except ε Unit) : List α → Except ε Unit
  | [] => .ok ()
  | element :: rest => do
      check element
      checkAll check rest

theorem checkAll_eq_ok {check : α → Except ε Unit} {elements : List α} :
    checkAll check elements = .ok () ↔ ∀ element ∈ elements, check element = .ok () := by
  induction elements with
  | nil => simp [checkAll]
  | cons element rest ih =>
      rw [checkAll, Except.bind_eq_ok, List.forall_mem_cons, ← ih]
      constructor
      · rintro ⟨_, first, later⟩
        exact ⟨first, later⟩
      · rintro ⟨first, later⟩
        exact ⟨(), first, later⟩

end YunXi
