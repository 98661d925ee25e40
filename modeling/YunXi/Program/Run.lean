import Mathlib.Data.List.Basic

/-!
# Runs of a step function

A system is a total step function: performing an action in a state gives the
next state.  A run is a list of actions.  This module states what it means for
a property to hold in every state of a run and for every step of a run to meet
a condition, and gives the two rules the developments above use: the induction
rule for invariants of conditioned runs, and the rule that a condition is
exact.
-/

namespace YunXi

variable {σ α : Type}

/-- The state a run ends in. -/
def finalState (step : σ → α → σ) (start : σ) (actions : List α) : σ :=
  actions.foldl step start

@[simp] theorem finalState_nil (step : σ → α → σ) (start : σ) :
    finalState step start [] = start := rfl

@[simp] theorem finalState_cons (step : σ → α → σ) (start : σ) (action : α) (actions : List α) :
    finalState step start (action :: actions) =
      finalState step (step start action) actions := rfl

theorem finalState_append (step : σ → α → σ) (start : σ) (first second : List α) :
    finalState step start (first ++ second) =
      finalState step (finalState step start first) second :=
  List.foldl_append

/-- The property holds in the start state and after every action of the run. -/
def Throughout (step : σ → α → σ) (property : σ → Prop) : σ → List α → Prop
  | start, [] => property start
  | start, action :: actions =>
      property start ∧ Throughout step property (step start action) actions

/-- Every action of the run meets the condition in the state it is performed in. -/
def EachStep (step : σ → α → σ) (condition : σ → α → Prop) : σ → List α → Prop
  | _, [] => True
  | start, action :: actions =>
      condition start action ∧ EachStep step condition (step start action) actions

variable {step : σ → α → σ}

variable {actions : List α}

variable {property : σ → Prop}

/-- A property held throughout a run holds in the start state. -/
theorem Throughout.start {start : σ}
    (holds : Throughout step property start actions) :
    property start := by
  cases actions with
  | nil => exact holds
  | cons action actions => exact holds.1

/-- A property held throughout a run is held after every prefix of it. -/
theorem throughout_iff_prefixes (property : σ → Prop) (start : σ) (actions : List α) :
    Throughout step property start actions ↔
      ∀ count, property (finalState step start (actions.take count)) := by
  induction actions generalizing start with
  | nil => simp [Throughout]
  | cons action actions ih =>
      rw [Throughout, ih]
      constructor
      · rintro ⟨atStart, later⟩ count
        cases count with
        | zero => exact atStart
        | succ count => exact later count
      · intro atPrefixes
        exact ⟨atPrefixes 0, fun count => atPrefixes (count + 1)⟩

/-- A property held throughout a run holds where it ends. -/
theorem Throughout.last {start : σ}
    (holds : Throughout step property start actions) :
    property (finalState step start actions) := by
  have atEnd := (throughout_iff_prefixes property start actions).mp holds actions.length
  rwa [List.take_length] at atEnd

/-- The condition is met before every action that follows a prefix of the run. -/
theorem eachStep_iff_prefixes (condition : σ → α → Prop) (start : σ) (actions : List α) :
    EachStep step condition start actions ↔
      ∀ earlier action later, actions = earlier ++ action :: later →
        condition (finalState step start earlier) action := by
  induction actions generalizing start with
  | nil => simp [EachStep]
  | cons action actions ih =>
      rw [EachStep, ih]
      constructor
      · rintro ⟨atStart, later⟩ earlier current rest split
        cases earlier with
        | nil =>
            simp only [List.nil_append, List.cons.injEq] at split
            rw [← split.1]
            exact atStart
        | cons first earlier =>
            simp only [List.cons_append, List.cons.injEq] at split
            rw [← split.1]
            exact later earlier current rest split.2
      · intro atSteps
        refine ⟨atSteps [] action actions rfl, ?_⟩
        intro earlier current rest split
        exact atSteps (action :: earlier) current rest (by rw [split]; rfl)

/-- A weaker property also holds throughout. -/
theorem Throughout.mono {strong weak : σ → Prop} {start : σ}
    (holds : Throughout step strong start actions)
    (implies : ∀ state, strong state → weak state) :
    Throughout step weak start actions := by
  rw [throughout_iff_prefixes] at holds ⊢
  exact fun count => implies _ (holds count)

/-- The condition `True` is met by every run. -/
theorem eachStep_true (start : σ) (actions : List α) :
    EachStep step (fun _ _ => True) start actions := by
  induction actions generalizing start with
  | nil => trivial
  | cons action actions ih =>
      exact ⟨trivial, ih _⟩

variable (invariant : σ → Prop)

/-- Induction rule: an invariant that every conditioned step keeps holds
throughout every conditioned run. -/
theorem throughout_of_step (condition : σ → α → Prop)
    (keeps : ∀ state action, invariant state → condition state action →
      invariant (step state action))
    {start : σ}
    (atStart : invariant start)
    (meets : EachStep step condition start actions) :
    Throughout step invariant start actions := by
  induction actions generalizing start with
  | nil => exact atStart
  | cons action actions ih =>
      exact ⟨atStart, ih (keeps _ _ atStart meets.1) meets.2⟩

/-- An invariant that every step keeps holds throughout every run. -/
theorem throughout_of_invariant
    (keeps : ∀ state action, invariant state → invariant (step state action))
    {start : σ}
    (atStart : invariant start)
    (actions : List α) :
    Throughout step invariant start actions :=
  throughout_of_step invariant (fun _ _ => True)
    (fun state action holds _ => keeps state action holds) atStart
    (eachStep_true start actions)

variable {condition : σ → α → Prop}

/-- A condition on the actions alone is met wherever they are performed. -/
theorem eachStep_of_forall_mem
    (meets : ∀ action ∈ actions, ∀ state, condition state action) (start : σ) :
    EachStep step condition start actions := by
  induction actions generalizing start with
  | nil => trivial
  | cons action actions ih =>
      exact ⟨meets action (by simp) start, ih (fun later member =>
        meets later (List.mem_cons_of_mem _ member)) _⟩

/-- The condition is exact for the property: under what is assumed of every step,
conditioned steps keep an invariant that gives the property, and a step that misses
the condition breaks the property at once. -/
theorem throughout_iff_eachStep (assumed : σ → α → Prop)
    (gives : ∀ state, invariant state → property state)
    (keeps : ∀ state action, invariant state → assumed state action →
      condition state action → invariant (step state action))
    (breaks : ∀ state action, invariant state → assumed state action →
      ¬ condition state action → ¬ property (step state action))
    {start : σ}
    (atStart : invariant start)
    (assumes : EachStep step assumed start actions) :
    Throughout step property start actions ↔
      EachStep step condition start actions := by
  induction actions generalizing start with
  | nil => exact ⟨fun _ => trivial, fun _ => gives start atStart⟩
  | cons action actions ih =>
      by_cases met : condition start action
      · have later := ih (keeps _ _ atStart assumes.1 met) assumes.2
        exact ⟨fun holds => ⟨met, later.mp holds.2⟩,
          fun meets => ⟨gives start atStart, later.mpr meets.2⟩⟩
      · exact ⟨fun holds => absurd holds.2.start (breaks _ _ atStart assumes.1 met),
          fun meets => absurd meets.1 met⟩

/-- A condition on the steps is exact for a property of the steps when it is so in the states
of an invariant that conditioned steps keep. -/
theorem eachStep_iff_eachStep {assumed property : σ → α → Prop}
    (exact_ : ∀ state action, invariant state → assumed state action →
      (property state action ↔ condition state action))
    (keeps : ∀ state action, invariant state → assumed state action →
      condition state action → invariant (step state action))
    {start : σ}
    (atStart : invariant start) (assumes : EachStep step assumed start actions) :
    EachStep step property start actions ↔ EachStep step condition start actions := by
  induction actions generalizing start with
  | nil => exact Iff.rfl
  | cons action actions ih =>
      have here := exact_ start action atStart assumes.1
      constructor
      · rintro ⟨holds, later⟩
        have met := here.mp holds
        exact ⟨met, (ih (keeps _ _ atStart assumes.1 met) assumes.2).mp later⟩
      · rintro ⟨met, later⟩
        exact ⟨here.mpr met,
          (ih (keeps _ _ atStart assumes.1 met) assumes.2).mpr later⟩

/-- The rule for properties of the steps: every conditioned step has the property in the
states of an invariant, and every step keeps the invariant. -/
theorem eachStep_of_step {property : σ → α → Prop}
    (gives : ∀ state action, invariant state → condition state action → property state action)
    (keeps : ∀ state action, invariant state → invariant (step state action))
    {start : σ}
    (atStart : invariant start) (meets : EachStep step condition start actions) :
    EachStep step property start actions := by
  induction actions generalizing start with
  | nil => trivial
  | cons action actions ih =>
      exact ⟨gives start action atStart meets.1,
        ih (keeps start action atStart) meets.2⟩

/-- What the steps of a run give off, in order. -/
def givenOff {β : Type} (step : σ → α → σ) (gives : σ → α → List β) : σ → List α → List β
  | _, [] => []
  | start, action :: actions =>
      gives start action ++ givenOff step gives (step start action) actions

/-- A balance that every step keeps holds for the whole run: what a run takes in is what it
gives off and what it holds at its end. -/
theorem givenOff_balance {β : Type} {holds : σ → List β} {takes gives : σ → α → List β}
    (balanced : ∀ state action,
      holds state ++ takes state action = gives state action ++ holds (step state action))
    (start : σ) (actions : List α) :
    holds start ++ givenOff step takes start actions =
      givenOff step gives start actions ++ holds (finalState step start actions) := by
  induction actions generalizing start with
  | nil => simp [givenOff]
  | cons action actions ih =>
      calc holds start ++ givenOff step takes start (action :: actions)
          = holds start ++ takes start action ++
              givenOff step takes (step start action) actions := by
            rw [givenOff, List.append_assoc]
        _ = gives start action ++ (holds (step start action) ++
              givenOff step takes (step start action) actions) := by
            rw [balanced, List.append_assoc]
        _ = _ := by
            rw [ih, givenOff, finalState_cons, List.append_assoc]

end YunXi
