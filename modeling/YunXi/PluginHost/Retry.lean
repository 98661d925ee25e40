import YunXi.Program.Run

/-!
# The retry controller

A controller decides what a failure of a plugin leads to.  It keeps the current generation as a
fence against late events, and counts the automatic restarts of an enable cycle.
-/

namespace YunXi
namespace PluginHost

/-- `MAX_AUTOMATIC_RESTARTS`. -/
def maxAutomaticRestarts : Nat := 3

/-- A policy is within the product's bound. -/
structure RetryPolicy where
  maxAutomaticRestarts : Nat
  capped : maxAutomaticRestarts ≤ PluginHost.maxAutomaticRestarts

def RetryPolicy.new (maxAutomaticRestarts : Nat) : RetryPolicy :=
  ⟨min maxAutomaticRestarts PluginHost.maxAutomaticRestarts, Nat.min_le_right _ _⟩

def RetryPolicy.default : RetryPolicy := .new PluginHost.maxAutomaticRestarts

inductive RetryAction
  | restart (attempt : Nat)
  | disable
  deriving DecidableEq, Repr

structure RetryController where
  policy : RetryPolicy
  enabled : Bool
  generation : Option Nat
  automaticRestarts : Nat
  handledFailureGeneration : Option Nat

variable (policy : RetryPolicy)

namespace RetryController

def new : RetryController :=
  ⟨policy, true, none, 0, none⟩

variable (controller : RetryController)

variable (generation : Nat)

/-- `observe_generation`: a generation that is not older than the current one becomes it. -/
def observeGeneration : Bool × RetryController :=
  if controller.enabled = false then (false, controller)
  else
    match controller.generation with
    | some current =>
        if generation < current then (false, controller)
        else if generation = current then (true, controller)
        else
          (true, { controller with
            generation := some generation, handledFailureGeneration := none })
    | none =>
        (true, { controller with generation := some generation, handledFailureGeneration := none })

def acceptsGeneration : Bool :=
  controller.enabled && controller.generation == some generation

/-- `on_failure`: a failure of the current generation is consumed once. -/
def onFailure : Option RetryAction × RetryController :=
  if ¬ controller.acceptsGeneration generation ∨
      controller.handledFailureGeneration = some generation then
    (none, controller)
  else if controller.automaticRestarts < controller.policy.maxAutomaticRestarts then
    (some (.restart (controller.automaticRestarts + 1)), { controller with
      handledFailureGeneration := some generation
      automaticRestarts := controller.automaticRestarts + 1 })
  else
    (some .disable, { controller with
      handledFailureGeneration := some generation, enabled := false })

def manualRestart : RetryController :=
  { controller with
    enabled := true, generation := none, automaticRestarts := 0, handledFailureGeneration := none }

def disable : RetryController :=
  { controller with enabled := false, generation := none, handledFailureGeneration := none }

/-- A generation that is observed is the current one from then on; nothing else changes but the
mark of a failure that was handled. -/
theorem observeGeneration_cases :
    (controller.observeGeneration generation = (false, controller)) ∨
      (controller.enabled = true ∧ controller.generation = some generation ∧
        controller.observeGeneration generation = (true, controller)) ∨
      (controller.enabled = true ∧ (∀ current, controller.generation = some current →
          current < generation) ∧
        controller.observeGeneration generation = (true, { controller with
          generation := some generation, handledFailureGeneration := none })) := by
  unfold observeGeneration
  cases enabled : controller.enabled with
  | false => exact .inl (if_pos rfl)
  | true =>
      rw [if_neg Bool.noConfusion]
      cases known : controller.generation with
      | none => exact .inr (.inr ⟨rfl, nofun, rfl⟩)
      | some current =>
          dsimp only
          rcases Nat.lt_trichotomy generation current with older | rfl | newer
          · exact .inl (if_pos older)
          · rw [if_neg (Nat.lt_irrefl _), if_pos rfl]
            exact .inr (.inl ⟨rfl, rfl, rfl⟩)
          · rw [if_neg (Nat.not_lt.mpr (Nat.le_of_lt newer)), if_neg (Nat.ne_of_gt newer)]
            refine .inr (.inr ⟨rfl, ?_, rfl⟩)
            rintro _ ⟨⟩
            exact newer

/-- A failure has an effect when it is one of the current generation that was not handled. -/
theorem onFailure_cases : (controller.onFailure generation = (none, controller)) ∨
      (controller.enabled = true ∧ controller.generation = some generation ∧
        controller.handledFailureGeneration ≠ some generation ∧
        ((controller.automaticRestarts < controller.policy.maxAutomaticRestarts ∧
            controller.onFailure generation =
              (some (.restart (controller.automaticRestarts + 1)), { controller with
                handledFailureGeneration := some generation
                automaticRestarts := controller.automaticRestarts + 1 })) ∨
          (controller.policy.maxAutomaticRestarts ≤ controller.automaticRestarts ∧
            controller.onFailure generation = (some .disable, { controller with
              handledFailureGeneration := some generation, enabled := false })))) := by
  unfold onFailure
  by_cases refused : ¬ controller.acceptsGeneration generation ∨
      controller.handledFailureGeneration = some generation
  · exact .inl (if_pos refused)
  · rw [if_neg refused]
    obtain ⟨accepted, unhandled⟩ := not_or.mp refused
    unfold acceptsGeneration at accepted
    rw [not_not, Bool.and_eq_true, beq_iff_eq] at accepted
    refine .inr ⟨accepted.1, accepted.2, unhandled, ?_⟩
    by_cases room : controller.automaticRestarts < controller.policy.maxAutomaticRestarts
    · exact .inl ⟨room, if_pos room⟩
    · exact .inr ⟨Nat.not_lt.mp room, if_neg room⟩

end RetryController

/-- The calls of a host. -/
inductive RetryCall
  | observeGeneration (generation : Nat)
  | onFailure (generation : Nat)
  | manualRestart
  | disable
  deriving DecidableEq, Repr

/-- A controller with what it was told and what it decided: the generations that were observed,
those whose failure was consumed, and the actions since the last manual restart. -/
structure RetryHistory where
  controller : RetryController
  observed : List Nat
  consumed : List Nat
  actions : List RetryAction

namespace RetryHistory

def start : RetryHistory :=
  ⟨.new policy, [], [], []⟩

variable (history : RetryHistory)

def call : RetryCall → RetryHistory
  | .observeGeneration generation =>
      let (accepted, controller) := history.controller.observeGeneration generation
      { history with
        controller
        observed := if accepted then generation :: history.observed else history.observed }
  | .onFailure generation =>
      match history.controller.onFailure generation with
      | (none, controller) => { history with controller }
      | (some action, controller) =>
          { history with
            controller
            consumed := generation :: history.consumed
            actions := history.actions ++ [action] }
  | .manualRestart =>
      { history with controller := history.controller.manualRestart, actions := [] }
  | .disable => { history with controller := history.controller.disable }

/-- A generation that is observed while there is no current one is not older than any that was
observed, and its failure was not consumed. -/
def Advances : RetryCall → Prop
  | .observeGeneration generation =>
      history.controller.enabled = true → history.controller.generation = none →
        (∀ earlier ∈ history.observed, earlier ≤ generation) ∧ generation ∉ history.consumed
  | _ => True

/-- A failure of a generation older than an observed one, or one that was consumed before, has
no effect. -/
def Fenced : RetryCall → Prop
  | .onFailure generation =>
      (∃ newer ∈ history.observed, generation < newer) ∨ generation ∈ history.consumed →
        history.controller.onFailure generation = (none, history.controller)
  | _ => True

/-- The first restarts of a cycle. -/
def restarts (count : Nat) : List RetryAction :=
  (List.range count).map fun index => .restart (index + 1)

/-- The actions of a cycle are the restarts up to a number within the policy, or all restarts
of the policy and that the plugin is disabled. -/
def Budgeted : Prop :=
  let maximum := history.controller.policy.maxAutomaticRestarts
  (∃ count ≤ maximum, history.actions = restarts count) ∨
    history.actions = restarts maximum ++ [.disable]

theorem restarts_succ (count : Nat) :
    restarts (count + 1) = restarts count ++ [.restart (count + 1)] := by
  unfold restarts
  rw [List.range_succ, List.map_append]
  rfl

/-- The counter of a controller is the number of restarts of the cycle, until it is disabled. -/
structure Counted : Prop where
  bounded : history.controller.automaticRestarts ≤
    history.controller.policy.maxAutomaticRestarts
  counts : history.actions = restarts history.controller.automaticRestarts ∨
    (history.controller.enabled = false ∧
      history.actions =
        restarts history.controller.policy.maxAutomaticRestarts ++ [.disable])

variable {history : RetryHistory}

theorem Counted.budgeted (counted : Counted history) :
    Budgeted history := by
  rcases counted.counts with counts | ⟨-, counts⟩
  · exact .inl ⟨_, counted.bounded, counts⟩
  · exact .inr counts

theorem Counted.call (counted : Counted history) (call : RetryCall) :
    Counted (history.call call) := by
  obtain ⟨bounded, counts⟩ := counted
  cases call with
  | observeGeneration generation =>
      dsimp only [RetryHistory.call]
      rcases history.controller.observeGeneration_cases generation with
        same | ⟨-, -, same⟩ | ⟨enabled, -, moved⟩
      · rw [same]
        exact ⟨bounded, counts⟩
      · rw [same]
        exact ⟨bounded, counts⟩
      · rw [moved]
        exact ⟨bounded, counts⟩
  | onFailure generation =>
      dsimp only [RetryHistory.call]
      rcases history.controller.onFailure_cases generation with
        same | ⟨enabled, -, -, ⟨room, restarted⟩ | ⟨full, disabled⟩⟩
      · rw [same]
        exact ⟨bounded, counts⟩
      all_goals
        have counted : history.actions = restarts history.controller.automaticRestarts := by
          refine counts.resolve_right ?_
          rintro ⟨off, -⟩
          exact Bool.noConfusion (enabled.symm.trans off)
      · rw [restarted]
        refine ⟨room, .inl ?_⟩
        dsimp only
        rw [restarts_succ, ← counted]
      · rw [disabled]
        refine ⟨bounded, .inr ⟨rfl, ?_⟩⟩
        dsimp only
        rw [← Nat.le_antisymm bounded full, ← counted]
  | manualRestart => exact ⟨Nat.zero_le _, .inl rfl⟩
  | disable =>
      refine ⟨bounded, ?_⟩
      rcases counts with counts | ⟨-, counts⟩
      · exact .inl counts
      · exact .inr ⟨rfl, counts⟩

theorem counted_start : Counted (start policy) :=
  ⟨Nat.zero_le _, .inl rfl⟩

/-- The current generation is the newest that was observed, and it is marked when its failure
was consumed. -/
structure Ordered (history : RetryHistory) : Prop where
  newest : ∀ current, history.controller.generation = some current →
    current ∈ history.observed ∧ ∀ earlier ∈ history.observed, earlier ≤ current
  marked : ∀ current, history.controller.generation = some current →
    current ∈ history.consumed → history.controller.handledFailureGeneration = some current
  consumed : ∀ generation ∈ history.consumed, generation ∈ history.observed

theorem ordered_start : Ordered (start policy) :=
  ⟨nofun, nofun, nofun⟩

theorem Ordered.call (ordered : Ordered history) (call : RetryCall)
    (advances : Advances history call) : Ordered (history.call call) := by
  obtain ⟨newest, marked, consumed⟩ := ordered
  cases call with
  | observeGeneration generation =>
      dsimp only [RetryHistory.call]
      rcases history.controller.observeGeneration_cases generation with
        same | ⟨-, current, same⟩ | ⟨enabled, older, moved⟩
      · rw [same]
        exact ⟨newest, marked, consumed⟩
      · rw [same]
        refine ⟨fun other isCurrent => ?_, marked, fun other member =>
          List.mem_cons_of_mem _ (consumed other member)⟩
        obtain rfl := Option.some_inj.mp (current.symm.trans isCurrent)
        exact ⟨List.mem_cons_self, List.forall_mem_cons.mpr ⟨Nat.le_refl _, (newest _ current).2⟩⟩
      · have fresh : (∀ earlier ∈ history.observed, earlier ≤ generation) ∧
            generation ∉ history.consumed := by
          cases known : history.controller.generation with
          | none => exact advances enabled known
          | some current =>
              have less := older current known
              refine ⟨fun earlier member =>
                Nat.le_trans ((newest current known).2 earlier member) (Nat.le_of_lt less), ?_⟩
              intro member
              exact absurd ((newest current known).2 _ (consumed _ member)) (Nat.not_le.mpr less)
        rw [moved]
        refine ⟨?_, ?_, fun other member => List.mem_cons_of_mem _ (consumed other member)⟩
        · rintro _ ⟨⟩
          exact ⟨List.mem_cons_self, List.forall_mem_cons.mpr ⟨Nat.le_refl _, fresh.1⟩⟩
        · rintro _ ⟨⟩ member
          exact absurd member fresh.2
  | onFailure generation =>
      dsimp only [RetryHistory.call]
      rcases history.controller.onFailure_cases generation with
        same | ⟨enabled, current, -, ⟨-, taken⟩ | ⟨-, taken⟩⟩
      · rw [same]
        exact ⟨newest, marked, consumed⟩
      all_goals
        rw [taken]
        refine ⟨newest, ?_, List.forall_mem_cons.mpr ⟨(newest _ current).1, consumed⟩⟩
        intro other isCurrent _
        exact current.symm.trans isCurrent
  | manualRestart => exact ⟨nofun, nofun, consumed⟩
  | disable => exact ⟨nofun, nofun, consumed⟩

theorem Ordered.fenced (ordered : Ordered history) (call : RetryCall) :
    Fenced history call := by
  cases call with
  | onFailure generation =>
      intro stale
      rcases history.controller.onFailure_cases generation with same | ⟨-, current, unhandled, -⟩
      · exact same
      · rcases stale with ⟨newer, member, less⟩ | member
        · exact absurd ((ordered.newest _ current).2 newer member) (Nat.not_le.mpr less)
        · exact absurd (ordered.marked _ current member) unhandled
  | observeGeneration generation => trivial
  | manualRestart => trivial
  | disable => trivial

/-- In every history in which an explicit start is followed by a generation that is not older
than an observed one, nor one whose failure was consumed, late failures have no effect and no
failure is consumed twice; in every history the actions keep to the policy. -/
theorem failures_fenced (policy : RetryPolicy) (calls : List RetryCall)
    (advances : EachStep call Advances (start policy) calls) :
    EachStep call Fenced (start policy) calls ∧
      Throughout call Budgeted (start policy) calls := by
  constructor
  · have ordered := throughout_of_step Ordered Advances
      (fun history call ordered advances => ordered.call call advances)
      (ordered_start policy) advances
    rw [eachStep_iff_prefixes]
    intro earlier current later split
    have reached := (throughout_iff_prefixes Ordered _ calls).mp ordered earlier.length
    rw [split, List.take_left] at reached
    exact reached.fenced current
  · have counted := throughout_of_invariant Counted
      (fun history call counted => counted.call call) (counted_start policy) calls
    exact counted.mono fun _ => Counted.budgeted

/-- Three failures, an explicit restart and a failure after it. -/
theorem failures_fenced_restarted :
    let calls : List RetryCall := [.observeGeneration 1, .onFailure 1, .observeGeneration 2,
      .onFailure 2, .onFailure 1, .manualRestart, .observeGeneration 3, .onFailure 3]
    EachStep call Fenced (start .default) calls ∧
      Throughout call Budgeted (start .default) calls := by
  have first : Advances (start .default) (.observeGeneration 1) := fun _ _ => ⟨nofun, nofun⟩
  refine failures_fenced .default _ ⟨first, ⟨trivial, ?_⟩⟩
  refine ⟨fun _ known => absurd known (by decide), ⟨trivial, ⟨trivial, ⟨trivial, ?_⟩⟩⟩⟩
  exact ⟨fun _ _ => ⟨by decide, by decide⟩, ⟨trivial, trivial⟩⟩

/-- After a manual restart an older generation is observed, and its failure is acted upon. -/
theorem stale_failure : ¬ (EachStep call Fenced (start .default)
      [.observeGeneration 2, .manualRestart, .observeGeneration 1, .onFailure 1]) := by
  rintro ⟨-, -, -, fenced, -⟩
  have effectless := congrArg Prod.fst (fenced (.inl ⟨2, by decide, by decide⟩))
  revert effectless
  decide

end RetryHistory

end PluginHost
end YunXi
