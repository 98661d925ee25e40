import YunXi.CordisRuntime.Startup

/-!
# Refused operations

Operations are refused before any plugin code runs when the runtime is closed, the plugin is
unknown, a required plugin is to be disabled, or a mounted plugin is to be mounted.  The last
refusal comes after the switch of the plugin has been set.
-/

namespace YunXi
namespace Runtime

open Fallible
open CordisCore

variable {σ π : Type} {registry : PluginRegistry} {host : PluginHost σ π}
  {definition : PluginDefinition} {before : CordisRuntime σ}

/-- The errors of operations that are refused before plugin code runs. -/
def RuntimeError.refuses : RuntimeError → Bool
  | unknownPlugin _ | corePluginCannotDisable _ _ | invalidPluginState _ _ _
  | runtimeClosed _ => true
  | _ => false

variable {α : Type}

/-- The result is no refusal. -/
def Unrefused (result : Except RuntimeError α) : Prop :=
  ∀ error, result = .error error → error.refuses = false

theorem unrefused_ok (value : α) : Unrefused (.ok value) := nofun

theorem unrefused_none (error : RuntimeError) (isError : none = some error) :
    error.refuses = false := by
  cases isError

theorem unrefused_error {error : RuntimeError} (other : error.refuses = false) :
    Unrefused (.error error : Except RuntimeError α) := by
  rintro _ ⟨⟩
  exact other

theorem Unrefused.map {β : Type} {result : Except RuntimeError α} (unrefused : Unrefused result)
    (change : α → β) : Unrefused (result.map change) := by
  cases result with
  | ok value => exact unrefused_ok _
  | error error => exact unrefused_error (unrefused error rfl)

theorem mountCalls_unrefused (host : PluginHost σ π) (definition : PluginDefinition)
    (root : Root σ) : Unrefused (mountCalls host definition root).1 := by
  unfold mountCalls
  split
  case h_1 => exact unrefused_error rfl
  case h_2 plugin root _ =>
    split
    case h_1 => exact unrefused_error rfl
    case h_2 actualId root _ =>
      split
      case isTrue => exact unrefused_error rfl
      case isFalse =>
        cases (host.mount definition.id plugin root).1 with
        | ok fiber => exact unrefused_ok _
        | error cause => exact unrefused_error rfl

/-- A plugin that holds no fiber is not refused. -/
theorem mountIndex_unrefused (host : PluginHost σ π) (free : before.hasFiber definition = false) :
    (mountIndex host definition).wp (fun result _ => Unrefused result) before := by
  refine wp_mono (mountIndex_calls host free) fun result final ended => ?_
  rw [ended.1]
  exact mountCalls_unrefused host definition before.root

theorem unmountIndex_unrefused {allowRequired : Bool}
    (allowed : allowRequired = true ∨ definition.manifest.role.isRequired = false) :
    (unmountIndex host definition allowRequired).wp (fun result _ => Unrefused result) before := by
  have passes : ¬ (allowRequired = false ∧ definition.manifest.role.isRequired = true) := by
    rintro ⟨notAllowed, required⟩
    rcases allowed with allowed | optional
    · cases allowed.symm.trans notAllowed
    · cases optional.symm.trans required
  simp only [unmountIndex, wp_bind, wp_throwIf, wp_get,
    andThen_ok, andThen_error]
  refine ⟨fun refused => absurd refused passes, fun _ => ?_⟩
  split
  case h_1 => exact unrefused_ok _
  case h_2 fiber _ =>
    simp only [unmountFiber, wp_bind, wp_changeRecord, wp_onRoot, andThen_ok,
      wp_ofExcept]
    cases (host.unmount fiber _).1 with
    | ok => exact unrefused_ok _
    | error cause => exact unrefused_error rfl

theorem applyBeforeStart_unrefused {enabled : Bool}
    (optional : enabled = false → definition.manifest.role.isRequired = false) :
    (applyBeforeStart host definition enabled).wp (fun result _ => Unrefused result) before := by
  unfold applyBeforeStart
  cases enabled with
  | true => exact unrefused_ok _
  | false =>
      simp only [Bool.false_eq_true, if_false, wp_bind, wp_get,
        andThen_ok]
      split
      case isTrue => exact unmountIndex_unrefused (.inr (optional rfl))
      case isFalse => exact unrefused_ok _

/-- The error that startup returns is no refusal. -/
def Startup.Unrefused (startup : Startup) : Prop :=
  ∀ error, startup.requiredError = some error → error.refuses = false

theorem Startup.Unrefused.fail {startup : Startup} (unrefused : startup.Unrefused)
    (definition : PluginDefinition) (phase : FailurePhase) (error : RuntimeError)
    (record : PluginRecord) : (startup.fail definition phase error record).Unrefused :=
  unrefused

theorem Startup.Unrefused.require {startup : Startup} (unrefused : startup.Unrefused)
    (definition : PluginDefinition) {error : RuntimeError} (other : error.refuses = false) :
    (startup.require definition error).Unrefused := by
  intro first isFirst
  unfold Startup.require at isFirst
  rcases Option.or_eq_some_iff.mp isFirst with earlier | ⟨-, own⟩
  · exact unrefused first earlier
  · split at own
    case isTrue =>
      cases own
      exact other
    case isFalse => cases own

/-- The first loop reports failures only. -/
theorem sortOut_unrefused (host : PluginHost σ π) (definitions : List PluginDefinition) (startup : Startup)
    (before : CordisRuntime σ) (unrefused : startup.Unrefused) :
    (sortOut host definitions startup).wp (fun result _ =>
      ∃ startup' pending, result = .ok (startup', pending) ∧ startup'.Unrefused) before := by
  induction definitions generalizing startup before with
  | nil => exact ⟨startup, [], rfl, unrefused⟩
  | cons definition rest ih =>
      simp only [sortOut, wp_bind, wp_get, andThen_ok]
      split
      case isTrue =>
        have switched : (switchOff host definition startup).wp (fun result _ =>
            ∃ startup', result = .ok startup' ∧ startup'.Unrefused) before := by
          simp only [switchOff, wp_bind, wp_get, andThen_ok]
          split
          case isTrue =>
            rw [wp_bind, wp_caught]
            refine wp_of_forall fun result middle => ?_
            cases result with
            | ok => exact ⟨_, rfl, unrefused⟩
            | error error => exact ⟨_, rfl, unrefused⟩
          case isFalse => exact ⟨_, rfl, unrefused⟩
        rw [wp_bind]
        refine wp_mono switched ?_
        rintro _ middle ⟨startup', rfl, unrefused'⟩
        exact ih startup' middle unrefused'
      case isFalse =>
        split
        case isTrue => exact ih (startup.activate definition) before unrefused
        case isFalse =>
          rw [wp_bind]
          refine wp_mono (ih startup before unrefused) ?_
          rintro _ final ⟨startup', pending, rfl, unrefused'⟩
          exact ⟨startup', definition :: pending, rfl, unrefused'⟩

/-- Neither what a pass reports nor what it defers is a refusal. -/
structure Pass.Unrefused (pass : Pass) : Prop where
  startup : pass.startup.Unrefused
  next : ∀ entry ∈ pass.next, entry.2.refuses = false

theorem afterMount_unrefused (definition : PluginDefinition) {pass : Pass} (unrefused : pass.Unrefused)
    {called : Except RuntimeError FiberId} (mounts : Runtime.Unrefused called)
    (middle : CordisRuntime σ) :
    (afterMount definition pass called).wp
      (fun result _ => ∃ pass', result = .ok pass' ∧ pass'.Unrefused) middle := by
  cases called with
  | ok fiber => exact ⟨_, rfl, unrefused.startup, unrefused.next⟩
  | error error =>
      have other := mounts error rfl
      simp only [afterMount]
      split
      case isTrue =>
        refine ⟨_, rfl, unrefused.startup, fun entry isIn => ?_⟩
        rcases List.mem_append.mp isIn with earlier | own
        · exact unrefused.next entry earlier
        · rw [List.mem_singleton.mp own]
          exact other
      case isFalse => exact ⟨_, rfl, unrefused.startup.require definition other, unrefused.next⟩

/-- The plugins of a pass wait without a fiber, so none is refused. -/
theorem mountPass_unrefused (host : PluginHost σ π) (definitions : List PluginDefinition) (pass : Pass)
    (before : CordisRuntime σ) (waiting : Waiting before (pass.next.map Prod.fst ++ definitions))
    (unrefused : pass.Unrefused) :
    (mountPass host definitions pass).wp
      (fun result _ => ∃ pass', result = .ok pass' ∧ pass'.Unrefused) before := by
  induction definitions generalizing pass before with
  | nil => exact ⟨pass, rfl, unrefused⟩
  | cons definition rest ih =>
      have free : before.hasFiber definition = false := by
        have empty := waiting.empty definition (by simp)
        simp [CordisRuntime.hasFiber, empty]
      simp only [mountPass, wp_bind, wp_caught, andThen_ok]
      have mounts := wp_and (mountIndex_spec host definition before)
        (mountIndex_unrefused host free)
      refine wp_mono mounts ?_
      rintro called middle ⟨spec, unrefusedCall⟩
      have after := wp_and (afterMount_kept waiting spec)
        (afterMount_unrefused definition unrefused unrefusedCall middle)
      refine wp_mono after ?_
      rintro _ later ⟨⟨-, waitingLater⟩, pass', rfl, unrefused'⟩
      exact ih pass' later (waitingLater pass' rfl) unrefused'

theorem abandon_unrefused (waiting : List (PluginDefinition × RuntimeError)) (startup : Startup)
    (before : CordisRuntime σ) (unrefused : startup.Unrefused)
    (others : ∀ entry ∈ waiting, entry.2.refuses = false) :
    (abandon waiting startup).wp
      (fun result _ => ∃ startup', result = .ok startup' ∧ startup'.Unrefused) before := by
  induction waiting generalizing startup before with
  | nil => exact ⟨startup, rfl, unrefused⟩
  | cons entry rest ih =>
      obtain ⟨definition, error⟩ := entry
      obtain ⟨own, later⟩ := List.forall_mem_cons.mp others
      simp only [abandon, wp_bind, wp_changeRecord, andThen_ok,
        wp_get]
      refine ih _ _ ?_ later
      exact (unrefused.require definition own).fail definition .mount error _

theorem mountRounds_unrefused (rounds : Nat) (pending : List PluginDefinition)
    (startup : Startup) (before : CordisRuntime σ) (waiting : Waiting before pending)
    (unrefused : startup.Unrefused) :
    (mountRounds host rounds pending startup).wp
      (fun result _ => ∃ startup', result = .ok startup' ∧ startup'.Unrefused) before := by
  induction rounds generalizing pending startup before with
  | zero => exact ⟨startup, rfl, unrefused⟩
  | succ rounds ih =>
      simp only [mountRounds, wp_bind]
      have passes := wp_and
        (mountPass_kept host pending ⟨startup, [], false⟩ before (by simpa using waiting))
        (mountPass_unrefused host pending ⟨startup, [], false⟩ before (by simpa using waiting)
          ⟨unrefused, fun _ impossible => absurd impossible List.not_mem_nil⟩)
      refine wp_mono passes ?_
      rintro _ middle ⟨⟨-, waitingNext⟩, pass, rfl, unrefusedPass⟩
      rw [andThen_ok]
      split
      case isTrue =>
        exact ih _ pass.startup middle (waitingNext pass rfl)
          unrefusedPass.startup
      case isFalse =>
        exact abandon_unrefused pass.next pass.startup middle unrefusedPass.startup
          unrefusedPass.next

/-- A refused call leaves the runtime as it was. -/
def Harmless (before : CordisRuntime σ) (result : Except RuntimeError α)
    (after : CordisRuntime σ) : Prop :=
  ∀ error, result = .error error → error.refuses = true → after = before

theorem Unrefused.harmless {result : Except RuntimeError α} {after : CordisRuntime σ}
    (unrefused : Unrefused result) : Harmless before result after := by
  intro error isError refuses
  rw [unrefused error isError] at refuses
  cases refuses

theorem harmless_self (result : Except RuntimeError α) :
    Harmless before result before :=
  fun _ _ _ => rfl

theorem afterOpen_harmless {operation : String} {next : RuntimeM σ α}
    (body : before.closed = false → next.wp (Harmless before) before) :
    (ensureOpen operation >>= fun _ => next).wp (Harmless before) before := by
  simp only [ensureOpen, wp_bind, wp_get, andThen_ok,
    wp_throwIf, andThen_error]
  exact ⟨fun _ => harmless_self _, fun notClosed => body (Bool.not_eq_true _ ▸ notClosed)⟩

theorem afterLookup_harmless {pluginId : String}
    {next : PluginDefinition → RuntimeM σ α}
    (body : ∀ definition, registry.definitionOf pluginId = .ok definition →
      (next definition).wp (Harmless before) before) :
    (ofExcept (registry.definitionOf pluginId) >>= next).wp (Harmless before) before :=
  wp_ofExcept_bind (fun _ _ => harmless_self _) body

theorem setEnabled_harmless (pluginId : String) (enabled : Bool) :
    (setEnabled registry host pluginId enabled).wp (Harmless before) before := by
  unfold setEnabled
  refine afterOpen_harmless fun _ => afterLookup_harmless fun definition _ => ?_
  simp only [wp_bind, wp_throwIf, andThen_ok, andThen_error,
    wp_modify, wp_get]
  refine ⟨fun _ => harmless_self _, fun allowed => ?_⟩
  have optional : enabled = false → definition.manifest.role.isRequired = false := by
    simpa using allowed
  split
  case isTrue =>
    exact wp_mono (applyBeforeStart_unrefused optional)
      fun _ _ unrefused => unrefused.harmless
  case isFalse =>
    split
    case isTrue =>
      split
      case isTrue => exact (unrefused_ok ()).harmless
      case isFalse free =>
        simp only [wp_bind, wp_changeRecord, andThen_ok, wp_discard]
        refine wp_mono (mountIndex_unrefused host ?_)
          fun _ _ unrefused => (unrefused.map _).harmless
        unfold CordisRuntime.hasFiber at free ⊢
        rw [CordisRuntime.records_update_self]
        exact Bool.not_eq_true _ ▸ free
    case isFalse switchedOff =>
      refine wp_mono (unmountIndex_unrefused (.inr (optional ?_)))
        fun _ _ unrefused => unrefused.harmless
      exact Bool.not_eq_true _ ▸ switchedOff

theorem clearOverride_harmless (pluginId : String) :
    (clearOverride registry host pluginId).wp (Harmless before) before := by
  unfold clearOverride
  refine afterOpen_harmless fun _ => afterLookup_harmless fun definition _ => ?_
  simp only [wp_bind, wp_modify, andThen_ok]
  split
  case isTrue => exact (unrefused_ok ()).harmless
  case isFalse notRequired =>
    have optional : definition.manifest.role.isRequired = false :=
      Bool.not_eq_true _ ▸ notRequired
    simp only [wp_bind, wp_get, andThen_ok]
    split
    case isTrue =>
      exact wp_mono (applyBeforeStart_unrefused fun _ => optional)
        fun _ _ unrefused => unrefused.harmless
    case isFalse =>
      split
      case isTrue =>
        split
        case isTrue => exact (unrefused_ok ()).harmless
        case isFalse free =>
          rw [wp_discard]
          exact wp_mono (mountIndex_unrefused host (Bool.not_eq_true _ ▸ free))
            fun _ _ unrefused => (unrefused.map _).harmless
      case isFalse =>
        exact wp_mono (unmountIndex_unrefused (.inr optional))
          fun _ _ unrefused => unrefused.harmless

theorem startDefault_harmless : (startDefault registry host).wp (Harmless before) before := by
  have distinct : registry.definitions.Nodup := List.Nodup.of_map _ registry.nodup_ids
  unfold startDefault
  refine afterOpen_harmless fun _ => ?_
  simp only [wp_bind, wp_modify, andThen_ok]
  have sorts := wp_and
    (sortOut_kept host registry.definitions distinct ⟨⟨[], [], []⟩, none⟩
      { before with started := true })
    (sortOut_unrefused host registry.definitions ⟨⟨[], [], []⟩, none⟩
      { before with started := true } unrefused_none)
  refine wp_mono sorts ?_
  rintro _ middle ⟨⟨-, -, waiting⟩, startup, pending, rfl, unrefused⟩
  simp only [andThen_ok, wp_bind]
  refine wp_mono (mountRounds_unrefused pending.length pending startup middle
    (waiting startup pending rfl).2 unrefused) ?_
  rintro _ final ⟨startup', rfl, unrefused'⟩
  rw [andThen_ok, wp_ofExcept]
  cases required : startup'.requiredError with
  | none => exact (unrefused_ok _).harmless
  | some error => exact (unrefused_error (unrefused' error required)).harmless

/-- The loop of `shutdown` fails with errors of fibers only. -/
theorem stopAll_unrefused (definitions : List PluginDefinition) (first : Option RuntimeError)
    (before : CordisRuntime σ) (unrefused : ∀ error, first = some error → error.refuses = false) :
    (stopAll host definitions first).wp (fun result _ => ∃ first', result = .ok first' ∧
      ∀ error, first' = some error → error.refuses = false) before := by
  induction definitions generalizing first before with
  | nil => exact ⟨first, rfl, unrefused⟩
  | cons definition rest ih =>
      simp only [stopAll, wp_bind, wp_get, andThen_ok]
      split
      case isTrue =>
        rw [wp_bind, wp_caught]
        refine wp_mono (unmountIndex_unrefused (.inl rfl)) fun result middle stopped => ?_
        rw [andThen_ok]
        cases result with
        | ok => exact ih first middle unrefused
        | error error =>
            refine ih _ middle fun other isFirst => ?_
            rcases Option.or_eq_some_iff.mp isFirst with earlier | ⟨-, ⟨⟩⟩
            · exact unrefused other earlier
            · exact stopped error rfl
      case isFalse =>
        rw [wp_bind, wp_changeRecord]
        exact ih first _ unrefused

theorem shutdown_harmless : (shutdown registry host).wp (Harmless before) before := by
  simp only [shutdown, wp_bind, wp_get, andThen_ok]
  split
  case isTrue => exact (unrefused_ok ()).harmless
  case isFalse =>
    rw [wp_bind]
    refine wp_mono (stopAll_unrefused _ none before unrefused_none) ?_
    rintro _ middle ⟨first, rfl, unrefused⟩
    simp only [andThen_ok, wp_bind, wp_onRoot, wp_modify,
      wp_ofExcept]
    cases first with
    | some error => exact (unrefused_error (unrefused error rfl)).harmless
    | none =>
        cases (Root.dispose host middle.root).1 with
        | none => exact (unrefused_ok ()).harmless
        | some cause => exact (unrefused_error rfl).harmless

/-- The call mounts an optional plugin that is mounted while its switch is not on. -/
def RemountsUnswitched (registry : PluginRegistry) (runtime : CordisRuntime σ) :
    Operation → Prop
  | .mount pluginId => runtime.closed = false ∧ runtime.overrides pluginId ≠ some true ∧
      ∃ definition, registry.definitionOf pluginId = .ok definition ∧
        definition.manifest.role.isRequired = false ∧ runtime.hasFiber definition = true
  | _ => False

theorem override_eq_self {pluginId : String} {value : Option Bool} :
    before.override pluginId value = before ↔ before.overrides pluginId = value := by
  constructor
  · intro same
    have switches := congrFun (congrArg CordisRuntime.overrides same) pluginId
    rw [← switches]
    exact Function.update_self pluginId value before.overrides
  · rintro rfl
    unfold CordisRuntime.override
    rw [Function.update_eq_self]

/-- A mount of a mounted plugin is refused once the switch of the plugin is set. -/
theorem wp_mount_held {pluginId : String} {post : Except RuntimeError FiberId →
      CordisRuntime σ → Prop} (opened : before.closed = false)
    (found : registry.definitionOf pluginId = .ok definition)
    (held : before.hasFiber definition = true) :
    (mount registry host pluginId).wp post before ↔
      post (.error (.invalidPluginState definition.id (before.records definition).lifecycle
          "mount"))
        (if definition.manifest.role.isRequired = false then before.override pluginId (some true)
          else before) := by
  have heldStill : (before.override pluginId (some true)).hasFiber definition = true := held
  simp only [mount, ensureOpen, wp_bind, wp_get, andThen_ok,
    wp_throwIf, opened, Bool.false_eq_true, false_implies, true_and, not_false_eq_true,
    true_implies, wp_ofExcept, found]
  split
  case isTrue =>
    simp only [wp_bind, wp_modify, andThen_ok, wp_get,
      heldStill, Bool.true_eq_false, if_false, mountIndex, wp_throwIf,
      andThen_error, true_implies, not_true_eq_false, false_implies, and_true]
    rfl
  case isFalse =>
    simp only [wp_bind, andThen_ok, wp_get, held,
      Bool.true_eq_false, if_false, mountIndex, wp_throwIf, andThen_error,
      true_implies, not_true_eq_false, false_implies, and_true]

/-- A mount is harmless unless it meets a mounted plugin behind a switch that it changes. -/
theorem mount_harmless_iff (pluginId : String) :
    (mount registry host pluginId).wp (Harmless before) before ↔
      ¬ RemountsUnswitched registry before (.mount pluginId) := by
  constructor
  · rintro harmless ⟨opened, notOn, definition, found, optional, held⟩
    have refused := (wp_mount_held opened found held).mp harmless _ rfl rfl
    rw [if_pos optional] at refused
    exact notOn (override_eq_self.mp refused)
  · intro allowed
    have heldCase {definition : PluginDefinition} (opened : before.closed = false)
        (found : registry.definitionOf pluginId = .ok definition)
        (held : before.hasFiber definition = true) :
        (mount registry host pluginId).wp (Harmless before) before := by
      rw [wp_mount_held opened found held]
      split
      case isTrue optional =>
        refine fun _ _ _ => override_eq_self.mpr ?_
        by_contra notOn
        exact allowed ⟨opened, notOn, definition, found, optional, held⟩
      case isFalse => exact harmless_self _
    by_cases holds : before.closed = false ∧
        ∃ definition, registry.definitionOf pluginId = .ok definition ∧
          before.hasFiber definition = true
    · obtain ⟨opened, definition, found, held⟩ := holds
      exact heldCase opened found held
    · unfold mount
      refine afterOpen_harmless fun opened => afterLookup_harmless fun definition found => ?_
      have free : before.hasFiber definition = false :=
        Bool.eq_false_iff.mpr fun held => holds ⟨opened, definition, found, held⟩
      have mounts (middle : CordisRuntime σ) (same : middle.records = before.records) :
          (mountIndex host definition).wp (Harmless before)
            (middle.update definition PluginRecord.resetForManualMount) := by
        refine wp_mono (mountIndex_unrefused host ?_)
          fun _ _ unrefused => unrefused.harmless
        unfold CordisRuntime.hasFiber at free ⊢
        rw [CordisRuntime.records_update_self, same]
        exact free
      have freeStill : (before.override pluginId (some true)).hasFiber definition = false := free
      split
      case isTrue =>
        simp only [wp_bind, wp_modify, andThen_ok, wp_get,
          freeStill, if_true, wp_changeRecord]
        exact mounts _ rfl
      case isFalse =>
        simp only [wp_bind, andThen_ok, wp_get, free, if_true,
          wp_changeRecord]
        exact mounts _ rfl

/-- The call leaves the runtime as it was if it is refused before plugin code runs. -/
def RefusalKeeps (registry : PluginRegistry) (host : PluginHost σ π) (runtime : CordisRuntime σ)
    (operation : Operation) : Prop :=
  ∀ error, ((perform registry host operation).exec runtime).1 = .error error →
    error.refuses = true → step registry host runtime operation = runtime

theorem wp_discard_harmless {program : RuntimeM σ α} :
    (discard program).wp (Harmless before) before ↔ program.wp (Harmless before) before := by
  rw [wp_discard]
  constructor
  all_goals
    intro harmless
    refine wp_mono harmless fun result final kept error isError refuses => ?_
    cases result with
    | ok value => cases isError
    | error other =>
        cases isError
        exact kept error rfl refuses

theorem refusalKeeps_iff (operation : Operation) :
    RefusalKeeps registry host before operation ↔
      ¬ RemountsUnswitched registry before operation := by
  have others (harmless : (perform registry host operation).wp (Harmless before) before)
      (never : ¬ RemountsUnswitched registry before operation) :
      RefusalKeeps registry host before operation ↔
        ¬ RemountsUnswitched registry before operation :=
    ⟨fun _ => never, fun _ => harmless⟩
  cases operation with
  | startDefault => exact others (wp_discard_harmless.mpr startDefault_harmless) id
  | mount pluginId => exact wp_discard_harmless.trans (mount_harmless_iff pluginId)
  | enable pluginId => exact others (setEnabled_harmless pluginId true) id
  | disable pluginId => exact others (setEnabled_harmless pluginId false) id
  | setEnabled pluginId enabled => exact others (setEnabled_harmless pluginId enabled) id
  | unmount pluginId => exact others (setEnabled_harmless pluginId false) id
  | clearOverride pluginId => exact others (clearOverride_harmless pluginId) id
  | shutdown => exact others shutdown_harmless id

/-- Every refused call of a run leaves the runtime as it was exactly if no call of the run
mounts an optional plugin that is mounted while its switch is not on. -/
theorem refusals_keep_runtime (registry : PluginRegistry) (host : PluginHost σ π) (outside : σ)
    (operations : List Operation) :
    EachStep (step registry host) (RefusalKeeps registry host) (CordisRuntime.new outside)
        operations ↔
      EachStep (step registry host)
        (fun runtime operation => ¬ RemountsUnswitched registry runtime operation)
        (CordisRuntime.new outside) operations :=
  eachStep_iff_eachStep (fun _ => True) (fun _ operation _ _ => refusalKeeps_iff operation)
    (fun _ _ _ _ _ => trivial) trivial (eachStep_true _ _)

/-- The runtime once startup has mounted the optional plugins, which have no switch. -/
def lateStarted : CordisRuntime (List String) :=
  finalState (step lateRegistry lateHost) (.new []) [.startDefault]

/-- A refused mount sets the switch of a plugin that had none. -/
theorem refused_mount_switches :
    ¬ RefusalKeeps lateRegistry lateHost lateStarted (.mount "late.provider") := by
  rw [refusalKeeps_iff, not_not]
  exact ⟨by decide, by decide, lateProvider, by decide,
    by decide, by decide⟩

end Runtime
end YunXi
