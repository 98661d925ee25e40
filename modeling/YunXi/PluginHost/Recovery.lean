import YunXi.PluginHost.Starts

/-!
# Recovery of plugins

Each operation of the host keeps every view as it should be: an explicit start begins a cycle
once the process before is stopped, and a refresh acts upon each failed generation once.
-/

namespace YunXi
namespace PluginHost

open Kernel (PluginId World YunxiKernel maxGeneration)
open Fallible
open ProcessPluginHost

variable {σ : Type} {behaviour : Environment σ} {host : ProcessPluginHost σ} {id : PluginId}

/-- Every view is as it should be. -/
def Kept (host : ProcessPluginHost σ) : Prop :=
  ∀ id, (host.view id).Kept

/-- What is kept stays so, and no generation changes. -/
def Calms (before after : ProcessPluginHost σ) : Prop :=
  (Kept before → Kept after) ∧ ∀ id, (after.view id).generation = (before.view id).generation

instance calmsTrans : IsTrans (ProcessPluginHost σ) Calms where
  trans _ _ _ early late := ⟨late.1 ∘ early.1, fun id => (late.2 id).trans (early.2 id)⟩

theorem Lowers.calms {before after : ProcessPluginHost σ} (lowers : Lowers before after) :
    Calms before after :=
  ⟨fun kept id => (kept id).lowered (lowers id), fun id => (lowers id).generation⟩

theorem view_disabled (host : ProcessPluginHost σ) (id : PluginId) :
    (host.updateRetry id RetryController.disable).view id = (host.view id).retryDisabled :=
  view_updateRetry_self host id _

theorem calms_disableRetry (id : PluginId) :
    Preserves Calms (disableRetry id : HostProgram σ Unit) := by
  intro host
  have views (other : PluginId) (differ : other ≠ id) :
      (host.updateRetry id RetryController.disable).view other = host.view other :=
    view_updateRetry_of_ne differ _
  constructor
  · intro kept other
    by_cases own : other = id
    · subst own
      exact (view_disabled host other).symm ▸ (kept other).sound.retryDisabled
    · exact (views other own).symm ▸ kept other
  · intro other
    by_cases own : other = id
    · subst own
      exact (congrArg PluginView.generation (view_disabled host other)).trans rfl
    · exact congrArg PluginView.generation (views other own)

theorem calms_refreshKernel : Preserves Calms (refreshKernel behaviour : HostProgram σ Unit) :=
  fun host => (lowers_refreshed behaviour host).calms

theorem calms_disableFailedPlugin (id : PluginId) :
    Preserves Calms (disableFailedPlugin behaviour id) :=
  .bind (calms_disableRetry id) fun _ =>
    .bind (preserves_caught fun host => (wp_stopCurrent host id).1.calms) fun _ host =>
      (lowers_detached host id).calms

/-- Every view is as it should be after work on one plugin, which changed no generation of the
others. -/
def Recovers (id : PluginId) (before after : ProcessPluginHost σ) : Prop :=
  Kept after ∧ ∀ other, other ≠ id → (after.view other).generation = (before.view other).generation

/-- A plugin is kept by a start. -/
theorem wp_startKept (kept : Kept host) (known : (host.view id).retry ≠ none)
    (isOn : PluginEvent.isOff (host.view id).events = false) :
    (startGeneration behaviour id).wp (fun _ => Recovers id host) host := by
  refine wp_mono (wp_startGeneration host id known) fun _ final started =>
    ⟨fun other => ?_, fun other differ => (started.others other differ).generation⟩
  by_cases own : other = id
  · subst own
    have before := (kept other).withdrawn
    exact ⟨before.sound.start isOn started.own,
      before.sound.marked_start started.own (.inr before.marked)⟩
  · exact (kept other).lowered (started.others other own)

theorem wp_actUpon (kept : Kept host) (known : (host.view id).retry ≠ none)
    (isOn : PluginEvent.isOff (host.view id).events = false) (generation : Nat) (action : RetryAction) :
    (actUpon behaviour id generation action).wp (fun _ => Recovers id host) host := by
  have calmed (program : HostProgram σ Unit) (calms : Preserves Calms program)
      (before : ProcessPluginHost σ) (reached : Recovers id host before) :
      program.wp (fun _ => Recovers id host) before :=
    wp_mono (calms.wp before) fun _ _ after => ⟨after.1 reached.1,
      fun other differ => (after.2 other).trans (reached.2 other differ)⟩
  cases action with
  | disable => exact calmed _ (calms_disableFailedPlugin id) host ⟨kept, fun _ _ => rfl⟩
  | restart attempt =>
      unfold actUpon
      rw [wp_bind, detachConnection, wp_modify, andThen_ok]
      have detached := lowers_detached host id
      have own := host.view_detached_self id
      refine wp_caught_bind (wp_mono (wp_startKept (detached.calms.1 kept)
        (by rw [own]; exact known) (by rw [own]; exact isOn)) fun result final started => ?_)
      have reached : Recovers id host final :=
        ⟨started.1, fun other differ => (started.2 other differ).trans
          (detached.calms.2 other)⟩
      cases result with
      | ok value => exact reached
      | error error =>
          refine calmed _ (.bind calms_refreshKernel fun _ => ?_) final reached
          intro host
          rw [exec_get_bind]
          split
          · exact ⟨fun kept => kept, fun _ => rfl⟩
          · exact calms_disableFailedPlugin id host

/-- The failure of the generation that the kernel has is acted upon at most once. -/
theorem wp_recoverFailedPlugin (kept : Kept host) {generation : Nat}
    (newest : (host.view id).generation = some generation) :
    (recoverFailedPlugin behaviour id generation).wp (fun _ => Recovers id host) host := by
  unfold recoverFailedPlugin
  rw [wp_bind, wp_get, andThen_ok]
  cases found : host.slots.lookup? id with
  | none => exact ⟨kept, fun _ _ => rfl⟩
  | some slot =>
      have known : (host.view id).retry = some slot.retry := congrArg (Option.map _) found
      have own := (kept id).observe known newest
      dsimp only
      generalize slot.retry.observeGeneration generation = observed at own
      obtain ⟨observed, retry⟩ := observed
      dsimp only at own ⊢
      split
      · exact ⟨kept, fun _ _ => rfl⟩
      generalize decides : retry.onFailure generation = decision
      obtain ⟨action, next⟩ := decision
      have put := view_putRetry_self found next
      have others (other : PluginId) (differ : other ≠ id) :
          (host.putRetry id next).view other = host.view other := view_putRetry_of_ne differ next
      cases action with
      | none =>
          have same : next = retry := by
            rcases retry.onFailure_cases generation with same | ⟨-, -, -, ⟨-, taken⟩ | ⟨-, taken⟩⟩
            · exact (congrArg Prod.snd (decides.symm.trans same) :)
            all_goals cases decides.symm.trans taken
          refine ⟨fun other => ?_, fun other differ => congrArg PluginView.generation
            (others other differ)⟩
          by_cases isOwn : other = id
          · subst isOwn same
            exact put.symm ▸ own
          · exact (others other isOwn).symm ▸ kept other
      | some action =>
          obtain ⟨acted, isOn⟩ := own.onFailure rfl newest decides
          dsimp only
          rw [wp_bind, wp_modify, andThen_ok]
          have seen : ((host.putRetry id next).record id (action.event generation)).view id =
              { (host.view id).add (action.event generation) with retry := some next } := by
            rw [view_record_self, put]
            rfl
          have apart (other : PluginId) (differ : other ≠ id) :
              ((host.putRetry id next).record id (action.event generation)).view other =
                host.view other :=
            (view_record_of_ne _ differ _).trans (others other differ)
          generalize (host.putRetry id next).record id (action.event generation) = before
            at seen apart
          have keptBefore : Kept before := by
            intro other
            by_cases isOwn : other = id
            · subst isOwn
              exact seen.symm ▸ acted
            · exact (apart other isOwn).symm ▸ kept other
          refine wp_bind_of (wp_actUpon keptBefore
            (by rw [seen]; exact Option.some_ne_none _) (by rw [seen]; exact isOn) generation
            action) ?_ ?_
          all_goals
            rintro _ final ⟨keptFinal, same⟩
            exact ⟨keptFinal, fun other differ => (same other differ).trans
              (congrArg PluginView.generation (apart other differ))⟩

/-- What is kept stays so. -/
def Keeps (before after : ProcessPluginHost σ) : Prop := Kept before → Kept after

instance keepsRefl : Std.Refl (Keeps (σ := σ)) where
  refl _ kept := kept

instance keepsTrans : IsTrans (ProcessPluginHost σ) Keeps where
  trans _ _ _ early late := late ∘ early

theorem Lowers.keeps {before after : ProcessPluginHost σ} (lowers : Lowers before after) :
    Keeps before after := lowers.calms.1

/-- The failures of a snapshot are those of the generations that the kernel has. -/
theorem failures_newest (kept : Kept host) : ∀ entry ∈ failures host,
    (host.view entry.1).generation = some entry.2 := by
  intro entry member
  obtain ⟨snapshot, failed, rfl⟩ := List.mem_map.mp member
  obtain ⟨known, isKnown, rfl⟩ := List.mem_map.mp (List.mem_filter.mp failed).1
  have marked := World.mark_eq_some (SortedMap.lookup?_eq_some_iff.mpr isKnown)
  have named : known.2.spec.id = known.1 := (kept known.1).sound.named _ _ marked
  change (host.view known.2.spec.id).generation = _
  rw [named]
  exact congrArg (Option.map Prod.snd) marked

theorem failures_distinct (kept : Kept host) : ((failures host).map Prod.fst).Nodup := by
  have ids : host.world.kernel.snapshots.map (fun snapshot => snapshot.id) =
      host.world.kernel.plugins.keys := by
    unfold YunxiKernel.snapshots SortedMap.keys
    rw [List.map_map]
    refine List.map_congr_left fun known isKnown => ?_
    have marked := World.mark_eq_some (SortedMap.lookup?_eq_some_iff.mpr isKnown)
    exact (kept known.1).sound.named _ _ marked
  unfold failures
  rw [List.map_map]
  have distinct := SortedMap.nodup_keys host.world.kernel.plugins
  rw [← ids] at distinct
  exact (List.filter_sublist.map _).nodup distinct

theorem wp_recoverAll {failed : List (PluginId × Nat)} (kept : Kept host)
    (distinct : (failed.map Prod.fst).Nodup)
    (newest : ∀ entry ∈ failed, (host.view entry.1).generation = some entry.2) :
    (recoverAll behaviour failed).wp (fun _ final => Kept final) host := by
  induction failed generalizing host with
  | nil => exact kept
  | cons entry rest ih =>
      obtain ⟨id, generation⟩ := entry
      rw [List.map_cons, List.nodup_cons] at distinct
      refine wp_bind_of (wp_recoverFailedPlugin kept (newest _ List.mem_cons_self)) ?_
        fun _ _ recovered => recovered.1
      rintro progressed middle ⟨keptMiddle, same⟩
      refine wp_bind_of (ih keptMiddle distinct.2 fun entry member => ?_)
        (fun _ _ kept => kept) (fun _ _ kept => kept)
      rw [same entry.1 fun own => distinct.1 (List.mem_map.mpr ⟨entry, member, own⟩)]
      exact newest entry (List.mem_cons_of_mem _ member)

theorem keeps_recoverFailedPlugins (passes : Nat) :
    Preserves Keeps (recoverFailedPlugins behaviour passes) := by
  induction passes with
  | zero => exact .pure ()
  | succ passes ih =>
      refine .bind (fun host => (calms_refreshKernel host).1) fun _ host kept => ?_
      change wp _ (fun _ final => Kept final) host
      rw [wp_bind, wp_get, andThen_ok]
      split
      · exact kept
      · refine wp_bind_of
          (wp_recoverAll kept (failures_distinct kept) (failures_newest kept)) ?_ fun _ _ kept => kept
        intro progressed middle keptMiddle
        split
        · exact ih middle keptMiddle
        · exact keptMiddle

theorem lowers_detachAll (ids : List PluginId) (host : ProcessPluginHost σ) :
    Lowers host (ids.foldl ProcessPluginHost.detached host) := by
  induction ids generalizing host with
  | nil => exact lowersRefl.refl host
  | cons id ids ih =>
      exact lowersTrans.trans _ _ _ (lowers_detached host id) (ih _)

theorem keeps_refresh : Preserves Keeps (refresh behaviour) :=
  .bind (fun host => (calms_refreshKernel host).1) fun _ =>
    .bind (keeps_recoverFailedPlugins _) fun _ =>
      .bind (fun host => (calms_refreshKernel host).1) fun _ host =>
        (lowers_detachAll _ host).keeps

/-- An explicit start begins a cycle, and one that fails leaves the plugin off. -/
theorem wp_startExplicitly (sound : (host.view id).Sound) (known : (host.view id).retry ≠ none)
    (isOn : PluginEvent.isOff (host.view id).events = false)
    (others : ∀ other, other ≠ id → (host.view other).Kept) :
    (startExplicitly behaviour id).wp (fun _ final => Kept final) host := by
  unfold startExplicitly
  refine wp_caught_bind (wp_mono (wp_startGeneration host id known)
    fun result final started => ?_)
  have after := sound.withdrawn.start isOn started.own
  have rest (other : PluginId) (differ : other ≠ id) : (final.view other).Kept :=
    (others other differ).lowered (started.others other differ)
  cases result with
  | ok value =>
      intro other
      by_cases own : other = id
      · subst own
        exact ⟨after, sound.withdrawn.marked_start started.own (.inl rfl)⟩
      · exact rest other own
  | error error =>
      intro other
      by_cases own : other = id
      · subst own
        change (((final.updateRetry other RetryController.disable).record other
          .startFailed).view other).Kept
        rw [view_record_self, view_disabled]
        rcases started.own.connected with ⟨impossible, -⟩ | ⟨-, connection, routed⟩
        · cases impossible
        · have quiet : (final.view other).retryDisabled.withdrawn =
              (final.view other).retryDisabled :=
            PluginView.withdrawn_of_quiet connection routed
          rw [← quiet]
          exact after.off (.inl rfl)
      · change (((final.updateRetry id RetryController.disable).record id
          .startFailed).view other).Kept
        rw [view_record_of_ne _ own, view_updateRetry_of_ne own]
        exact rest other own

theorem keeps_manualStart (id : PluginId) : Preserves Keeps (manualStart behaviour id) := by
  intro host kept
  change wp _ (fun _ final => Kept final) host
  unfold manualStart
  refine wp_ensureSlot_bind (fun _ _ => kept) fun known => ?_
  refine wp_bind_of (wp_stopCurrent host id) ?_ fun _ final stopped =>
    stopped.1.keeps kept
  rintro - middle ⟨lowers, own⟩
  have keptMiddle := lowers.keeps kept
  obtain ⟨retry, isRetry⟩ := Option.ne_none_iff_exists'.mp known
  have isRetry : (middle.view id).retry = some retry := by
    rw [own known]
    exact isRetry
  have begun := (keptMiddle id).explicitStart.sound
  have fresh : PluginView.Sound { (middle.view id).add .explicitStart with
      retry := some retry.manualRestart } := begun.freshRetry
    (begun.known (isRetry ▸ Option.some_ne_none _)).1
    (begun.known (isRetry ▸ Option.some_ne_none _)).2
    ((PluginEvent.cycle_append _ _).trans (if_pos rfl)) (PluginEvent.isOff_append_explicitStart _)
    (Nat.zero_le _)
  have seen : ((middle.record id .explicitStart).updateRetry id
      RetryController.manualRestart).view id =
        { (middle.view id).add .explicitStart with retry := some retry.manualRestart } := by
    rw [view_updateRetry_self, view_record_self]
    unfold PluginView.add
    rw [isRetry]
    rfl
  rw [wp_bind, wp_modify, andThen_ok]
  refine wp_startExplicitly (by rw [seen]; exact fresh)
    (by rw [seen]; exact Option.some_ne_none _)
    (by rw [seen]; exact PluginEvent.isOff_append_explicitStart _) fun other differ => ?_
  rw [view_updateRetry_of_ne differ, view_record_of_ne _ differ]
  exact keptMiddle other

theorem keeps_launch (launched : PluginLaunch) : Preserves Keeps (launch behaviour launched) := by
  intro host kept
  change wp _ (fun _ final => Kept final) host
  unfold launch
  refine wp_ask_bind fun bound environment => wp_ofExcept_bind (fun _ _ => kept)
    fun _ _ => ?_
  rw [wp_bind]
  refine wp_callKernel (Kernel.wp_register_cases _) ?_
  have keptBefore : Kept (({ host with environment } : ProcessPluginHost σ).supervised behaviour) :=
    (lowers_supervised _).keeps kept
  generalize ({ host with environment } : ProcessPluginHost σ).supervised behaviour = before
    at keptBefore
  rintro result world (⟨rfl, registered⟩ | ⟨⟨error, rfl⟩, rfl⟩)
  · have seen := view_world before before.environment registered.state
    change Fallible.andThen _ _ (.ok ()) _
    rw [andThen_ok, wp_bind, wp_modify, andThen_ok]
    change wp (startExplicitly behaviour launched.id) _
      (({ before with world } : ProcessPluginHost σ).launched launched)
    have own := view_launched { before with world } launched
    rw [seen, registered.own] at own
    have sound : PluginView.Sound { (before.view launched.id).add .explicitStart with
        mark := some (launched.id, 0), retry := some (PluginSlot.new launched).retry } :=
      (keptBefore launched.id).registered registered.missing registered.running (Nat.zero_le _)
    refine wp_startExplicitly (by rw [own]; exact sound)
      (by rw [own]; exact Option.some_ne_none _)
      (by rw [own]; exact PluginEvent.isOff_append_explicitStart _) fun other differ => ?_
    rw [view_launched_of_ne _ differ, seen, registered.others other differ]
    exact keptBefore other
  · exact keptBefore

theorem keeps_disable (id : PluginId) : Preserves Keeps (disable behaviour id) := by
  intro host kept
  change wp _ (fun _ final => Kept final) host
  unfold disable note disableRetry
  refine wp_ensureSlot_bind (fun _ _ => kept) fun known => ?_
  rw [wp_bind, wp_modify, andThen_ok, wp_bind,
    wp_modify, andThen_ok]
  have own : ((host.record id .disabled).updateRetry id RetryController.disable).view id =
      (host.view id).retryDisabled.add .disabled := by
    rw [view_disabled, view_record_self]
    rfl
  refine wp_mono (wp_stopCurrent _ id) fun _ final stopped other => ?_
  by_cases isOwn : other = id
  · subst isOwn
    rw [stopped.2 ?_, own]
    · exact (kept other).sound.off (.inr rfl)
    · rw [own]
      exact fun missing => known (Option.map_eq_none_iff.mp missing)
  · have lowered := stopped.1 other
    rw [view_updateRetry_of_ne isOwn, view_record_of_ne _ isOwn] at lowered
    exact (kept other).lowered lowered

theorem exec_sendShutdown (ids : List PluginId) (host : ProcessPluginHost σ) :
    ∃ environment, (sendShutdown behaviour ids).exec host = (.ok (), { host with environment }) := by
  induction ids generalizing host with
  | nil => exact ⟨host.environment, rfl⟩
  | cons id ids ih =>
      unfold sendShutdown
      rw [exec_bind]
      exact ih _

theorem lookup?_unregisterAll (ids : List PluginId) (catalog : CapabilityCatalog) (id : PluginId) :
    (ids.foldl (fun catalog id => (catalog.unregister id).2) catalog).plugins.lookup? id =
      if id ∈ ids then none else catalog.plugins.lookup? id := by
  induction ids generalizing catalog with
  | nil => exact (if_neg List.not_mem_nil).symm
  | cons first ids ih =>
      rw [List.foldl_cons, ih, lookup?_unregister]
      by_cases own : id = first <;> by_cases later : id ∈ ids <;> simp [own, later]

/-- A host that has withdrawn all connections and disabled all retry controllers. -/
def shuttingDown (host : ProcessPluginHost σ) (environment : σ) : ProcessPluginHost σ :=
  { host with
    slots := host.slots.map fun _ slot => { slot with retry := slot.retry.disable }
    connections := .empty
    catalog := host.connections.keys.foldl (fun catalog id => (catalog.unregister id).2) host.catalog
    environment }

theorem view_shuttingDown (kept : Kept host) (environment : σ) (id : PluginId) :
    (shuttingDown host environment).view id = (host.view id).retryDisabled.withdrawn := by
  have routed := (kept id).sound.right.routed
  unfold view at routed
  dsimp only at routed
  unfold view shuttingDown PluginView.withdrawn PluginView.retryDisabled eventsOf
  dsimp only
  rw [SortedMap.lookup?_map, lookup?_unregisterAll]
  have unrouted : (if id ∈ host.connections.keys then none
      else host.catalog.plugins.lookup? id).isSome = false := by
    split
    · rfl
    · next unconnected =>
        cases found : host.connections.lookup? id with
        | none =>
            rw [routed, found]
            rfl
        | some connection => exact absurd (SortedMap.mem_keys_iff.mpr ⟨_, found⟩) unconnected
  rw [unrouted]
  cases host.slots.lookup? id <;> rfl

theorem keeps_shutdown : Preserves Keeps (shutdown behaviour) := by
  intro host kept
  change wp _ (fun _ final => Kept final) host
  unfold shutdown
  rw [wp_bind, wp_modify, andThen_ok, wp_bind, wp_get,
    andThen_ok, wp_bind]
  unfold wp
  obtain ⟨environment, sent⟩ : ∃ environment, (sendShutdown behaviour host.connections.keys).exec
      { host with slots := host.slots.map fun _ slot => { slot with retry := slot.retry.disable } } =
        (.ok (), { host with
          slots := host.slots.map fun _ slot => { slot with retry := slot.retry.disable }
          environment }) := exec_sendShutdown _ _
  rw [sent, andThen_ok, wp_bind, wp_modify, andThen_ok]
  refine wp_ask_bind fun endings environment => ?_
  have keptBefore : Kept ((shuttingDown host environment).supervised behaviour) := by
    refine (lowers_supervised _).keeps fun id => ?_
    rw [view_shuttingDown kept]
    exact (kept id).sound.retryDisabled.withdrawn
  rw [wp_bind]
  change wp (callKernel behaviour (YunxiKernel.shutdown endings)) _
    (shuttingDown host environment)
  generalize shuttingDown host environment = before at keptBefore
  have ends (world : World) (same : ∀ id, world.mark id =
      (before.supervised behaviour).world.mark id) : Kept
        { before.supervised behaviour with world, slots := .empty } := by
    intro id
    have forgotten := (keptBefore id).forgotten world.kernel.state
    have seen : ({ before.supervised behaviour with world, slots := .empty } :
        ProcessPluginHost σ).view id = { (before.supervised behaviour).view id with
          kernel := world.kernel.state, retry := none } := by
      unfold view eventsOf
      dsimp only
      rw [same id]
      rfl
    rw [seen]
    exact forgotten
  have shuts : (YunxiKernel.shutdown endings).wp (fun result world => result = .ok () ∧
      ∀ id, world.mark id = (before.supervised behaviour).world.mark id)
        (before.supervised behaviour).world :=
    Kernel.wp_shutdown endings (fun _ => ⟨rfl, fun _ => rfl⟩)
      (fun _ => ⟨rfl, Kernel.mark_shutDown endings⟩)
  refine wp_callKernel shuts ?_
  rintro _ world ⟨rfl, same⟩
  exact ends world same

theorem lowers_invoke {α : Type} (capability : Protocol.CapabilityDescriptor) (operation : String)
    (payload : Except String Protocol.Value) (decode : Protocol.Value → Except String α) :
    Preserves Lowers (invoke behaviour capability operation payload decode) := by
  have fails {β : Type} (id : PluginId) (generation : Option Nat) (message : String)
      (error : PluginCallError) : Preserves Lowers (do
        failConnection behaviour id generation message
        throw error : Fallible (ProcessPluginHost σ) PluginCallError β) :=
    .bind (lowers_failConnection _ _ _) fun _ => .throw _
  refine .bind .get fun host => .bind (.ofExcept _) fun plugin =>
    .bind (fun _ _ => .inl rfl) fun _ => .bind (.ofExcept _) fun request => ?_
  dsimp only
  split
  · exact fails _ _ _ _
  · refine .bind (lowers_ask _) fun sent => ?_
    split
    · exact fails _ _ _ _
    · refine .bind (lowers_ask _) fun received => ?_
      split
      · exact fails _ _ _ _
      · split
        · split
          · split
            · exact .pure _
            · exact fails _ _ _ _
          · exact fails _ _ _ _
        · split
          · exact .throw _
          · exact fails _ _ _ _
        · exact fails _ _ _ _

/-- The operations of a host; `restart` and `enable` do what `manual_restart` does. -/
inductive HostOperation
  | launch (launch : PluginLaunch)
  | invoke (capability : Protocol.CapabilityDescriptor) (operation : String)
      (payload : Except String Protocol.Value)
      (decode : Protocol.Value → Except String Protocol.Value)
  | manualRestart (id : PluginId)
  | disable (id : PluginId)
  | stop (id : PluginId)
  | refresh
  | shutdown

/-- The host after an operation. -/
def perform (behaviour : Environment σ) (host : ProcessPluginHost σ) :
    HostOperation → ProcessPluginHost σ
  | .launch launched => ((launch behaviour launched).exec host).2
  | .invoke capability operation payload decode =>
      ((invoke behaviour capability operation payload decode).exec host).2
  | .manualRestart id => ((manualRestart behaviour id).exec host).2
  | .disable id => ((disable behaviour id).exec host).2
  | .stop id => ((stop behaviour id).exec host).2
  | .refresh => ((refresh behaviour).exec host).2
  | .shutdown => ((shutdown behaviour).exec host).2

theorem keeps_perform (operation : HostOperation) (kept : Kept host) :
    Kept (perform behaviour host operation) := by
  cases operation with
  | launch launched => exact keeps_launch launched host kept
  | invoke capability operation payload decode =>
      exact (lowers_invoke capability operation payload decode host).keeps kept
  | manualRestart id => exact keeps_manualStart id host kept
  | disable id => exact keeps_disable id host kept
  | stop id => exact (keeps_disable id host : Keeps host _) kept
  | refresh => exact keeps_refresh host kept
  | shutdown => exact keeps_shutdown host kept

theorem kept_new (environment : σ) : Kept (.new environment) := by
  intro id
  refine ⟨⟨⟨rfl, ?_, PluginEvent.fair_nil, fun _ => ⟨rfl, rfl⟩⟩, ?_, ?_, fun known => absurd rfl known,
    fun generation member => absurd member List.not_mem_nil, ?_⟩, ?_⟩
  · rintro _ ⟨⟩
  · rintro _ _ ⟨⟩
  · rintro _ ⟨⟩
  · rintro _ ⟨⟩
  · rintro _ ⟨⟩

/-- In every run, whatever the processes, the supervisors and the transports do, the plugins that
are routed to are the connected ones, each with the generation that the kernel has; a plugin is
restarted at most three times in a cycle, each failed generation is acted upon at most once, and
what was disabled, stopped or failed its explicit start is not started before the next one. -/
theorem host_right (behaviour : Environment σ) (environment : σ)
    (operations : List HostOperation) :
    Throughout (perform behaviour) (fun host => ∀ id, (host.view id).Right) (.new environment)
      operations := by
  have keeps (host : ProcessPluginHost σ) (operation : HostOperation) (kept : Kept host) :
      Kept (perform behaviour host operation) := keeps_perform operation kept
  have kept := throughout_of_invariant Kept keeps (kept_new environment) operations
  exact kept.mono fun _ kept id => (kept id).sound.right

end PluginHost
end YunXi
