import YunXi.PluginHost.Host

/-!
# What a host holds of a plugin

The view of a plugin gathers what the host and the kernel hold of it.  Most of what the host does
changes no view, or only withdraws connections.
-/

namespace YunXi
namespace PluginHost

open Kernel (PluginId PluginFailure PluginSpec KernelError KernelProgram World YunxiKernel Steady
  maxGeneration)
open Fallible

variable {σ : Type} {behaviour : Environment σ} {host : ProcessPluginHost σ} {id : PluginId}

namespace ProcessPluginHost

/-- What was done with a plugin so far. -/
def eventsOf (host : ProcessPluginHost σ) (id : PluginId) : List PluginEvent :=
  (host.history.filter fun entry => entry.1 = id).map Prod.snd

/-- What the host and the kernel hold of a plugin. -/
def view (host : ProcessPluginHost σ) (id : PluginId) : PluginView where
  id := id
  kernel := host.world.kernel.state
  mark := host.world.mark id
  retry := (host.slots.lookup? id).map PluginSlot.retry
  connection := (host.connections.lookup? id).map ActiveConnection.generation
  routed := (host.catalog.plugins.lookup? id).isSome
  events := host.eventsOf id

theorem view_of_steady {before after : ProcessPluginHost σ}
    (steady : Steady before.world after.world) (slots : after.slots = before.slots)
    (connections : after.connections = before.connections)
    (catalog : after.catalog = before.catalog) (history : after.history = before.history)
    (id : PluginId) : after.view id = before.view id := by
  unfold view eventsOf
  rw [steady.state, steady.marks id, slots, connections, catalog, history]

/-- Beside the state of the kernel only the marks of the plugins are seen. -/
theorem view_world (host : ProcessPluginHost σ) {world : World} (environment : σ)
    (state : world.kernel.state = host.world.kernel.state) (id : PluginId) :
    ({ host with world, environment } : ProcessPluginHost σ).view id =
      { host.view id with mark := world.mark id } := by
  unfold view eventsOf
  dsimp only
  rw [state]

theorem lookup?_unregister (catalog : CapabilityCatalog) (id other : PluginId) :
    (catalog.unregister id).2.plugins.lookup? other =
      if other = id then none else catalog.plugins.lookup? other := by
  unfold CapabilityCatalog.unregister
  cases found : catalog.plugins.lookup? id with
  | none =>
      dsimp only
      split
      · next same => exact same ▸ found
      · rfl
  | some record =>
      dsimp only
      split
      · next same => exact same ▸ SortedMap.lookup?_erase_self _ _
      · next differ => exact SortedMap.lookup?_erase_of_ne _ differ

theorem view_detached_self (host : ProcessPluginHost σ) (id : PluginId) :
    (host.detached id).view id = (host.view id).withdrawn := by
  unfold view detached PluginView.withdrawn
  dsimp only
  rw [SortedMap.lookup?_erase_self, lookup?_unregister, if_pos rfl]
  rfl

variable {other : PluginId}

theorem view_detached_of_ne (host : ProcessPluginHost σ) {id : PluginId}
    (differ : other ≠ id) : (host.detached id).view other = host.view other := by
  unfold view detached
  dsimp only
  rw [SortedMap.lookup?_erase_of_ne _ differ, lookup?_unregister, if_neg differ]
  rfl

/-- `register_connection` and the connection of a generation. -/
def connected (host : ProcessPluginHost σ) (record : PluginRecord) (generation : Nat) :
    ProcessPluginHost σ :=
  { host with
    catalog := host.catalog.registered record
    connections := host.connections.insert record.id ⟨generation⟩ }

theorem view_connected_self (host : ProcessPluginHost σ) (record : PluginRecord)
    (generation : Nat) : (host.connected record generation).view record.id =
      { host.view record.id with connection := some generation, routed := true } := by
  unfold view connected CapabilityCatalog.registered
  dsimp only
  rw [SortedMap.lookup?_insert_self, SortedMap.lookup?_insert_self]
  rfl

theorem view_connected_of_ne (host : ProcessPluginHost σ) (record : PluginRecord)
    (generation : Nat) (differ : other ≠ record.id) :
    (host.connected record generation).view other = host.view other := by
  unfold view connected CapabilityCatalog.registered
  dsimp only
  rw [SortedMap.lookup?_insert_of_ne _ differ, SortedMap.lookup?_insert_of_ne _ differ]
  rfl

theorem view_record_self (host : ProcessPluginHost σ) (id : PluginId) (event : PluginEvent) :
    (host.record id event).view id = (host.view id).add event := by
  unfold view record eventsOf PluginView.add
  dsimp only
  have own : (host.history ++ [(id, event)]).filter (fun entry => entry.1 = id) =
      host.history.filter (fun entry => entry.1 = id) ++ [(id, event)] := by
    rw [List.filter_append, List.filter_cons, if_pos (decide_eq_true rfl)]
    rfl
  rw [own, List.map_append]
  rfl

theorem view_record_of_ne (host : ProcessPluginHost σ) {id : PluginId}
    (differ : other ≠ id) (event : PluginEvent) :
    (host.record id event).view other = host.view other := by
  unfold view record eventsOf
  dsimp only
  rw [List.filter_append,
    List.filter_cons_of_neg fun same => differ (of_decide_eq_true same).symm, List.filter_nil,
    List.append_nil]

theorem view_launched (host : ProcessPluginHost σ) (launch : PluginLaunch) :
    (host.launched launch).view launch.id = { (host.view launch.id).add .explicitStart with
      retry := some (PluginSlot.new launch).retry } := by
  rw [← view_record_self]
  unfold view launched eventsOf
  dsimp only
  rw [SortedMap.lookup?_insert_self]
  rfl

theorem view_launched_of_ne (host : ProcessPluginHost σ) {launch : PluginLaunch}
    (differ : other ≠ launch.id) :
    (host.launched launch).view other = host.view other := by
  rw [← view_record_of_ne host differ .explicitStart]
  unfold view launched eventsOf
  dsimp only
  rw [SortedMap.lookup?_insert_of_ne _ differ]
  rfl

/-- A slot with another retry controller. -/
theorem view_putRetry_self {slot : PluginSlot} (known : host.slots.lookup? id = some slot)
    (retry : RetryController) :
    (host.putRetry id retry).view id = { host.view id with retry := some retry } := by
  unfold view putRetry
  rw [known]
  dsimp only
  rw [SortedMap.lookup?_insert_self]
  rfl

theorem view_putRetry_of_ne (differ : other ≠ id) (retry : RetryController) :
    (host.putRetry id retry).view other = host.view other := by
  unfold view putRetry
  cases host.slots.lookup? id with
  | none => rfl
  | some slot =>
      dsimp only
      rw [SortedMap.lookup?_insert_of_ne _ differ]
      rfl

theorem view_updateRetry_self (host : ProcessPluginHost σ) (id : PluginId)
    (update : RetryController → RetryController) :
    (host.updateRetry id update).view id =
      { host.view id with retry := (host.view id).retry.map update } := by
  unfold updateRetry
  cases known : host.slots.lookup? id with
  | none =>
      unfold view
      dsimp only
      rw [known]
      rfl
  | some slot =>
      dsimp only
      rw [view_putRetry_self known]
      unfold view
      dsimp only
      rw [known]
      rfl

theorem view_updateRetry_of_ne (differ : other ≠ id)
    (update : RetryController → RetryController) :
    (host.updateRetry id update).view other = host.view other := by
  unfold updateRetry
  cases host.slots.lookup? id with
  | none => rfl
  | some slot => exact view_putRetry_of_ne differ _

end ProcessPluginHost

open ProcessPluginHost

/-- Of each plugin nothing has changed, or its connection was withdrawn. -/
def Lowers (before after : ProcessPluginHost σ) : Prop :=
  ∀ id, PluginView.Lowered (before.view id) (after.view id)

instance lowersRefl : Std.Refl (Lowers (σ := σ)) where
  refl _ _ := .inl rfl

instance lowersTrans : IsTrans (ProcessPluginHost σ) Lowers where
  trans _ _ _ early late id := (early id).trans (late id)

theorem lowers_of_steady (host : ProcessPluginHost σ) {world : World} (environment : σ)
    (steady : Steady host.world world) : Lowers host { host with world, environment } := by
  intro id
  left
  refine view_of_steady steady ?_ ?_ ?_ ?_ id <;> rfl

theorem lowers_supervised (host : ProcessPluginHost σ) :
    Lowers host (host.supervised behaviour) :=
  lowers_of_steady host _ (Kernel.steady_superviseAll _ _)

theorem lowers_refreshed (behaviour : Environment σ) (host : ProcessPluginHost σ) :
    Lowers host (host.refreshed behaviour) :=
  lowers_of_steady host _ (Kernel.steadyTrans.trans _ _ _ (Kernel.steady_superviseAll _ _)
    (Kernel.steady_refresh _))

theorem lowers_detached (host : ProcessPluginHost σ) (id : PluginId) :
    Lowers host (host.detached id) := by
  intro other
  by_cases own : other = id
  · subst own
    exact .inr (host.view_detached_self other)
  · exact .inl (host.view_detached_of_ne own)

section Lowering

variable {ε α : Type}

theorem lowers_ask (question : σ → α × σ) :
    Preserves Lowers (ask question : Fallible (ProcessPluginHost σ) ε α) :=
  fun _ _ => .inl rfl

theorem lowers_refreshKernel :
    Preserves Lowers (refreshKernel behaviour : Fallible (ProcessPluginHost σ) ε Unit) :=
  fun host => lowers_refreshed behaviour host

theorem lowers_detachConnection (id : PluginId) :
    Preserves Lowers (detachConnection id : Fallible (ProcessPluginHost σ) ε Unit) :=
  fun host => lowers_detached host id

variable {program : HostProgram σ α}

theorem preserves_caught {related : ProcessPluginHost σ → ProcessPluginHost σ → Prop}
    (preserves : Preserves related program) :
    Preserves related (caught program : Fallible (ProcessPluginHost σ) ε _) :=
  preserves

theorem lowers_callKernel {program : KernelProgram α} (steady : Preserves Steady program) :
    Preserves Lowers (callKernel behaviour program) := by
  refine .bind (fun host => lowers_supervised host) fun _ => ?_
  exact fun host => lowers_of_steady host _ (steady host.world)

theorem lowers_knownPlugin (id : PluginId) :
    Preserves Lowers (knownPlugin id : HostProgram σ _) := by
  refine .bind .get fun host => ?_
  split
  · exact .pure _
  · exact .throw _

theorem lowers_waitStopped (id : PluginId) (polls : Nat) :
    Preserves Lowers (waitStopped behaviour id polls) := by
  induction polls with
  | zero =>
      refine .bind lowers_refreshKernel fun _ => .bind (lowers_knownPlugin id) fun _ => ?_
      split
      · exact .bind (preserves_caught (lowers_callKernel (Kernel.preserves_fail _ _))) fun _ =>
          lowers_refreshKernel
      · exact .pure ()
  | succ polls ih =>
      refine .bind lowers_refreshKernel fun _ => .bind (lowers_knownPlugin id) fun _ => ?_
      split
      · exact ih
      · exact .pure ()

theorem lowers_failGeneration (id : PluginId) (generation : Option Nat) (message : String) :
    Preserves Lowers (failGeneration behaviour id generation message :
      Fallible (ProcessPluginHost σ) ε Unit) := by
  refine .bind lowers_refreshKernel fun _ => .bind .get fun host => ?_
  split
  · exact .pure ()
  · split
    · exact .pure ()
    · split
      · exact .bind (preserves_caught (lowers_callKernel (Kernel.preserves_fail _ _)))
          fun _ => lowers_refreshKernel
      · exact lowers_refreshKernel

theorem lowers_failConnection (id : PluginId) (generation : Option Nat) (message : String) :
    Preserves Lowers (failConnection behaviour id generation message :
      Fallible (ProcessPluginHost σ) ε Unit) := by
  refine .bind .get fun host => ?_
  split
  · exact .bind (lowers_detachConnection id) fun _ => lowers_failGeneration _ _ _
  · exact lowers_failGeneration _ _ _

theorem lowers_stopProcess (id : PluginId) : Preserves Lowers (stopProcess behaviour id) := by
  refine .bind lowers_refreshKernel fun _ => .bind (lowers_knownPlugin id) fun _ => ?_
  split
  · exact .bind (lowers_ask _) fun _ => .bind (lowers_callKernel (Kernel.preserves_stop _ _ _))
      fun _ => .bind (lowers_ask _) fun _ => lowers_waitStopped _ _
  · exact .bind (lowers_ask _) fun _ => lowers_waitStopped _ _

theorem wp_caught_bind {β : Type}
    {next : Except PluginHostError α → Fallible (ProcessPluginHost σ) ε β}
    {post : Except ε β → ProcessPluginHost σ → Prop} {host : ProcessPluginHost σ}
    (runs : program.wp (fun result middle => (next result).wp post middle) host) :
    (caught program >>= next).wp post host := by
  rw [wp_bind]
  exact runs

variable {post : Except PluginHostError α → ProcessPluginHost σ → Prop}

theorem wp_callKernel {program : KernelProgram α} {host : ProcessPluginHost σ}
    {kernelPost : Except KernelError α → World → Prop}
    (runs : program.wp kernelPost (host.supervised behaviour).world)
    (ends : ∀ result world, kernelPost result world →
      post (result.mapError .kernel) { host.supervised behaviour with world }) :
    (callKernel behaviour program).wp post host :=
  ends _ _ runs

theorem wp_ask_bind {β : Type} {question : σ → α × σ} {next : α → Fallible (ProcessPluginHost σ) ε β}
    {post : Except ε β → ProcessPluginHost σ → Prop} {host : ProcessPluginHost σ}
    (goesOn : ∀ answer environment, (next answer).wp post { host with environment }) :
    (ask question >>= next).wp post host := by
  rw [wp_bind]
  exact goesOn _ _

theorem wp_ensureSlot_bind {host : ProcessPluginHost σ}
    {id : PluginId}
    (missing : (host.view id).retry = none → ∀ error, post (.error error) host)
    (known : (host.view id).retry ≠ none → program.wp post host) :
    (do ensureSlot id; program).wp post host := by
  unfold ensureSlot
  rw [wp_bind, wp_bind, wp_get, andThen_ok,
    wp_throwIf, SortedMap.mem_keys_iff]
  unfold view at missing known
  cases found : host.slots.lookup? id with
  | none =>
      rw [found] at missing
      exact ⟨fun _ => missing rfl _, fun isKey => by simp at isKey⟩
  | some slot =>
      rw [found] at known
      exact ⟨fun noKey => absurd ⟨slot, rfl⟩ noKey, fun _ => known (Option.some_ne_none _)⟩

/-- A stop is refused when the plugin has no slot, and withdraws its connection otherwise. -/
theorem wp_stopCurrent (host : ProcessPluginHost σ) (id : PluginId) :
    (stopCurrent behaviour id).wp (fun _ final => Lowers host final ∧
      ((host.view id).retry ≠ none → final.view id = (host.view id).withdrawn)) host := by
  have withdraws (before : ProcessPluginHost σ) (lowers : Lowers host before) :
      (do detachConnection id; stopProcess behaviour id : HostProgram σ Unit).wp
        (fun _ final => Lowers host final ∧
          ((host.view id).retry ≠ none → final.view id = (host.view id).withdrawn)) before := by
    have detached := lowersTrans.trans _ _ _ lowers (lowers_detached before id)
    rw [wp_bind, detachConnection, wp_modify, andThen_ok]
    refine wp_mono ((lowers_stopProcess id).wp _) fun _ final stopped =>
      ⟨lowersTrans.trans _ _ _ detached stopped, fun _ => ?_⟩
    have own := stopped id
    rw [view_detached_self] at own
    rw [own.eq_of_withdrawn, (lowers id).withdrawn_eq]
  unfold stopCurrent
  refine wp_ensureSlot_bind (fun missing _ => ⟨lowersRefl.refl host, (absurd missing ·)⟩)
    fun known => ?_
  · rw [wp_bind, wp_get, andThen_ok]
    split
    · exact wp_ask_bind fun _ _ => withdraws _ fun _ => .inl rfl
    · exact withdraws host (lowersRefl.refl host)

end Lowering

end PluginHost
end YunXi
