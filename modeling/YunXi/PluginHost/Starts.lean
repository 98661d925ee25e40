import YunXi.PluginHost.Views

/-!
# Starts of plugins

A start of a plugin that has a slot does to its view what a step of its cycle may do, however far
it comes, and only withdraws connections of others.
-/

namespace YunXi
namespace PluginHost

open Kernel (PluginId World YunxiKernel maxGeneration)
open Fallible
open ProcessPluginHost

variable {σ : Type} {behaviour : Environment σ} {host : ProcessPluginHost σ} {id : PluginId}

/-- A process is started as a newer generation, unless the kernel refuses or fails before. -/
theorem wp_startProcess (host : ProcessPluginHost σ) (id : PluginId) :
    (startProcess behaviour id).wp (fun result final =>
      (∀ other, other ≠ id → final.view other = host.view other) ∧
        ((∃ error, result = .error error) ∧ final.view id = (host.view id).add .started ∨
          ∃ name generation, (host.view id).mark = some (name, generation) ∧
            final.view id = { (host.view id).add .started with
              mark := some (name, min (generation + 1) maxGeneration) })) host := by
  unfold startProcess note
  rw [wp_bind, wp_modify, andThen_ok]
  refine wp_ask_bind fun answer environment => ?_
  refine wp_callKernel (Kernel.wp_start_begun id answer.1 answer.2) fun result world begun => ?_
  have steady := Kernel.steady_superviseAll host.world (behaviour.supervise environment).1
  have state := begun.state.trans steady.state
  have seen := view_world (host.record id .started) (behaviour.supervise environment).2 state
  refine ⟨fun other differ => ?_, ?_⟩
  · refine (seen other).trans ?_
    rw [view_record_of_ne _ differ, (begun.others other differ).trans (steady.marks other)]
    rfl
  · have own := seen id
    rw [view_record_self] at own
    have marked : (host.view id).mark = host.world.mark id := rfl
    rcases begun.own with ⟨⟨error, rfl⟩, same⟩ | ⟨name, generation, wasMarked, isMarked⟩
    · refine .inl ⟨⟨_, rfl⟩, own.trans ?_⟩
      rw [same.trans (steady.marks id)]
      rfl
    · refine .inr ⟨name, generation, ?_, own.trans ?_⟩
      · exact (steady.marks id).symm.trans wasMarked
      · rw [isMarked]

theorem wp_checkStart_bind {α β : Type} {check : Except SessionError α} {next : α → HostProgram σ β}
    {post : Except PluginHostError β → ProcessPluginHost σ → Prop} {generation : Nat}
    (fails : ∀ error final, Lowers host final → post (.error error) final)
    (goesOn : ∀ value, check = .ok value → (next value).wp post host) :
    (checkStart behaviour id generation check >>= next).wp post host := by
  cases check with
  | ok value =>
      rw [wp_bind]
      exact goesOn value rfl
  | error error =>
      rw [wp_bind]
      exact wp_bind_of ((lowers_failConnection _ _ _).wp host)
        (fun _ final lowers => fails _ final lowers) (fun _ final lowers => fails _ final lowers)

/-- A handshake that succeeds is one with the plugin that was started. -/
theorem wp_handshake (host : ProcessPluginHost σ) (id : PluginId) (launch : PluginLaunch)
    (generation : Nat) :
    (handshake behaviour id launch generation).wp (fun result final => Lowers host final ∧
      ∀ info, result = .ok info → info.pluginId = id.text) host := by
  have fails (before : ProcessPluginHost σ) (same : Lowers host before) (error : PluginHostError)
      (final : ProcessPluginHost σ) (lowers : Lowers before final) : Lowers host final ∧
        ∀ info, (.error error : Except PluginHostError PluginConnectionInfo) = .ok info →
          info.pluginId = id.text :=
    ⟨lowersTrans.trans _ _ _ same lowers, fun _ impossible => by cases impossible⟩
  unfold handshake accept
  rw [wp_bind]
  refine wp_ask_bind fun announced environment => ?_
  have same : Lowers host { host with environment } := fun _ => .inl rfl
  rw [wp_pure, andThen_ok]
  refine wp_checkStart_bind (fails _ same) fun announcement accepted => ?_
  have named : announcement.info.pluginId = id.text := by
    cases announced with
    | error error => cases accepted
    | ok announced =>
        change (if _ then _ else _) = _ at accepted
        split at accepted
        · cases accepted
        · next matching =>
            cases accepted
            exact not_not.mp matching
  refine wp_checkStart_bind (fails _ same) fun _ _ => wp_checkStart_bind (fails _ same) fun _ _ =>
    wp_ask_bind fun _ later => wp_checkStart_bind (fails _ fun _ => .inl rfl) fun _ _ => ?_
  refine ⟨fun _ => .inl rfl, fun info returned => ?_⟩
  cases returned
  exact named

/-- What is known of a start that follows the start of the process. -/
theorem wp_connect (host : ProcessPluginHost σ) (id : PluginId) (launch : PluginLaunch)
    (generation : Nat) (withdrawn : (host.view id).withdrawn = host.view id) :
    (connect behaviour id launch generation).wp (fun result final =>
      (∀ other, other ≠ id → PluginView.Lowered (host.view other) (final.view other)) ∧
        ((∃ error, result = .error error) ∧ final.view id = host.view id ∨
          result = .ok () ∧ final.view id = { host.view id with
            connection := some generation, routed := true })) host := by
  have lowered (final : ProcessPluginHost σ) (lowers : Lowers host final) :
      final.view id = host.view id := by
    have own := lowers id
    rw [← withdrawn] at own
    rw [own.eq_of_withdrawn, withdrawn]
  unfold connect
  refine wp_bind_of (wp_handshake host id launch generation) ?_ ?_
  · rintro info middle ⟨lowers, named⟩
    rw [wp_bind]
    have registered := CapabilityCatalog.registerConnection_exec middle.catalog info
    rw [named info rfl, PluginId.new_text] at registered
    rcases registered with ⟨-, error, refused⟩ | ⟨name, same, -, accepted⟩
    · unfold Fallible.attempt
      rw [wp_ofFunction, refused, andThen_ok]
      refine wp_bind_of ((lowers_failConnection _ _ _).wp middle)
        (fun _ final fails => ?_) (fun _ final fails => ?_)
      all_goals
        have ends := lowersTrans.trans _ _ _ lowers fails
        exact ⟨fun other _ => ends other, .inl ⟨⟨_, rfl⟩, lowered final ends⟩⟩
    · cases same
      unfold Fallible.attempt
      rw [wp_ofFunction, accepted, andThen_ok]
      refine ⟨fun other differ => ?_, .inr ⟨rfl, ?_⟩⟩
      · exact (lowers other).trans (.inl (middle.view_connected_of_ne _ generation differ))
      · rw [← lowered middle lowers]
        exact middle.view_connected_self ⟨id, _, _, _⟩ generation
  · rintro error final ⟨lowers, -⟩
    exact ⟨fun other _ => lowers other, .inl ⟨⟨error, rfl⟩, lowered final lowers⟩⟩

/-- A retry controller observes the generation that was begun. -/
theorem wp_observeGeneration {view : PluginView} (host : ProcessPluginHost σ) (id : PluginId)
    (generation : Nat) (begun : view.Begun (host.view id))
    (same : (host.view id).retry = view.retry) :
    (observeGeneration id generation).wp (fun result final => (∃ launch, result = .ok launch) ∧
      (∀ other, other ≠ id → final.view other = host.view other) ∧
        view.Begun (final.view id) ∧
          (final.view id).generation = (host.view id).generation) host := by
  unfold observeGeneration
  rw [wp_bind, wp_get, andThen_ok]
  cases found : host.slots.lookup? id with
  | none => exact ⟨⟨none, rfl⟩, fun _ _ => rfl, begun, rfl⟩
  | some slot =>
      have own := view_putRetry_self found (slot.retry.observeGeneration generation).2
      have known : (host.view id).retry = some slot.retry := congrArg (Option.map _) found
      refine ⟨⟨_, rfl⟩, fun other differ => view_putRetry_of_ne differ _,
        own ▸ ⟨begun.id, begun.kernel, begun.events, begun.marked,
          .inr ⟨slot.retry, generation, same.symm.trans known, rfl⟩, ?_⟩, own ▸ rfl⟩
      rw [← begun.withdrawn]
      rfl

theorem generation_of_plugin {host : ProcessPluginHost σ} {id : PluginId}
    {snapshot : Kernel.PluginSnapshot} (found : host.world.kernel.plugin id = some snapshot) :
    (host.view id).generation = some snapshot.generation := by
  obtain ⟨slot, known, rfl⟩ := Option.map_eq_some_iff.mp found
  unfold view PluginView.generation World.mark
  dsimp only
  rw [known]
  rfl

/-- What a start does to a plugin that has a slot, and to the others. -/
structure Started (id : PluginId) (before : ProcessPluginHost σ)
    (result : Except PluginHostError Unit) (after : ProcessPluginHost σ) : Prop where
  own : (before.view id).withdrawn.StartStep result.isOk (after.view id)
  others : ∀ other, other ≠ id → PluginView.Lowered (before.view other) (after.view other)

theorem wp_startGeneration (host : ProcessPluginHost σ) (id : PluginId)
    (known : (host.view id).retry ≠ none) :
    (startGeneration behaviour id).wp (Started id host) host := by
  unfold startGeneration
  refine wp_ensureSlot_bind (fun missing => absurd missing known) fun _ => ?_
  rw [wp_bind, detachConnection, wp_modify, andThen_ok,
    wp_bind, refreshKernel, wp_modify, andThen_ok]
  have refreshed := lowers_refreshed behaviour (host.detached id)
  generalize (host.detached id).refreshed behaviour = ready at refreshed
  have others (other : PluginId) : PluginView.Lowered (host.view other) (ready.view other) :=
    (lowers_detached host id other).trans (refreshed other)
  have own : ready.view id = (host.view id).withdrawn := by
    have lowered := refreshed id
    rw [view_detached_self] at lowered
    exact lowered.eq_of_withdrawn
  refine wp_bind_of (wp_startProcess ready id) ?_ ?_
  · rintro ⟨⟩ middle ⟨same, ⟨⟨error, impossible⟩, -⟩ | ⟨name, generation, marked, seen⟩⟩
    · cases impossible
    rw [own] at marked seen
    have begun : (host.view id).withdrawn.Begun (middle.view id) := by
      rw [seen]
      exact ⟨rfl, rfl, rfl, ⟨name, generation, marked, rfl⟩, .inl rfl, rfl⟩
    have kept : (middle.view id).retry = (host.view id).withdrawn.retry := by
      rw [seen]
      rfl
    rw [wp_bind, knownPlugin, wp_bind, wp_get, andThen_ok]
    cases found : middle.world.kernel.plugin id with
    | none => exact ⟨begun.failed, fun other differ => same other differ ▸ others other⟩
    | some snapshot =>
        dsimp only
        rw [wp_pure, andThen_ok]
        refine wp_bind_of
          (wp_observeGeneration middle id snapshot.generation begun kept) ?_ ?_
        · rintro launch final ⟨-, unchanged, begun, sameGeneration⟩
          have newest := sameGeneration.trans (generation_of_plugin found)
          have ends (last : ProcessPluginHost σ) (other : PluginId) (differ : other ≠ id)
              (late : PluginView.Lowered (final.view other) (last.view other)) :
              PluginView.Lowered (host.view other) (last.view other) := by
            rw [unchanged other differ, same other differ] at late
            exact (others other).trans late
          cases launch with
          | none =>
              refine wp_bind_of ((lowers_failConnection _ _ _).wp final)
                (fun _ last fails => ?_) (fun _ last fails => ?_)
              all_goals
                have lowered := fails id
                rw [← begun.withdrawn] at lowered
                have own := lowered.eq_of_withdrawn.trans begun.withdrawn
                exact ⟨own.symm ▸ begun.failed, fun other differ => ends last other differ
                  (fails other)⟩
          | some launch =>
              refine wp_mono (wp_connect final id launch snapshot.generation
                begun.withdrawn) ?_
              rintro result last ⟨later, ⟨⟨error, rfl⟩, own⟩ | ⟨rfl, own⟩⟩
              · exact ⟨own ▸ begun.failed, fun other differ => ends last other differ
                  (later other differ)⟩
              · exact ⟨own ▸ begun.connected newest, fun other differ => ends last other differ
                  (later other differ)⟩
        · rintro error final ⟨⟨launch, impossible⟩, -⟩
          cases impossible
  · rintro error final ⟨same, failed⟩
    refine ⟨?_, fun other differ => same other differ ▸ others other⟩
    rw [own] at failed
    rcases failed with ⟨-, seen⟩ | ⟨name, generation, marked, seen⟩
    · rw [seen]
      exact ⟨rfl, rfl, rfl, .inl ⟨rfl, rfl, rfl⟩, .inr ⟨rfl, rfl, rfl⟩⟩
    · rw [seen]
      exact ⟨rfl, rfl, rfl, .inr ⟨⟨name, generation, marked, rfl⟩, .inl rfl⟩, .inr ⟨rfl, rfl, rfl⟩⟩

end PluginHost
end YunXi
