import YunXi.WebHost.Frames

/-!
# What a settings request does

A request is refused before the write, refused by the store, changes nothing, or replaces the
document.  After that the session is launched again, or the change is taken back.
-/

namespace YunXi
namespace Web

open Fallible
open Protocol (Value)
open Settings
open WebContract
open WebGateway

variable {ω σ : Type} (backend : Backend ω σ)

/-- A stop that answers with another failure than that of a change that was not applied. -/
def Refuses : Stop → Prop
  | .failure code _ _ => code ≠ "settings-apply-failed"
  | .error _ => False

/-- A check whose failures are refusals. -/
def RefusesOnly {α : Type} (result : Except Stop α) : Prop :=
  ∀ stop, result = .error stop → Refuses stop

theorem refusesOnly_ok {α : Type} (value : α) : RefusesOnly (.ok value) :=
  fun _ failed => nomatch failed

theorem refusesOnly_error {α : Type} {stop : Stop} (refuses : Refuses stop) :
    RefusesOnly (.error stop : Except Stop α) := by
  intro other same
  cases same
  exact refuses

theorem refuses_invalidPayload (message : String) (details : Value) :
    Refuses (.failure "invalid-payload" message details) :=
  show ("invalid-payload" : String) ≠ "settings-apply-failed" by decide

theorem refuses_settingsRejected (message : String) (details : Value) :
    Refuses (.failure "settings-rejected" message details) :=
  show ("settings-rejected" : String) ≠ "settings-apply-failed" by decide

theorem refusesOnly_settingsRejected {α : Type} (error : CapabilitySettingsError) :
    RefusesOnly (settingsRejected error : Except Stop α) := by
  unfold settingsRejected
  cases error with
  | conflict =>
      exact refusesOnly_error
        (show ("settings-conflict" : String) ≠ "settings-apply-failed" by decide)
  | _ => exact refusesOnly_error (refuses_settingsRejected _ _)

theorem refusesOnly_bind {α β : Type} {first : Except Stop α} {next : α → Except Stop β}
    (firstRefuses : RefusesOnly first) (nextRefuses : ∀ value, RefusesOnly (next value)) :
    RefusesOnly (first >>= next) := by
  cases first with
  | error stop => exact refusesOnly_error (firstRefuses stop rfl)
  | ok value => exact nextRefuses value

theorem refusesOnly_refuseIf {condition : Prop} [Decidable condition] {stop : Stop}
    (refuses : Refuses stop) : RefusesOnly (refuseIf condition stop) := by
  unfold refuseIf
  split
  · exact refusesOnly_error refuses
  · exact refusesOnly_ok ()

theorem refusesOnly_validateSettingsNamespace (payload : Value) :
    RefusesOnly (validateSettingsNamespace payload) :=
  refusesOnly_bind (refusesOnly_refuseIf (refuses_invalidPayload _ _)) fun _ =>
    refusesOnly_refuseIf (refuses_settingsRejected _ _)

/-- Reading a section refuses, or gives an operation. -/
theorem refusesOnly_readSection (payload : Value) (method field : String)
    (writeCapabilities : CapabilityOverrides → StoreOperation)
    (writePlugins : SortedMap String Bool → StoreOperation) :
    RefusesOnly (readSection payload method field writeCapabilities writePlugins) := by
  have rejected : ∀ error : CapabilitySettingsError,
      RefusesOnly (settingsRejected error : Except Stop StoreOperation) :=
    refusesOnly_settingsRejected
  unfold readSection
  cases payload.get field with
  | none => exact refusesOnly_error (refuses_invalidPayload _ _)
  | some given =>
      simp only
      cases given.get "plugins" with
      | none =>
          simp only
          cases parseSection given with
          | ok overrides => exact refusesOnly_ok _
          | error error => exact rejected error
      | some plugins =>
          simp only
          split
          · exact refusesOnly_error (refuses_invalidPayload _ _)
          · cases parsePlugins plugins with
            | ok plugins => exact refusesOnly_ok _
            | error error => exact rejected error

theorem refusesOnly_settingsWrite (method : String) (payload : Value) :
    RefusesOnly (settingsWrite method payload) := by
  unfold settingsWrite
  split
  · exact refusesOnly_readSection payload "settings.update" "patch" .update .updatePlugins
  · split
    · exact refusesOnly_readSection payload "settings.replace" "section" .replace .replacePlugins
    · split
      · exact refusesOnly_ok _
      · exact refusesOnly_error (refuses_invalidPayload _ _)

/-- A settings write after its checks. -/
def applyWrite (operation : StoreOperation) (revision : Option UInt64) : Handler ω σ Value := do
  let previous ← captureSettingsSnapshot backend
  let result ← useSettings backend fun writer =>
    CapabilitySettingsStore.perform writer operation revision
  finishSettingsWrite backend previous result

/-- The outcomes of the checks, whatever the disk holds. -/
inductive ChecksEffect (host : WebHost ω σ) (method : String) (payload : Value) : Prop
  | refused (stop : Stop) (refuses : Refuses stop)
      (runs : ∀ disk, (dispatchSettingsWrite backend method payload).exec { host with disk } =
        (.error stop, { host with disk }))
  | allowed (operation : StoreOperation) (revision : Option UInt64)
      (asked : settingsWrite method payload = .ok operation)
      (free : host.rebuildInProgress = false)
      (runs : ∀ disk, (dispatchSettingsWrite backend method payload).exec { host with disk } =
        (applyWrite backend operation revision).exec { host with disk })

/-- Whether a write is allowed depends on the host alone. -/
theorem exec_dispatchSettingsWrite (host : WebHost ω σ) (method : String) (payload : Value)
    (disk : SettingsDisk) :
    (dispatchSettingsWrite backend method payload).exec { host with disk } = Fallible.exec (do
      .ofExcept (validateSettingsNamespace payload)
      .throwIf (host.rebuildInProgress ∨ host.pendingApproval.isSome ∨
          host.session.pending.isSome)
        (.failure "agent-busy" "resolve the pending approval before changing plugin settings"
          (.object [("ns", .string capabilitySettingsNamespace),
            ("sessionId", optionalText host.webSessionId)]))
      let operation ← .ofExcept (settingsWrite method payload)
      match expectedRevision payload with
      | .error () =>
          .ofExcept (invalidPayload "expectedRevision must be a non-negative integer"
            "expectedRevision")
      | .ok revision => applyWrite backend operation revision) { host with disk } := by
  unfold dispatchSettingsWrite validateSettingsChangeAllowed
  rw [exec_bind, exec_bind, exec_ofExcept]
  cases validateSettingsNamespace payload with
  | error stop => rfl
  | ok _ =>
      simp only [bind_assoc]
      rw [exec_get_bind]
      rfl

theorem dispatchSettingsWrite_checks (host : WebHost ω σ) (method : String) (payload : Value) :
    ChecksEffect backend host method payload := by
  have exec_dispatch := exec_dispatchSettingsWrite backend host method payload
  cases validated : validateSettingsNamespace payload with
  | error stop =>
      refine .refused stop (refusesOnly_validateSettingsNamespace payload stop validated) ?_
      intro disk
      rw [exec_dispatch, validated]
      rfl
  | ok _ =>
  by_cases busy : host.rebuildInProgress ∨ host.pendingApproval.isSome ∨
      host.session.pending.isSome
  · refine .refused (.failure "agent-busy"
        "resolve the pending approval before changing plugin settings"
        (.object [("ns", .string capabilitySettingsNamespace),
          ("sessionId", optionalText host.webSessionId)]))
      (show ("agent-busy" : String) ≠ "settings-apply-failed" by decide) ?_
    intro disk
    rw [exec_dispatch, validated]
    unfold throwIf
    rw [if_pos busy]
    rfl
  have free : host.rebuildInProgress = false := by
    simp only [not_or, Bool.not_eq_true] at busy
    exact busy.1
  cases read : settingsWrite method payload with
  | error stop =>
      refine .refused stop (refusesOnly_settingsWrite method payload stop read) fun disk => ?_
      rw [exec_dispatch, validated, read]
      unfold throwIf
      rw [if_neg busy]
      rfl
  | ok operation =>
  cases given : expectedRevision payload with
  | error missing =>
      refine .refused _ (refuses_invalidPayload "expectedRevision must be a non-negative integer"
        (.object [("field", .string "expectedRevision")])) fun disk => ?_
      rw [exec_dispatch, validated, read, given]
      unfold throwIf
      rw [if_neg busy]
      rfl
  | ok revision =>
      refine .allowed operation revision read free fun disk => ?_
      rw [exec_dispatch, validated, read, given]
      unfold throwIf
      rw [if_neg busy]
      rfl

/-- The failure of a change that was not applied. -/
def notApplied (failure : SettingsApplyFailure) : Stop :=
  .failure "settings-apply-failed" "the setting was not applied to the live WebHost"
    failure.details

/-- The host once the document of a store is on disk. -/
def committed (host : WebHost ω σ) (store : CapabilitySettingsStore) : WebHost ω σ :=
  { host with
    session := { host.session with capabilitySettings := store }
    disk := ⟨some store.document.content.toUTF8, none⟩ }

/-- The outcomes of a settings request that asks for an operation. -/
inductive WriteOutcome (asked : Except Stop StoreOperation) (host : WebHost ω σ) :
    Except Stop Value → WebHost ω σ → Prop
  | refused (stop : Stop) (refuses : Refuses stop) : WriteOutcome asked host (.error stop) host
  | faulted (stop : Stop) (refuses : Refuses stop) (source : String) (left : SettingsDisk)
      (faulty : backend.writeFault host.world host.disk = some (source, left)) :
      WriteOutcome asked host (.error stop) { host with disk := left }
  | unchanged (operation : StoreOperation) (isAsked : asked = .ok operation)
      (same : operation.Makes host.session.capabilitySettings.overrides
        host.session.capabilitySettings.pluginOverrides
        host.session.capabilitySettings.overrides
        host.session.capabilitySettings.pluginOverrides) : WriteOutcome asked host
      (.ok (capabilityNamespaceView host.session.capabilitySettings)) host
  | takenBack (cause : String) (world : ω) :
      WriteOutcome asked host (.error (notApplied ⟨cause, none⟩))
        { host with world, disk := ⟨host.disk.main, none⟩ }
  | stuck (cause error : String) (world : ω) (left : SettingsDisk) :
      WriteOutcome asked host (.error (notApplied ⟨cause, some error⟩))
        { host with world, disk := left }
  | applied (operation : StoreOperation) (isAsked : asked = .ok operation)
      (next : CapabilityOverrides) (nextPlugins : PluginOverrides)
      (made : operation.Makes host.session.capabilitySettings.overrides
        host.session.capabilitySettings.pluginOverrides next nextPlugins)
      (replacement : ChatSession σ) (world : ω) (events : EventBuffer)
      (store : CapabilitySettingsStore)
      (writes : store = host.session.capabilitySettings.written next nextPlugins)
      (fits : store.document.content.utf8ByteSize ≤ maxSettingsFileBytes)
      (runsWith : replacement.capabilitySettings =
        { CapabilitySettingsStore.load backend.parseDocument backend.settingsPath
            (committed host store).disk with warnings := [] }) :
      WriteOutcome asked host (.ok (capabilityNamespaceView replacement.capabilitySettings))
        { refreshed backend { committed host store with session := replacement, world } with
          events }
  | unannounced (replacement : ChatSession σ) (world : ω) (events : EventBuffer)
      (store : CapabilitySettingsStore) (error : WebHostError) :
      WriteOutcome asked host (.error (.error error))
        { refreshed backend { committed host store with session := replacement, world } with
          events }

variable {backend} {host : WebHost ω σ} {asked : Except Stop StoreOperation}
  {operation : StoreOperation}

/-- A write of the store between the snapshot and what follows from its result. -/
theorem exec_captured (run : CapabilitySettingsStore.Writer → StoreProgram Bool) :
    Fallible.exec (do
        let previous ← captureSettingsSnapshot backend
        let result ← useSettings backend run
        finishSettingsWrite backend previous result) host =
      match backend.readFault host.world with
      | some error =>
          (.error (.failure "settings-unavailable"
            "the current settings document could not be snapshotted"
            (.object [("message", .string (boundedMessage error)),
              ("ns", .string capabilitySettingsNamespace)])), host)
      | none =>
          let (result, store, disk) := (run (backend.writeFault host.world host.disk).writer).exec
            (host.session.capabilitySettings, host.disk)
          (finishSettingsWrite backend ⟨host.session.capabilitySettings, host.disk.main⟩
            result).exec
              { host with session := { host.session with capabilitySettings := store }, disk } := by
  unfold captureSettingsSnapshot
  rw [exec_bind, exec_get_bind]
  cases backend.readFault host.world <;> rfl

theorem exec_publishEvent (host : WebHost ω σ) (channel : EventChannel) (payload : Value) :
    ∃ result events, (publishEvent channel payload).exec host = (result, { host with events }) :=
  ⟨_, _, exec_embedEvents _⟩

/-- The change was taken back, as far as the files let it. -/
theorem takenBack_outcome (store : CapabilitySettingsStore) (cause : String) (later : ω)
    (free : host.rebuildInProgress = false) :
    WriteOutcome backend asked host
      (.error (notApplied ⟨cause, rollbackError backend
        ⟨host.session.capabilitySettings, host.disk.main⟩
        { committed host store with rebuildInProgress := true, world := later }⟩))
      { putBack backend ⟨host.session.capabilitySettings, host.disk.main⟩
          { committed host store with rebuildInProgress := true, world := later } with
        rebuildInProgress := false } := by
  obtain ⟨session, world, disk, projection, queues, history, current, gate, nextId, busy⟩ := host
  subst free
  cases faulty : backend.restoreFault later ⟨some store.document.content.toUTF8, none⟩ with
  | some failure =>
      obtain ⟨error, left⟩ := failure
      simp only [rollbackError, putBack, committed, restoreSettingsFile, faulty]
      exact .stuck cause error later left
  | none =>
      simp only [rollbackError, putBack, committed, restoreSettingsFile, faulty]
      exact .takenBack cause later

/-- The end of a settings write whose session was replaced. -/
def announce : Handler ω σ Value := do
  let host ← get
  orFail (publishEvent .host (documentUpdatedPayload host.session.capabilitySettings.revision))
  finishSettingsWrite.currentView

theorem exec_announce (host : WebHost ω σ) :
    ∃ events, (announce : Handler ω σ Value).exec host =
        (.ok (capabilityNamespaceView host.session.capabilitySettings), { host with events }) ∨
      ∃ error, (announce : Handler ω σ Value).exec host =
        (.error (.error error), { host with events }) := by
  obtain ⟨result, events, ran⟩ := exec_publishEvent host .host
    (documentUpdatedPayload host.session.capabilitySettings.revision)
  refine ⟨events, ?_⟩
  unfold announce
  rw [exec_get_bind, exec_bind, exec_orFail, ran]
  cases result with
  | ok _ => exact .inl rfl
  | error error => exact .inr ⟨error, rfl⟩

/-- The session was replaced, and the change is announced. -/
theorem rebuilt_outcome (isAsked : asked = .ok operation) {next : CapabilityOverrides}
    {nextPlugins : PluginOverrides}
    (made : operation.Makes host.session.capabilitySettings.overrides
      host.session.capabilitySettings.pluginOverrides next nextPlugins)
    {replacement : ChatSession σ} (later : ω) {store : CapabilitySettingsStore}
    (writes : store = host.session.capabilitySettings.written next nextPlugins)
    (fits : store.document.content.utf8ByteSize ≤ maxSettingsFileBytes)
    (runsWith : replacement.capabilitySettings =
      { CapabilitySettingsStore.load backend.parseDocument backend.settingsPath
          (committed host store).disk with warnings := [] }) :
    (announce : Handler ω σ Value).wp (WriteOutcome backend asked host)
      (refreshed backend
        { committed host store with session := replacement, world := later }) := by
  obtain ⟨events, ran | ⟨error, ran⟩⟩ := exec_announce (refreshed backend
    { committed host store with session := replacement, world := later })
  · unfold wp
    rw [ran]
    exact .applied operation isAsked next nextPlugins made replacement later events store writes fits
      runsWith
  · unfold wp
    rw [ran]
    exact .unannounced replacement later events store error

theorem finishSettingsWrite_eq (previous : SettingsSnapshot) :
    (finishSettingsWrite backend previous (.ok true) : Handler ω σ Value) =
      (rebuildAfterSettingsChange backend previous >>= fun failure =>
        match failure with
        | some failure => throw (notApplied failure)
        | none => announce) := by
  unfold finishSettingsWrite
  simp only
  refine bind_congr fun failure => ?_
  cases failure <;> rfl

theorem exec_rebuildAfterSettingsChange (previous : SettingsSnapshot) (host : WebHost ω σ) :
    (rebuildAfterSettingsChange backend previous).exec host =
      (((rebuildInner backend previous).exec { host with rebuildInProgress := true }).1,
        { ((rebuildInner backend previous).exec { host with rebuildInProgress := true }).2 with
          rebuildInProgress := false }) := by
  unfold rebuildAfterSettingsChange
  rw [exec_modify_bind, exec_bind]
  have effect := rebuildInner_effect backend previous { host with rebuildInProgress := true }
  unfold wp at effect
  generalize (rebuildInner backend previous).exec { host with rebuildInProgress := true } = ran
    at effect ⊢
  obtain ⟨result, after⟩ := ran
  cases effect <;> rfl

theorem refreshed_rebuilt (store : CapabilitySettingsStore) (replacement : ChatSession σ)
    (later : ω) (free : host.rebuildInProgress = false) :
    ({ refreshed backend { committed host store with
        rebuildInProgress := true, session := replacement, world := later } with
      rebuildInProgress := false } : WebHost ω σ) =
      refreshed backend { committed host store with session := replacement, world := later } := by
  obtain ⟨session, world, disk, projection, queues, history, current, gate, nextId, busy⟩ := host
  subst free
  rfl

/-- Applying the document that was written, or taking it back. -/
theorem finishSettingsWrite_effect (isAsked : asked = .ok operation) {next : CapabilityOverrides}
    {nextPlugins : PluginOverrides}
    (made : operation.Makes host.session.capabilitySettings.overrides
      host.session.capabilitySettings.pluginOverrides next nextPlugins)
    {store : CapabilitySettingsStore}
    (writes : store = host.session.capabilitySettings.written next nextPlugins)
    (fits : store.document.content.utf8ByteSize ≤ maxSettingsFileBytes)
    (free : host.rebuildInProgress = false) :
    (finishSettingsWrite backend ⟨host.session.capabilitySettings, host.disk.main⟩
      (.ok true)).wp (WriteOutcome backend asked host) (committed host store) := by
  rw [finishSettingsWrite_eq]
  unfold wp
  rw [exec_bind, exec_rebuildAfterSettingsChange]
  have effect := rebuildInner_effect backend ⟨host.session.capabilitySettings, host.disk.main⟩
    { committed host store with rebuildInProgress := true }
  unfold wp at effect
  generalize (rebuildInner backend _).exec _ = ran at effect ⊢
  obtain ⟨result, after⟩ := ran
  cases effect with
  | takenBack cause later => exact takenBack_outcome store cause later free
  | rebuilt replacement later idle runsWith =>
      have ended := rebuilt_outcome isAsked made later writes fits runsWith
      rw [← refreshed_rebuilt store replacement later free] at ended
      exact ended

theorem applyWrite_effect (isAsked : asked = .ok operation) (revision : Option UInt64)
    (free : host.rebuildInProgress = false) :
    (applyWrite backend operation revision).wp (WriteOutcome backend asked host) host := by
  unfold wp applyWrite
  rw [exec_captured]
  cases backend.readFault host.world with
  | some error =>
      exact .refused _ (show ("settings-unavailable" : String) ≠ "settings-apply-failed" by decide)
  | none =>
      simp only
      cases CapabilitySettingsStore.perform_effect host.session.capabilitySettings operation
          revision with
      | refused error runs =>
          rw [runs]
          exact .refused _ (refusesOnly_settingsRejected (α := Value) error _ rfl)
      | unchanged same runs =>
          rw [runs]
          exact .unchanged operation isAsked same
      | replaced next nextPlugins made room fits runs =>
          rw [runs]
          unfold CapabilitySettingsStore.stored
          cases faulty : backend.writeFault host.world host.disk with
          | some failure =>
              obtain ⟨source, left⟩ := failure
              exact .faulted _ (refusesOnly_settingsRejected (α := Value)
                (.io host.session.capabilitySettings.path source) _ rfl) source left faulty
          | none =>
              dsimp only [CapabilitySettingsStore.WriteFault.writer]
              rw [replaceFile_eq]
              exact finishSettingsWrite_effect isAsked made rfl fits free

theorem dispatchSettingsWrite_effect (host : WebHost ω σ) (method : String) (payload : Value) :
    (dispatchSettingsWrite backend method payload).wp
      (WriteOutcome backend (settingsWrite method payload) host) host := by
  cases dispatchSettingsWrite_checks backend host method payload with
  | refused stop refuses runs =>
      have ran := runs host.disk
      unfold wp
      rw [ran]
      exact .refused stop refuses
  | allowed operation revision isAsked free runs =>
      have ran := runs host.disk
      have effect : (applyWrite backend operation revision).wp _ host :=
        applyWrite_effect isAsked revision free
      unfold wp at effect ⊢
      rw [ran]
      exact effect

end Web
end YunXi
