import YunXi.WebHost.Publishing
import YunXi.WebHost.SettingsRequests

/-!
# What a settings write does to a host

After a change of the settings a session is launched over the new document.  Either it
replaces the live one, or the document and the store are put back.
-/

namespace YunXi
namespace Web

open Fallible
open Protocol (Value)
open Settings
open WebContract
open WebGateway

variable {ω σ : Type} (backend : Backend ω σ)

/-- The host after `refresh`. -/
def refreshed (host : WebHost ω σ) : WebHost ω σ :=
  let (projection, plugins, world) := backend.webProjection host.session.plugins host.world
  { host with session := { host.session with plugins }, world, projection }

@[simp] theorem exec_refresh {ε : Type} (host : WebHost ω σ) :
    (refresh backend : Fallible (WebHost ω σ) ε Unit).exec host =
      (.ok (), refreshed backend host) := rfl

/-- The host after a change that could not be applied: the store is put back, and the files
are what restoring left. -/
def putBack (previous : SettingsSnapshot) (host : WebHost ω σ) : WebHost ω σ :=
  { host with
    session := { host.session with capabilitySettings := previous.store }
    disk := (restoreSettingsFile (backend.restoreFault host.world host.disk) host.disk
      previous.file).2 }

/-- Why the files could not be restored, if they could not. -/
def rollbackError (previous : SettingsSnapshot) (host : WebHost ω σ) : Option String :=
  (restoreSettingsFile (backend.restoreFault host.world host.disk) host.disk previous.file).1

/-- A session that was launched waits for nothing and runs with the settings on disk. -/
theorem launch_ok {disk : SettingsDisk} {world later : ω} {session : ChatSession σ}
    (launched : ChatSession.launch backend disk world = (.ok session, later)) :
    session.pending = none ∧ session.capabilitySettings =
      { CapabilitySettingsStore.load backend.parseDocument backend.settingsPath disk with
        warnings := [] } := by
  simp only [ChatSession.launch] at launched
  split at launched
  · cases launched
    exact ⟨rfl, rfl⟩
  · cases launched

/-- Activating a stored session leaves the settings alone and nothing to wait for. -/
theorem activate_keeps {session : ChatSession σ} (id : String)
    (idle : session.pending = none) (world : ω) :
    ((ChatSession.activateWebSession backend id).exec (session, world)).2.1.pending = none ∧
      ((ChatSession.activateWebSession backend id).exec (session, world)).2.1.capabilitySettings =
        session.capabilitySettings := by
  simp only [ChatSession.activateWebSession, ChatSession.switchSession,
    exec_ofFunction]
  split
  · exact ⟨rfl, rfl⟩
  · exact ⟨idle, rfl⟩

/-- The outcomes of rebuilding the session: it was replaced, or the change was taken back. -/
inductive RebuildEffect (previous : SettingsSnapshot) (host : WebHost ω σ) :
    Except Stop (Option SettingsApplyFailure) → WebHost ω σ → Prop
  | rebuilt (replacement : ChatSession σ) (world : ω) (idle : replacement.pending = none)
      (runsWith : replacement.capabilitySettings =
        { CapabilitySettingsStore.load backend.parseDocument backend.settingsPath host.disk with
          warnings := [] }) :
      RebuildEffect previous host (.ok none)
        (refreshed backend { host with session := replacement, world })
  | takenBack (cause : String) (world : ω) :
      RebuildEffect previous host
        (.ok (some ⟨cause, rollbackError backend previous { host with world }⟩))
        (putBack backend previous { host with world })

theorem rebuildInner_effect (previous : SettingsSnapshot) (host : WebHost ω σ) :
    (rebuildInner backend previous).wp (RebuildEffect backend previous host) host := by
  obtain ⟨session, world, disk, projection, events, history, current, gate, next, busy⟩ := host
  unfold rebuildInner wp
  rw [exec_get_bind]
  rcases launched : ChatSession.launch backend disk world with ⟨result, after⟩
  simp only
  rw [exec_modify_bind]
  cases result with
  | error cause => exact .takenBack cause after
  | ok replacement =>
      obtain ⟨idle, runsWith⟩ := launch_ok backend launched
      cases current with
      | none =>
          simp only
          rw [exec_modify_bind, exec_modify_bind]
          exact .rebuilt replacement after idle runsWith
      | some sessionId =>
          obtain ⟨keptIdle, kept⟩ := activate_keeps backend sessionId idle after
          rcases activated : (ChatSession.activateWebSession backend sessionId).exec
            (replacement, after) with ⟨outcome, taken, later⟩
          rw [activated] at keptIdle kept
          simp only [activated]
          rw [exec_modify_bind]
          cases outcome with
          | error cause => exact .takenBack cause later
          | ok snapshot =>
              simp only [Except.map]
              rw [exec_modify_bind]
              exact .rebuilt taken later keptIdle (kept.trans runsWith)

end Web
end YunXi
