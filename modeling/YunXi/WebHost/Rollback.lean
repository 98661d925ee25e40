import YunXi.WebHost.Gate
import YunXi.WebHost.SettingsWrites

/-!
# Settings that are taken back

Taking a change back restores the document alone, so what was read from its backup is lost.
Apart from that a host behaves afterwards as if the request had not happened.
-/

namespace YunXi
namespace Web

open Fallible
open Protocol (Value)
open Settings
open WebContract
open WebGateway

variable {ω σ : Type} (backend : Backend ω σ)

/-- The answer to a request whose handler returned or stopped. -/
def answerOf (request : ClientRequest) : Except Stop Value → Except WebHostError ServerResponse
  | .ok value => success request value
  | .error (.failure code message details) => failure request code message details
  | .error (.error error) => .error error

theorem exec_dispatch (host : WebHost ω σ) (request : ClientRequest) :
    (dispatch backend request).exec host =
      (answerOf request ((handler backend request).exec (refreshed backend host)).1,
        ((handler backend request).exec (refreshed backend host)).2) := by
  unfold dispatch answer
  rw [exec_bind, exec_refresh]
  simp only [exec_ofFunction]
  rcases (handler backend request).exec (refreshed backend host) with ⟨result, after⟩
  rcases result with stop | value
  · cases stop <;> rfl
  · rfl

/-- An answer that says that a settings change was rolled back. -/
def SaysRolledBack (answer : Except WebHostError ServerResponse) : Prop :=
  ∃ response error, answer = .ok response ∧ response.result = .failure error ∧
    error.code = "settings-apply-failed" ∧
    (error.details.get "rolledBack").bind Value.asBool = some true

instance (answer : Except WebHostError ServerResponse) : Decidable (SaysRolledBack answer) :=
  match answer with
  | .ok ⟨_, .failure error, _⟩ =>
      decidable_of_iff (error.code = "settings-apply-failed" ∧
          (error.details.get "rolledBack").bind Value.asBool = some true)
        ⟨fun holds => ⟨_, error, rfl, rfl, holds⟩,
          fun ⟨_, _, answers, failed, holds⟩ => by cases answers; cases failed; exact holds⟩
  | .ok ⟨_, .success _, _⟩ =>
      .isFalse fun ⟨_, _, answers, failed, _⟩ => by cases answers; cases failed
  | .error _ => .isFalse fun ⟨_, _, answers, _⟩ => nomatch answers

/-- An answer that is a success with a value. -/
def Succeeds (answer : Except WebHostError ServerResponse) (value : Value) : Prop :=
  ∃ response, answer = .ok response ∧ response.result = .success value

variable {request : ClientRequest}

theorem result_of_success {value : Value} {response : ServerResponse}
    (answers : success request value = .ok response) : response.result = .success value := by
  obtain ⟨passes, rfl⟩ := eq_of_construct (Except.mapError_eq_ok.mp answers)
  rfl

theorem result_of_failure {code message : String} {details : Value}
    {response : ServerResponse}
    (answers : failure request code message details = .ok response) :
    ∃ error, response.result = .failure error ∧ error.code = code ∧ error.details = details := by
  obtain ⟨error, built, rest⟩ := Except.bind_eq_ok.mp answers
  obtain ⟨passes, rfl⟩ := eq_of_construct (Except.mapError_eq_ok.mp built)
  obtain ⟨_, rfl⟩ := eq_of_construct (Except.mapError_eq_ok.mp rest)
  exact ⟨_, rfl, rfl, rfl⟩

theorem stop_of_saysRolledBack {result : Except Stop Value}
    (claims : SaysRolledBack (answerOf request result)) :
    ∃ message details, result = .error (.failure "settings-apply-failed" message details) ∧
      (details.get "rolledBack").bind Value.asBool = some true := by
  obtain ⟨response, error, answers, failed, code, rolledBack⟩ := claims
  rcases result with stop | value
  · rcases stop with ⟨given, message, details⟩ | error
    · obtain ⟨built, same, givenCode, givenDetails⟩ := result_of_failure answers
      rw [failed, RpcResult.failure.injEq] at same
      subst same
      rw [← givenCode, code, ← givenDetails]
      exact ⟨message, error.details, rfl, rolledBack⟩
    · cases answers
  · rw [result_of_success answers] at failed
    cases failed

theorem value_of_succeeds {result : Except Stop Value} {value : Value}
    (succeeds : Succeeds (answerOf request result) value) : result = .ok value := by
  obtain ⟨response, answers, succeeded⟩ := succeeds
  rcases result with stop | given
  · rcases stop with ⟨code, message, details⟩ | error
    · obtain ⟨error, failed, -⟩ := result_of_failure answers
      rw [failed] at succeeded
      cases succeeded
    · cases answers
  · rw [result_of_success answers, RpcResult.success.injEq] at succeeded
    rw [succeeded]

/-- Files with the same document that load alike: they differ in the backup at most. -/
structure LoadAlike (left right : SettingsDisk) : Prop where
  main : left.main = right.main
  loads : CapabilitySettingsStore.load backend.parseDocument backend.settingsPath left =
    CapabilitySettingsStore.load backend.parseDocument backend.settingsPath right

/-- Whether the file can be written does not depend on the backup, and neither does what a
failure leaves behind. -/
def WritesAlike : Prop :=
  ∀ world left right, LoadAlike backend left right →
    Option.Rel (fun first second => first.1 = second.1 ∧ LoadAlike backend first.2 second.2)
      (backend.writeFault world left) (backend.writeFault world right)

/-- The same result, and hosts that differ in the backup at most. -/
structure SameOutcome {α : Type} (left right : α × WebHost ω σ) : Prop where
  result : left.1 = right.1
  host : right.2 = { left.2 with disk := right.2.disk }
  alike : LoadAlike backend left.2.disk right.2.disk

variable {backend}

variable {right left : SettingsDisk}

theorem SameOutcome.of_alike {α : Type}
    (alike : LoadAlike backend left right) (result : α) (host : WebHost ω σ) :
    SameOutcome backend (result, { host with disk := left }) (result, { host with disk := right }) :=
  ⟨rfl, rfl, alike⟩

theorem SameOutcome.refl {α : Type} (outcome : α × WebHost ω σ) :
    SameOutcome backend outcome outcome :=
  ⟨rfl, rfl, rfl, rfl⟩

theorem applyWrite_alike (writesAlike : WritesAlike backend)
    (alike : LoadAlike backend left right) (operation : StoreOperation)
    (revision : Option UInt64) (host : WebHost ω σ) :
    SameOutcome backend ((applyWrite backend operation revision).exec { host with disk := left })
      ((applyWrite backend operation revision).exec { host with disk := right }) := by
  unfold applyWrite
  rw [exec_captured, exec_captured]
  simp only
  cases backend.readFault host.world with
  | some error => exact .of_alike alike _ host
  | none =>
      simp only [alike.main]
      cases CapabilitySettingsStore.perform_effect host.session.capabilitySettings operation
          revision with
      | refused error runs =>
          rw [runs, runs]
          exact .of_alike alike _ host
      | unchanged same runs =>
          rw [runs, runs]
          exact .of_alike alike _ host
      | replaced next nextPlugins made room fits runs =>
          rw [runs, runs]
          have faults := writesAlike host.world left right alike
          unfold CapabilitySettingsStore.stored
          generalize backend.writeFault host.world left = first at faults
          generalize backend.writeFault host.world right = second at faults
          cases faults with
          | none =>
              simp only [CapabilitySettingsStore.WriteFault.writer, replaceFile_eq]
              exact .refl _
          | some related =>
              obtain ⟨same, leftAlike⟩ := related
              simp only [CapabilitySettingsStore.WriteFault.writer, same]
              exact .of_alike leftAlike _ host

theorem dispatchSettingsWrite_alike (writesAlike : WritesAlike backend)
    (alike : LoadAlike backend left right) (host : WebHost ω σ)
    (method : String) (payload : Value) :
    SameOutcome backend
      ((dispatchSettingsWrite backend method payload).exec { host with disk := left })
      ((dispatchSettingsWrite backend method payload).exec { host with disk := right }) := by
  cases dispatchSettingsWrite_checks backend host method payload with
  | refused stop refuses runs =>
      rw [runs, runs]
      exact .of_alike alike _ host
  | allowed operation revision isAsked free runs =>
      rw [runs, runs]
      exact applyWrite_alike writesAlike alike operation revision host

/-- The methods of settings requests. -/
def IsSettings (method : String) : Prop :=
  method = settingsDescribeMethod ∨ method = settingsUpdateMethod ∨
    method = settingsReplaceMethod ∨ method = settingsMutateMethod

/-- The methods of settings writes. -/
def WritesSettings (method : String) : Prop :=
  method = settingsUpdateMethod ∨ method = settingsReplaceMethod ∨ method = settingsMutateMethod

theorem handler_settingsDescribe (describes : request.method = settingsDescribeMethod) :
    (handler backend request : Handler ω σ Value) =
      dispatchSettingsDescribe request.payload := by
  simp only [handler, describes]
  rfl

theorem handler_settingsWrite (writes : WritesSettings request.method) :
    (handler backend request : Handler ω σ Value) =
      dispatchSettingsWrite backend request.method request.payload := by
  obtain writes | writes | writes := writes <;> simp only [handler, writes] <;> rfl

/-- A settings request sees the document, not its backup. -/
theorem dispatch_alike (writesAlike : WritesAlike backend)
    (alike : LoadAlike backend left right) (host : WebHost ω σ)
    (isSettings : IsSettings request.method) :
    SameOutcome backend ((dispatch backend request).exec { host with disk := left })
      ((dispatch backend request).exec { host with disk := right }) := by
  have handled : SameOutcome backend
      ((handler backend request).exec { refreshed backend host with disk := left })
      ((handler backend request).exec { refreshed backend host with disk := right }) := by
    obtain describes | writes := isSettings
    · rw [handler_settingsDescribe describes]
      unfold dispatchSettingsDescribe throwIf
      rw [exec_bind, exec_bind, exec_ofExcept, exec_ofExcept]
      split_ifs
      · exact .of_alike alike _ (refreshed backend host)
      · exact .of_alike alike _ (refreshed backend host)
    · rw [handler_settingsWrite writes]
      exact dispatchSettingsWrite_alike writesAlike alike (refreshed backend host) _ _
  rw [exec_dispatch, exec_dispatch]
  exact ⟨congrArg (answerOf request) handled.result, handled.host, handled.alike⟩

variable (backend)

/-- The answers to requests that come one after the other. -/
def answers (host : WebHost ω σ) : List ClientRequest → List (Except WebHostError ServerResponse)
  | [] => []
  | request :: rest =>
      ((dispatch backend request).exec host).1 ::
        answers ((dispatch backend request).exec host).2 rest

variable {backend}

theorem answers_alike (writesAlike : WritesAlike backend) {requests : List ClientRequest}
    (areSettings : ∀ request ∈ requests, IsSettings request.method)
    (alike : LoadAlike backend left right) (host : WebHost ω σ) :
    answers backend { host with disk := left } requests =
      answers backend { host with disk := right } requests := by
  induction requests generalizing left right host with
  | nil => rfl
  | cons request rest ih =>
      obtain ⟨isSettings, restSettings⟩ := List.forall_mem_cons.mp areSettings
      have outcome := dispatch_alike writesAlike alike host isSettings
      have later := ih restSettings outcome.alike
        ((dispatch backend request).exec { host with disk := left }).2
      rw [← outcome.host] at later
      unfold answers
      rw [outcome.result, later]

variable (backend)

/-- After a change was taken back: what is loaded is what was loaded before, the host is the
one before but for the world and the files, and settings requests get the answers they would
have got without the change. -/
structure RolledBack (before after : WebHost ω σ) : Prop where
  loads : CapabilitySettingsStore.load backend.parseDocument backend.settingsPath after.disk =
    CapabilitySettingsStore.load backend.parseDocument backend.settingsPath before.disk
  host : after = { before with world := after.world, disk := after.disk }
  later : WritesAlike backend → ∀ requests : List ClientRequest,
    (∀ request ∈ requests, IsSettings request.method) →
      answers backend after requests =
        answers backend { before with world := after.world } requests

/-- The operation leaves the settings of a store as they are. -/
def Leaves (operation : StoreOperation) (store : CapabilitySettingsStore) : Prop :=
  operation.Makes store.overrides store.pluginOverrides store.overrides store.pluginOverrides

/-- After a change was applied: the document of the store that the operation makes is on disk
alone, the session runs with what is loaded from there, and that is the new store when its text
reads back. -/
def Applied (operation : StoreOperation) (before after : WebHost ω σ) : Prop :=
  ∃ next nextPlugins,
    operation.Makes before.session.capabilitySettings.overrides
      before.session.capabilitySettings.pluginOverrides next nextPlugins ∧
    let store := before.session.capabilitySettings.written next nextPlugins
    after.disk = ⟨some store.document.content.toUTF8, none⟩ ∧
    after.session.capabilitySettings =
      { CapabilitySettingsStore.load backend.parseDocument backend.settingsPath after.disk with
        warnings := [] } ∧
    (backend.parseDocument store.document.content.toUTF8 = .ok store.document →
      after.session.capabilitySettings =
        { store with path := backend.settingsPath, warnings := [] })

variable {backend}

theorem takenBack_iff (host : WebHost ω σ) (world : ω) :
    RolledBack backend host { host with world, disk := ⟨host.disk.main, none⟩ } ↔
      CapabilitySettingsStore.Usable backend.parseDocument backend.settingsPath host.disk.main ∨
        host.disk.backup = none := by
  rw [← CapabilitySettingsStore.load_withoutBackup_iff]
  constructor
  · exact fun rolledBack => rolledBack.loads
  · intro same
    refine ⟨same, rfl, fun writesAlike requests areSettings => ?_⟩
    have alike : LoadAlike backend ⟨host.disk.main, none⟩ host.disk := ⟨rfl, same⟩
    exact answers_alike writesAlike areSettings alike { host with world }

/-- A settings write that could not be applied was taken back as if nothing had happened
exactly when the document could be used or had no backup.  After a write that succeeds the
operation that was asked for leaves the settings as they are and nothing was changed, or the
session runs with the document on disk that it makes, whose revision is the one in the answer. -/
theorem settingsRollback_iff (host : WebHost ω σ) (request : ClientRequest)
    (writes : WritesSettings request.method) :
    (SaysRolledBack ((dispatch backend request).exec host).1 →
      (RolledBack backend (refreshed backend host) ((dispatch backend request).exec host).2 ↔
        CapabilitySettingsStore.Usable backend.parseDocument backend.settingsPath
          host.disk.main ∨ host.disk.backup = none)) ∧
    ∀ value, Succeeds ((dispatch backend request).exec host).1 value →
      value = capabilityNamespaceView
        ((dispatch backend request).exec host).2.session.capabilitySettings ∧
      ∃ operation, settingsWrite request.method request.payload = .ok operation ∧
        (((dispatch backend request).exec host).2 = refreshed backend host ∧
            Leaves operation host.session.capabilitySettings ∨
          Applied backend operation (refreshed backend host)
            ((dispatch backend request).exec host).2) := by
  have effect : (dispatchSettingsWrite backend request.method request.payload).wp
      (WriteOutcome backend (settingsWrite request.method request.payload)
        (refreshed backend host)) (refreshed backend host) :=
    dispatchSettingsWrite_effect (refreshed backend host) request.method request.payload
  rw [exec_dispatch, handler_settingsWrite writes]
  unfold wp at effect
  generalize (dispatchSettingsWrite backend request.method request.payload).exec
    (refreshed backend host) = ran at effect ⊢
  obtain ⟨result, after⟩ := ran
  refine ⟨fun claims => ?_, fun value succeeds => ?_⟩
  · obtain ⟨message, details, stopped, rolledBack⟩ := stop_of_saysRolledBack claims
    simp only at effect stopped ⊢
    cases effect with
    | refused stop refuses =>
        cases stopped
        exact absurd rfl refuses
    | faulted stop refuses source left faulty =>
        cases stopped
        exact absurd rfl refuses
    | takenBack cause world => exact takenBack_iff (refreshed backend host) world
    | stuck cause error world left =>
        cases stopped
        cases rolledBack
    | unchanged | applied | unannounced => cases stopped
  · have returned := value_of_succeeds succeeds
    simp only at effect returned ⊢
    cases effect with
    | unchanged operation isAsked same =>
        cases returned
        exact ⟨rfl, operation, isAsked, .inl ⟨rfl, same⟩⟩
    | applied operation isAsked next nextPlugins made replacement world events store writes fits
        runsWith =>
        cases returned
        refine ⟨rfl, operation, isAsked,
          .inr ⟨next, nextPlugins, made, ?_, runsWith, fun reads => ?_⟩⟩
        · rw [← writes]
          rfl
        · rw [← writes] at reads ⊢
          exact runsWith.trans
            (congrArg (fun store : CapabilitySettingsStore => { store with warnings := [] })
              (CapabilitySettingsStore.load_written reads fits))
    | refused | faulted | takenBack | stuck | unannounced => cases returned

/-- A document with one setting, of the kind a write leaves behind. -/
def keptDocument : SettingsDocument :=
  ⟨settingsDocumentVersion, 3, CapabilityOverrides.empty.set .memory false, .empty⟩

/-- The document after voice was enabled in it. -/
def voiceDocument : SettingsDocument :=
  ⟨settingsDocumentVersion, 4, keptDocument.capabilities.set .voice true, .empty⟩

local instance bytesDecidableEq : DecidableEq ByteArray := ByteArray.instDecidableEq

/-- A host whose voice plugin cannot be started. -/
def voicelessBackend : Backend Unit Unit :=
  { askingBackend with
    parseDocument := fun content =>
      if content = keptDocument.content.toUTF8 then .ok keptDocument
      else if content = voiceDocument.content.toUTF8 then .ok voiceDocument
      else .error "expected value"
    launch := fun store world =>
      if store.overrides.get .voice = some true then (.error "voice cannot be started", world)
      else (.ok (), world) }

/-- The document is missing, and its backup is there. -/
def interruptedDisk : SettingsDisk := ⟨none, some keptDocument.content.toUTF8⟩

def recoveredStore : CapabilitySettingsStore :=
  ⟨"settings.json", keptDocument.capabilities, .empty, 3, []⟩

def recoveredHost : WebHost Unit Unit :=
  launched voicelessBackend ⟨none, recoveredStore, ()⟩ () interruptedDisk

def enableVoiceRequest : ClientRequest :=
  ⟨requestId, settingsUpdateMethod,
    .object [("ns", .string capabilitySettingsNamespace),
      ("patch", .object [("voice", .bool true)])], by decide, by decide⟩

/-- The change is reported as rolled back, and the recovered settings are gone. -/
theorem settingsRollback_lost :
    SaysRolledBack ((dispatch voicelessBackend enableVoiceRequest).exec recoveredHost).1 ∧
      ¬ RolledBack voicelessBackend (refreshed voicelessBackend recoveredHost)
        ((dispatch voicelessBackend enableVoiceRequest).exec recoveredHost).2 := by
  refine ⟨by decide +kernel, fun rolledBack => ?_⟩
  have loads : CapabilitySettingsStore.load voicelessBackend.parseDocument
      voicelessBackend.settingsPath
      ((dispatch voicelessBackend enableVoiceRequest).exec recoveredHost).2.disk ≠
    CapabilitySettingsStore.load voicelessBackend.parseDocument voicelessBackend.settingsPath
      (refreshed voicelessBackend recoveredHost).disk := by
    decide +kernel
  exact loads rolledBack.loads

/-- The same settings in the document itself, without a backup. -/
def keptHost : WebHost Unit Unit :=
  { recoveredHost with disk := ⟨some keptDocument.content.toUTF8, none⟩ }

/-- The same files, and voice can be started. -/
def voiceBackend : Backend Unit Unit :=
  { voicelessBackend with launch := fun _ world => (.ok (), world) }

/-- The value of an answer that is a success. -/
def successValue : Except WebHostError ServerResponse → Option Value
  | .ok ⟨_, .success value, _⟩ => some value
  | _ => none

theorem succeeds_of_successValue {answer : Except WebHostError ServerResponse} {value : Value}
    (found : successValue answer = some value) : Succeeds answer value := by
  unfold successValue at found
  split at found
  · cases found
    exact ⟨_, rfl, rfl⟩
  · cases found

/-- There a change that fails is taken back as if it had not happened, and one that succeeds is
applied. -/
theorem settingsRollback_kept :
    RolledBack voicelessBackend (refreshed voicelessBackend keptHost)
        ((dispatch voicelessBackend enableVoiceRequest).exec keptHost).2 ∧
      ∃ operation,
        settingsWrite enableVoiceRequest.method enableVoiceRequest.payload = .ok operation ∧
          Applied voiceBackend operation (refreshed voiceBackend keptHost)
            ((dispatch voiceBackend enableVoiceRequest).exec keptHost).2 := by
  constructor
  · exact ((settingsRollback_iff keptHost enableVoiceRequest (.inl rfl)).1
      (by decide +kernel)).mpr (.inr rfl)
  · have answered : (successValue
        ((dispatch voiceBackend enableVoiceRequest).exec keptHost).1).isSome = true := by
      decide +kernel
    obtain ⟨value, found⟩ := Option.isSome_iff_exists.mp answered
    obtain ⟨-, operation, asked, unchanged | applied⟩ :=
      (settingsRollback_iff keptHost enableVoiceRequest (.inl rfl)).2 value
        (succeeds_of_successValue found)
    · have raised : ((dispatch voiceBackend enableVoiceRequest).exec
          keptHost).2.session.capabilitySettings.revision ≠
            (refreshed voiceBackend keptHost).session.capabilitySettings.revision := by
        decide +kernel
      exact absurd (congrArg (fun host => host.session.capabilitySettings.revision) unchanged.1)
        raised
    · exact ⟨operation, asked, applied⟩

end Web
end YunXi
