import YunXi.WebHost.Host

/-!
# Settings requests

A write changes the store and the file, and then a session is launched that runs with the new
settings.  When that fails, the file and the store are put back.
-/

namespace YunXi
namespace Web

open Protocol (Value ChatMessage isBlank)
open Settings
open WebContract
open WebGateway

variable {ω σ : Type} (backend : Backend ω σ)

/-- The type of one setting in the schema. -/
def booleanType : Value := .object [("type", .string "boolean")]

/-- `capability_settings_schema`. -/
def capabilitySettingsSchema : Value :=
  .object [
    ("refs", .object [("1", booleanType), ("10", booleanType), ("11", booleanType),
      ("12", booleanType), ("13", booleanType), ("14", booleanType), ("15", booleanType),
      ("16", .object [
        ("dict", .object [("companion", .ofNat 4), ("context", .ofNat 1), ("files", .ofNat 10),
          ("mailbox", .ofNat 6), ("mcp", .ofNat 11), ("memory", .ofNat 3),
          ("multi_agent", .ofNat 13), ("patch", .ofNat 9), ("persona", .ofNat 2),
          ("scheduler", .ofNat 7), ("shell", .ofNat 8), ("skills", .ofNat 12),
          ("storage", .ofNat 5), ("voice", .ofNat 14), ("weixin", .ofNat 15)]),
        ("type", .string "object")]),
      ("2", booleanType), ("3", booleanType), ("4", booleanType), ("5", booleanType),
      ("6", booleanType), ("7", booleanType), ("8", booleanType), ("9", booleanType)]),
    ("uid", .ofNat 16)]

/-- `capability_namespace_view`. -/
def capabilityNamespaceView (store : CapabilitySettingsStore) : Value :=
  let user := store.overrides.members CapabilitySetting.byName
  .object ([("applies", .string "live"), ("base", CapabilitySwitches.default.toJson),
    ("ns", .string capabilitySettingsNamespace), ("plugins", store.pluginOverrides.toJson),
    ("revision", .ofNat store.revision.toNat), ("schema", capabilitySettingsSchema),
    ("secrets", .array [])] ++
    (if user.isEmpty then [] else [("user", .object user)]) ++
    [("value", (CapabilitySwitches.fromOverrides store.overrides).toJson)])

/-- `settings_document_view`. -/
def settingsDocumentView (store : CapabilitySettingsStore) : Value :=
  .object [("hasDocument", .bool false),
    ("namespaces", .array [onboardingNamespace, capabilityNamespaceView store]),
    ("writable", .bool true)]

/-- `dispatch_settings_describe`. -/
def dispatchSettingsDescribe (payload : Value) : Handler ω σ Value := do
  .throwIf (payload.isObject = false)
    (.failure "invalid-payload" "settings.describe payload must be an object" (.object []))
  let host ← get
  return settingsDocumentView host.session.capabilitySettings

/-- `validate_settings_namespace`. -/
def validateSettingsNamespace (payload : Value) : Except Stop Unit := do
  refuseIf (payload.isObject = false)
    (.failure "invalid-payload" "settings write payload must be an object" (.object []))
  refuseIf (textField payload "ns" ≠ some capabilitySettingsNamespace)
    (.failure "settings-rejected" "the settings namespace is not writable"
      (.object [("ns", (payload.get "ns").getD .null)]))

/-- `validate_settings_change_allowed`. -/
def validateSettingsChangeAllowed : Handler ω σ Unit := do
  let host ← get
  .throwIf (host.rebuildInProgress ∨ host.pendingApproval.isSome ∨ host.session.pending.isSome)
    (.failure "agent-busy" "resolve the pending approval before changing plugin settings"
      (.object [("ns", .string capabilitySettingsNamespace),
        ("sessionId", optionalText host.webSessionId)]))

/-- `settings_rejected`. -/
def settingsRejected {α : Type} (error : CapabilitySettingsError) : Except Stop α :=
  .error <| match error with
    | .conflict expected current =>
        .failure "settings-conflict" "the capability settings changed after this view was read"
          (.object [("currentRevision", .ofNat current.toNat),
            ("expectedRevision", .ofNat expected.toNat)])
    | _ =>
        .failure "settings-rejected" "the capability settings write was rejected"
          (.object [("ns", .string capabilitySettingsNamespace)])

/-- What `capture_settings_snapshot` keeps: the store and the file, absent when missing. -/
structure SettingsSnapshot where
  store : CapabilitySettingsStore
  file : Option ByteArray

/-- `capture_settings_snapshot`. -/
def captureSettingsSnapshot : Handler ω σ SettingsSnapshot := do
  let host ← get
  match backend.readFault host.world with
  | some error =>
      throw (.failure "settings-unavailable"
        "the current settings document could not be snapshotted"
        (.object [("message", .string (boundedMessage error)),
          ("ns", .string capabilitySettingsNamespace)]))
  | none => return ⟨host.session.capabilitySettings, host.disk.main⟩

/-- `restore_settings_file`. -/
def restoreSettingsFile (fault : CapabilitySettingsStore.WriteFault) (disk : SettingsDisk)
    (file : Option ByteArray) : Option String × SettingsDisk :=
  match fault with
  | some (error, left) => (some error, left)
  | none => (none, { disk with main := file })

structure SettingsApplyFailure where
  cause : String
  rollbackError : Option String

variable (previous : SettingsSnapshot)

/-- `settings_apply_failure`: put the file and the store back. -/
def settingsApplyFailure (cause : String) :
    Handler ω σ SettingsApplyFailure :=
  .ofFunction fun host =>
    let (rollbackError, disk) := restoreSettingsFile
      (backend.restoreFault host.world host.disk) host.disk previous.file
    (.ok ⟨cause, rollbackError⟩,
      { host with
        session := { host.session with capabilitySettings := previous.store }
        disk })

/-- `rebuild_after_settings_change_inner`: there is a failure unless the session could be
replaced. -/
def rebuildInner : Handler ω σ (Option SettingsApplyFailure) := do
  let host ← get
  let (launched, world) := ChatSession.launch backend host.disk host.world
  modify fun host => { host with world }
  match launched with
  | .error error => do
      let failure ← settingsApplyFailure backend previous error
      return some failure
  | .ok replacement => do
      -- the replacement takes over the current web session before it goes live
      let (activated, replacement, world) := match host.webSessionId with
        | none => (Except.ok (), replacement, world)
        | some sessionId =>
            let (result, replacement, world) :=
              (ChatSession.activateWebSession backend sessionId).exec (replacement, world)
            (result.map fun _ => (), replacement, world)
      modify fun host => { host with world }
      match activated with
      | .error error => do
          let failure ← settingsApplyFailure backend previous error
          return some failure
      | .ok () => do
          modify fun host => { host with session := replacement }
          refresh backend
          return none

/-- `rebuild_after_settings_change`. -/
def rebuildAfterSettingsChange : Handler ω σ (Option SettingsApplyFailure) := do
  modify fun host => { host with rebuildInProgress := true }
  let result ← rebuildInner backend previous
  modify fun host => { host with rebuildInProgress := false }
  return result

/-- The details of a change that could not be applied. -/
def SettingsApplyFailure.details (failure : SettingsApplyFailure) : Value :=
  .object ([("message", .string (boundedMessage failure.cause)),
    ("ns", .string capabilitySettingsNamespace)] ++
    Protocol.optionalMember "rollbackError"
      (failure.rollbackError.map fun error => .string (boundedMessage error)) ++
    [("rolledBack", .bool failure.rollbackError.isNone)])

def documentUpdatedPayload (revision : UInt64) : Value :=
  .object [("args", .array [.string capabilitySettingsNamespace, .ofNat revision.toNat]),
    ("event", .string "settings/document-updated"), ("type", .string "host/remote-event")]

/-- `finish_settings_write`. -/
def finishSettingsWrite (result : Except CapabilitySettingsError Bool) : Handler ω σ Value := do
  match result with
  | .error error => .ofExcept (settingsRejected error)
  | .ok false => currentView
  | .ok true => do
      match ← rebuildAfterSettingsChange backend previous with
      | some failure =>
          throw (.failure "settings-apply-failed"
            "the setting was not applied to the live WebHost" failure.details)
      | none => do
          let host ← get
          orFail (publishEvent .host
            (documentUpdatedPayload host.session.capabilitySettings.revision))
          currentView
where
  /-- The namespace as it is now. -/
  currentView : Handler ω σ Value := do
    let host ← get
    return capabilityNamespaceView host.session.capabilitySettings

/-- Read one section of a request, which holds capabilities or plugins but not both. -/
def readSection (payload : Value) (method field : String)
    (writeCapabilities : CapabilityOverrides → StoreOperation)
    (writePlugins : SortedMap String Bool → StoreOperation) : Except Stop StoreOperation :=
  match payload.get field with
  | none => invalidPayload (method ++ " requires an object " ++ field) field
  | some given =>
      match given.get "plugins" with
      | some plugins =>
          if given.asObject.all fun members => members.length ≠ 1 then
            invalidPayload (method ++ " cannot mix capability and plugin sections") field
          else
            match parsePlugins plugins with
            | .ok plugins => .ok (writePlugins plugins)
            | .error error => settingsRejected error
      | none =>
          match parseSection given with
          | .ok overrides => .ok (writeCapabilities overrides)
          | .error error => settingsRejected error

/-- `settings_edits`, the edits of one operation. -/
def settingsEdit (operation : Value) :
    Except String (CapabilityEdit ⊕ PluginEdit) :=
  match operation with
  | .object members =>
      match textField operation "op" with
      | none => .error "each settings mutation requires an op"
      | some op =>
          match operation.get "path" |>.bind Value.asArray with
          | none => .error "settings mutations require a path array"
          | some path =>
              let target : Option (CapabilitySetting ⊕ String) := match path with
                | [.string name] => (CapabilitySetting.parse name).map .inl
                | [.string "plugins", .string id] => some (.inr id)
                | _ => none
              let keysAmong (known : List String) : Bool :=
                members.all fun entry => known.contains entry.1
              match target with
              | none => .error
                  "settings mutations require one supported capability or plugin path"
              | some target =>
                  if op = "set" then
                    if !keysAmong ["op", "path", "value"] then
                      .error "settings set mutation contains an unknown field"
                    else
                      match operation.get "value" |>.bind Value.asBool with
                      | none => .error "settings capability values must be booleans"
                      | some value =>
                          .ok (match target with
                            | .inl setting => .inl (.set setting value)
                            | .inr id => .inr (.set id value))
                  else if op = "unset" then
                    if !keysAmong ["op", "path"] then
                      .error "settings unset mutation contains an unknown field"
                    else
                      .ok (match target with
                        | .inl setting => .inl (.unset setting)
                        | .inr id => .inr (.unset id))
                  else .error "settings mutation op must be set or unset"
  | _ => .error "each settings mutation must be an object"

/-- `settings_edits`. -/
def settingsEdits (payload : Value) : Except String StoreOperation :=
  match payload.get "ops" |>.bind Value.asArray with
  | none => .error "settings.mutate requires an ops array"
  | some operations => do
      refuseIf (operations.length > maxSettingsMutations)
        ("settings.mutate accepts at most " ++ toString maxSettingsMutations ++ " operations")
      let edits ← operations.mapM settingsEdit
      let capabilities := edits.filterMap fun edit => edit.getLeft?
      let plugins := edits.filterMap fun edit => edit.getRight?
      match capabilities, plugins with
      | _ :: _, [] => return .mutate capabilities
      | [], _ :: _ => return .mutatePlugins plugins
      | _, _ => throw "settings mutations cannot mix capability and plugin paths"

/-- The operation that a request asks for by its method. -/
def settingsWrite (method : String) (payload : Value) : Except Stop StoreOperation :=
  if method = settingsUpdateMethod then
    readSection payload "settings.update" "patch" .update .updatePlugins
  else if method = settingsReplaceMethod then
    readSection payload "settings.replace" "section" .replace .replacePlugins
  else
    match settingsEdits payload with
    | .ok operation => .ok operation
    | .error message => invalidPayload message "ops"

/-- `dispatch_settings_update`, `dispatch_settings_replace` and `dispatch_settings_mutate`. -/
def dispatchSettingsWrite (method : String) (payload : Value) : Handler ω σ Value := do
  .ofExcept (validateSettingsNamespace payload)
  validateSettingsChangeAllowed
  let operation ← .ofExcept (settingsWrite method payload)
  match expectedRevision payload with
  | .error () =>
      .ofExcept
        (invalidPayload "expectedRevision must be a non-negative integer" "expectedRevision")
  | .ok revision => do
      let previous ← captureSettingsSnapshot backend
      let result ← useSettings backend fun writer =>
        CapabilitySettingsStore.perform writer operation revision
      finishSettingsWrite backend previous result

end Web
end YunXi
