import YunXi.CordisCore.Error

/-!
# Manifests, the static registry and runtime errors

A manifest says which role a plugin plays and whether it starts by default.  The
registry is a checked table of definitions: its size is bounded, every manifest is
valid and no id is given twice.
-/

namespace YunXi
namespace Runtime

open CordisCore

def maxDisplayNameBytes : Nat := 128
def maxStaticPlugins : Nat := 256

inductive PluginRole
  | core
  | agentSpine
  | optional
  deriving DecidableEq, Repr

inductive PluginRisk
  | safe
  | external
  deriving DecidableEq, Repr

inductive DefaultEnablement
  | always
  | safe
  | never
  deriving DecidableEq, Repr

/-- `is_required`: the user cannot disable the plugin. -/
def PluginRole.isRequired : PluginRole → Bool
  | core | agentSpine => true
  | optional => false

def PluginRole.display : PluginRole → String
  | core => "core"
  | agentSpine => "agent-spine"
  | optional => "optional"

def PluginRisk.display : PluginRisk → String
  | safe => "safe"
  | external => "external"

def DefaultEnablement.display : DefaultEnablement → String
  | always => "always"
  | safe => "safe"
  | never => "never"

/-- `resolves_to_enabled`. -/
def DefaultEnablement.resolvesToEnabled (enablement : DefaultEnablement)
    (role : PluginRole) (risk : PluginRisk) : Bool :=
  match role with
  | .core | .agentSpine => true
  | .optional =>
      match enablement with
      | always => true
      | safe => risk == .safe
      | never => false

inductive ManifestError
  | emptyId
  | idTooLong (length maximum : Nat)
  | invalidIdCharacter (index : Nat) (character : Char)
  | emptyDisplayName
  | displayNameTooLong (length maximum : Nat)
  | invalidDisplayNameCharacter
  | invalidDefaultPolicy (role : PluginRole) (risk : PluginRisk)
      (defaultEnablement : DefaultEnablement)
  deriving DecidableEq, Repr

def ManifestError.display : ManifestError → String
  | emptyId => "plugin id cannot be empty"
  | idTooLong length maximum =>
      "plugin id is " ++ toString length ++ " bytes; maximum is " ++ toString maximum
  | invalidIdCharacter index character =>
      "plugin id contains unsupported character `" ++ String.ofList [character] ++
        "` at byte " ++ toString index
  | emptyDisplayName => "plugin display name cannot be empty"
  | displayNameTooLong length maximum =>
      "plugin display name is " ++ toString length ++ " bytes; maximum is " ++
        toString maximum
  | invalidDisplayNameCharacter => "plugin display name contains a control character"
  | invalidDefaultPolicy role risk defaultEnablement =>
      "invalid default policy " ++ defaultEnablement.display ++ " for " ++ role.display ++
        "/" ++ risk.display ++ " plugin"

structure PluginManifest where
  id : String
  displayName : String
  role : PluginRole
  risk : PluginRisk
  defaultEnablement : DefaultEnablement
  deriving DecidableEq, Repr

/-- `validate_id`. -/
def validateId (id : String) : Except ManifestError Unit :=
  if id.isEmpty then .error .emptyId
  else if maxPluginIdBytes < id.utf8ByteSize then
    .error (.idTooLong id.utf8ByteSize maxPluginIdBytes)
  else
    match Protocol.firstRejected pluginIdCharacter 0 id.toList with
    | some (index, character) => .error (.invalidIdCharacter index character)
    | none => .ok ()

namespace PluginManifest

/-- `default_enabled`. -/
def defaultEnabled (manifest : PluginManifest) : Bool :=
  manifest.defaultEnablement.resolvesToEnabled manifest.role manifest.risk

/-- The default fits the role and the risk. -/
def validPolicy (manifest : PluginManifest) : Bool :=
  match manifest.role with
  | .core | .agentSpine => manifest.defaultEnablement == .always
  | .optional =>
      manifest.defaultEnablement != .always &&
        !(manifest.risk == .external && manifest.defaultEnablement == .safe)

/-- `PluginManifest::validate`. -/
def validate (manifest : PluginManifest) : Except ManifestError Unit := do
  validateId manifest.id
  if Protocol.isBlank manifest.displayName then throw .emptyDisplayName
  else if maxDisplayNameBytes < manifest.displayName.utf8ByteSize then
    throw (.displayNameTooLong manifest.displayName.utf8ByteSize maxDisplayNameBytes)
  else if manifest.displayName.toList.any isControl then throw .invalidDisplayNameCharacter
  else if !manifest.validPolicy then
    throw (.invalidDefaultPolicy manifest.role manifest.risk manifest.defaultEnablement)

end PluginManifest

/-- Lifecycle of a registered plugin. -/
inductive PluginRuntimeState
  | disabled
  | pending
  | mounting
  | mounted
  | failed
  | unmounting
  deriving DecidableEq, Repr

def PluginRuntimeState.display : PluginRuntimeState → String
  | disabled => "disabled"
  | pending => "pending"
  | mounting => "mounting"
  | mounted => "mounted"
  | failed => "failed"
  | unmounting => "unmounting"

inductive RuntimeError
  | registryTooLarge (count maximum : Nat)
  | duplicatePluginRegistration (pluginId : String)
  | invalidManifest (pluginId : String) (source : ManifestError)
  | unknownPlugin (pluginId : String)
  | runtimeClosed (operation : String)
  | corePluginCannotDisable (pluginId : String) (role : PluginRole)
  | invalidPluginState (pluginId : String) (state : PluginRuntimeState) (operation : String)
  | pluginFactoryPanicked (pluginId : String)
  | pluginIdentityPanicked (pluginId : String)
  | pluginIdentityMismatch (expected actual : String)
  | pluginMountFailed (pluginId : String) (cause : CordisError)
  | pluginUnmountFailed (pluginId : String) (cause : CordisError)
  | rootContextFailed (cause : CordisError)
  deriving DecidableEq

def RuntimeError.display : RuntimeError → String
  | registryTooLarge count maximum =>
      "static plugin registry has " ++ toString count ++ " entries; maximum is " ++
        toString maximum
  | duplicatePluginRegistration pluginId =>
      "plugin `" ++ pluginId ++ "` is registered more than once"
  | invalidManifest pluginId source =>
      "manifest for `" ++ pluginId ++ "` is invalid: " ++ source.display
  | unknownPlugin pluginId => "plugin `" ++ pluginId ++ "` is not in the static registry"
  | runtimeClosed operation => "cannot " ++ operation ++ ": Cordis runtime is closed"
  | corePluginCannotDisable pluginId role =>
      "cannot disable " ++ role.display ++ " plugin `" ++ pluginId ++
        "` while the runtime is running"
  | invalidPluginState pluginId state operation =>
      "plugin `" ++ pluginId ++ "` cannot " ++ operation ++ " while it is " ++ state.display
  | pluginFactoryPanicked pluginId => "factory for plugin `" ++ pluginId ++ "` panicked"
  | pluginIdentityPanicked pluginId =>
      "identity lookup for plugin `" ++ pluginId ++ "` panicked"
  | pluginIdentityMismatch expected actual =>
      "plugin factory identity mismatch: expected `" ++ expected ++ "`, got `" ++ actual ++ "`"
  | pluginMountFailed pluginId cause =>
      "plugin `" ++ pluginId ++ "` failed to mount: " ++ cause.display
  | pluginUnmountFailed pluginId cause =>
      "plugin `" ++ pluginId ++ "` failed to unmount: " ++ cause.display
  | rootContextFailed cause => "root context operation failed: " ++ cause.display

/-- Cut a text to a bound in bytes and mark the cut with dots. -/
def bounded (maximum : Nat) (text : String) : String :=
  if text.utf8ByteSize ≤ maximum then text
  else Protocol.truncate text (maximum - 3) ++ "..."

/-- `bounded_plugin_id`. -/
def boundedPluginId (pluginId : String) : String := bounded maxPluginIdBytes pluginId

/-- A function pointer that builds a plugin. -/
abbrev PluginFactory := Nat

structure PluginDefinition where
  manifest : PluginManifest
  factory : PluginFactory
  deriving DecidableEq, Repr

/-- `PluginDefinition::id`. -/
def PluginDefinition.id (definition : PluginDefinition) : String :=
  definition.manifest.id

/-- `PluginDefinition::validate`. -/
def PluginDefinition.validate (definition : PluginDefinition) : Except RuntimeError Unit :=
  definition.manifest.validate.mapError (RuntimeError.invalidManifest definition.id)

/-- The loop of `PluginRegistry::new`, with the ids indexed so far. -/
def checkDefinitions : List String → List PluginDefinition → Except RuntimeError Unit
  | _, [] => .ok ()
  | indexed, definition :: rest => do
      definition.validate
      if definition.id ∈ indexed then
        throw (.duplicatePluginRegistration definition.id)
      else checkDefinitions (definition.id :: indexed) rest

/-- A definition table that passed the checks of `PluginRegistry::new`. -/
structure PluginRegistry where
  definitions : List PluginDefinition
  fits : definitions.length ≤ maxStaticPlugins
  checked : checkDefinitions [] definitions = .ok ()

/-- Definitions that pass the loop have valid manifests and ids of their own. -/
theorem checkDefinitions_eq_ok {indexed : List String} {definitions : List PluginDefinition}
    (checked : checkDefinitions indexed definitions = .ok ()) :
    (∀ definition ∈ definitions, definition.manifest.validate = .ok ()) ∧
      (definitions.map PluginDefinition.id).Nodup ∧
      ∀ definition ∈ definitions, definition.id ∉ indexed := by
  induction definitions generalizing indexed with
  | nil => simp
  | cons definition rest ih =>
      unfold checkDefinitions at checked
      cases valid : definition.manifest.validate with
      | error error =>
          rw [PluginDefinition.validate, valid] at checked
          cases checked
      | ok _ =>
          rw [PluginDefinition.validate, valid] at checked
          change (if definition.id ∈ indexed then _ else _) = _ at checked
          split at checked
          case isTrue => cases checked
          case isFalse fresh =>
              obtain ⟨validRest, distinct, freshRest⟩ := ih checked
              refine ⟨?_, ?_, ?_⟩
              · exact List.forall_mem_cons.mpr ⟨valid, validRest⟩
              · refine List.nodup_cons.mpr ⟨?_, distinct⟩
                intro repeated
                obtain ⟨other, member, same⟩ := List.mem_map.mp repeated
                apply freshRest other member
                simp [same]
              · refine List.forall_mem_cons.mpr ⟨fresh, ?_⟩
                intro other member found
                exact freshRest other member (List.mem_cons_of_mem _ found)

namespace PluginRegistry

/-- No two definitions of a registry share an id. -/
theorem nodup_ids (registry : PluginRegistry) :
    (registry.definitions.map PluginDefinition.id).Nodup :=
  (checkDefinitions_eq_ok registry.checked).2.1

/-- Definitions of a registry with one id are one definition. -/
theorem eq_of_id_eq (registry : PluginRegistry) {left right : PluginDefinition}
    (leftMember : left ∈ registry.definitions) (rightMember : right ∈ registry.definitions)
    (same : left.id = right.id) :
    left = right :=
  List.inj_on_of_nodup_map registry.nodup_ids leftMember rightMember same

/-- `index_of` with `definition_at`: the definition of an id. -/
def definitionOf (registry : PluginRegistry) (pluginId : String) :
    Except RuntimeError PluginDefinition :=
  match registry.definitions.find? (·.id == pluginId) with
  | some definition => .ok definition
  | none => .error (.unknownPlugin (boundedPluginId pluginId))

theorem definitionOf_eq_ok {registry : PluginRegistry} {pluginId : String}
    {definition : PluginDefinition}
    (found : registry.definitionOf pluginId = .ok definition) :
    definition ∈ registry.definitions ∧ definition.id = pluginId := by
  unfold definitionOf at found
  cases located : registry.definitions.find? (·.id == pluginId) with
  | none => simp [located] at found
  | some other =>
      simp only [located, Except.ok.injEq] at found
      subst found
      exact ⟨List.mem_of_find?_eq_some located, by
        simpa using List.find?_some located⟩

end PluginRegistry
end Runtime
end YunXi
