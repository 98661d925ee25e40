import YunXi.CordisRuntime.Manifest
import Mathlib.Logic.Function.Basic

/-!
# The plugin runtime

The runtime keeps one record for each definition of its registry and the switches
the user has set.  A plugin is mounted in the root context and its fiber is kept in
its record.  Factories, plugins and disposers are user code; they and the scopes they
work on are a parameter, and may do anything that user code can do to the root.
-/

namespace YunXi
namespace Runtime

open Fallible
open CordisCore

def maxFailureMessageBytes : Nat := 1024
def maxMountAttempts : Nat := 255

/-- `bounded_message`. -/
def boundedMessage (message : String) : String := bounded maxFailureMessageBytes message

inductive FailurePhase
  | factory
  | identity
  | mount
  | unmount
  deriving DecidableEq, Repr

structure FailureInfo where
  phase : FailurePhase
  message : String
  attempts : Nat
  deriving DecidableEq, Repr

structure PluginRecord where
  enabled : Bool
  lifecycle : PluginRuntimeState
  fiber : Option FiberId
  fiberState : Option FiberState
  failure : Option FailureInfo
  mountAttempts : Nat
  deriving DecidableEq, Repr

/-- `PluginRecord::new`. -/
def PluginRecord.new (manifest : PluginManifest) : PluginRecord where
  enabled := manifest.defaultEnabled
  lifecycle := if manifest.defaultEnabled then .pending else .disabled
  fiber := none
  fiberState := none
  failure := none
  mountAttempts := 0

/-- The root context and all else that plugins can reach, between two calls.  A call
that disposes a context returns only when the context is disposed. -/
structure Root (σ : Type) where
  state : ScopeState
  outside : σ
  settled : state ≠ .disposing

/-- What factories, plugins and their disposers do.  A factory and `Plugin::id` panic
where they give nothing; `mount` and `unmount` are the calls on the root context, with
the panics they catch among their errors. -/
structure PluginHost (σ π : Type) where
  instantiate : PluginFactory → Root σ → Option π × Root σ
  identity : π → Root σ → Option String × Root σ
  mount : String → π → Root σ → Except CordisError FiberId × Root σ
  unmount : FiberId → Root σ → Except CordisError Unit × Root σ
  dropFiber : FiberId → Root σ → Root σ
  runDisposers : σ → Option CordisError × σ

variable {σ π : Type}

variable (host : PluginHost σ π)

/-- `Context::dispose` on the root: the first error of what it disposes. -/
def Root.dispose (root : Root σ) : Option CordisError × Root σ :=
  match root.state with
  | .active =>
      ((host.runDisposers root.outside).1,
        ⟨.disposed, (host.runDisposers root.outside).2, by decide⟩)
  | .disposing | .disposed => (none, root)

/-- `CordisRuntime`, with records kept by definition and switches by id. -/
structure CordisRuntime (σ : Type) where
  root : Root σ
  records : PluginDefinition → PluginRecord
  overrides : String → Option Bool
  started : Bool
  closed : Bool

structure StartupFailure where
  pluginId : String
  required : Bool
  failure : FailureInfo
  deriving DecidableEq, Repr

structure StartupReport where
  activated : List String
  skipped : List String
  failures : List StartupFailure
  deriving DecidableEq, Repr

namespace CordisRuntime

/-- `CordisRuntime::new`. -/
def new (outside : σ) : CordisRuntime σ where
  root := ⟨.active, outside, by decide⟩
  records := fun definition => PluginRecord.new definition.manifest
  overrides := fun _ => none
  started := false
  closed := false

/-- Change the record of a definition. -/
def update (runtime : CordisRuntime σ) (definition : PluginDefinition)
    (change : PluginRecord → PluginRecord) : CordisRuntime σ :=
  { runtime with
    records := Function.update runtime.records definition
      (change (runtime.records definition)) }

/-- Set or clear the switch of an id. -/
def override (runtime : CordisRuntime σ) (pluginId : String) (value : Option Bool) :
    CordisRuntime σ :=
  { runtime with overrides := Function.update runtime.overrides pluginId value }

/-- `effective_enabled`. -/
def effectiveEnabled (runtime : CordisRuntime σ) (manifest : PluginManifest) : Bool :=
  if manifest.role.isRequired then true
  else (runtime.overrides manifest.id).getD manifest.defaultEnabled

/-- `has_fiber`. -/
def hasFiber (runtime : CordisRuntime σ) (definition : PluginDefinition) : Bool :=
  (runtime.records definition).fiber.isSome

end CordisRuntime

namespace PluginRecord

variable (record : PluginRecord)

/-- `deactivate_without_mount`. -/
def deactivateWithoutMount : PluginRecord :=
  { record with
    enabled := false
    lifecycle := .disabled
    failure := none
    mountAttempts := 0
    fiberState := if record.fiber.isNone then none else record.fiberState }

/-- `reset_for_manual_mount`. -/
def resetForManualMount : PluginRecord :=
  { record with
    failure := none
    mountAttempts := 0
    fiberState := none
    lifecycle := .pending }

/-- `defer_missing_dependency`. -/
def deferMissingDependency : PluginRecord :=
  { record with
    lifecycle := .pending
    fiberState := none
    failure := none
    mountAttempts := 0 }

/-- Enabling before startup, in `set_enabled` and in `clear_override`. -/
def enableBeforeStart : PluginRecord :=
  { record with
    enabled := true
    failure := none
    mountAttempts := 0
    lifecycle := if record.fiber.isSome then .mounted else .pending
    fiberState := if record.fiber.isSome then record.fiberState else none }

/-- The beginning of `mount_index`. -/
def beginMount : PluginRecord :=
  { record with
    enabled := true
    lifecycle := .mounting
    fiberState := some .mounting
    failure := none
    mountAttempts := min (record.mountAttempts + 1) maxMountAttempts }

/-- The successful end of `mount_index`. -/
def finishMount (fiber : FiberId) (record : PluginRecord) : PluginRecord :=
  { record with
    lifecycle := .mounted
    fiberState := some .mounted
    failure := none
    mountAttempts := 0
    fiber := some fiber }

/-- `record_failure`. -/
def recordFailure (phase : FailurePhase) (message : String) (record : PluginRecord) :
    PluginRecord :=
  { record with
    lifecycle := .failed
    fiberState :=
      match phase with
      | .factory | .identity => none
      | .mount => some .failed
      | .unmount => some .unmounted
    failure := some ⟨phase, boundedMessage message, max record.mountAttempts 1⟩ }

/-- `unmount_index` on a record without a fiber. -/
def disable : PluginRecord :=
  { record with
    enabled := false
    lifecycle := .disabled
    failure := none
    mountAttempts := 0
    fiberState := none }

/-- `unmount_index` before it calls the fiber. -/
def beginUnmount : PluginRecord :=
  { record with lifecycle := .unmounting, fiberState := some .unmounting }

/-- `unmount_index` after the fiber came back. -/
def finishUnmount (failed : Option RuntimeError) (record : PluginRecord) : PluginRecord :=
  { record with
    fiber := none
    enabled := false
    lifecycle := .disabled
    fiberState := some .unmounted
    mountAttempts := 0
    failure := failed.map fun error => ⟨.unmount, boundedMessage error.display, 1⟩ }

end PluginRecord

/-- Programs of the runtime. -/
abbrev RuntimeM (σ α : Type) := Fallible (CordisRuntime σ) RuntimeError α

/-- Call user code, which may change the root. -/
def onRoot {α : Type} (call : Root σ → α × Root σ) : RuntimeM σ α :=
  ofFunction fun runtime =>
    (.ok (call runtime.root).1, { runtime with root := (call runtime.root).2 })

variable (definition : PluginDefinition)

/-- Change the record of a definition. -/
def changeRecord (change : PluginRecord → PluginRecord) :
    RuntimeM σ Unit :=
  modify fun runtime => runtime.update definition change

/-- The result of a program as a value. -/
def caught {α : Type} (program : RuntimeM σ α) : RuntimeM σ (Except RuntimeError α) :=
  Fallible.attempt id (fun final _ => final) program

/-- Record why a mount failed and return the error. -/
def failMount {α : Type} (phase : FailurePhase)
    (error : RuntimeError) : RuntimeM σ α := do
  changeRecord definition (PluginRecord.recordFailure phase error.display)
  throw error

/-- `mount_index` after the factory, the identity check and the call on the root. -/
def endMount : Except CordisError FiberId → RuntimeM σ FiberId
  | .ok fiber => do
      changeRecord definition (PluginRecord.finishMount fiber)
      return fiber
  | .error cause => failMount definition .mount (.pluginMountFailed definition.id cause)

/-- `mount_index` with a plugin that has told its id. -/
def mountIdentified (plugin : π) :
    Option String → RuntimeM σ FiberId
  | none => failMount definition .identity (.pluginIdentityPanicked definition.id)
  | some actualId =>
      if actualId ≠ definition.id then
        failMount definition .identity
          (.pluginIdentityMismatch definition.id (boundedMessage actualId))
      else do
        let result ← onRoot (host.mount definition.id plugin)
        endMount definition result

/-- `mount_index` after the factory. -/
def mountInstance : Option π → RuntimeM σ FiberId
  | none => failMount definition .factory (.pluginFactoryPanicked definition.id)
  | some plugin => do
      let actualId ← onRoot (host.identity plugin)
      mountIdentified host definition plugin actualId

/-- `mount_index`. -/
def mountIndex : RuntimeM σ FiberId := do
  let runtime ← get
  throwIf (runtime.hasFiber definition = true)
    (.invalidPluginState definition.id (runtime.records definition).lifecycle "mount")
  changeRecord definition PluginRecord.beginMount
  let plugin ← onRoot (host.instantiate definition.factory)
  mountInstance host definition plugin

/-- The error `unmount_index` makes of a fiber's. -/
def unmountError : Except CordisError Unit → Option RuntimeError
  | .ok () => none
  | .error cause => some (.pluginUnmountFailed definition.id cause)

/-- `unmount_index` on a fiber.  The removed fiber is dropped when the function returns. -/
def unmountFiber (fiber : FiberId) :
    RuntimeM σ Unit := do
  changeRecord definition PluginRecord.beginUnmount
  let result ← onRoot (host.unmount fiber)
  changeRecord definition (PluginRecord.finishUnmount (unmountError definition result))
  onRoot fun root => ((), host.dropFiber fiber root)
  Fallible.ofExcept ((unmountError definition result).elim (.ok ()) .error)

/-- `unmount_index`. -/
def unmountIndex (allowRequired : Bool) : RuntimeM σ Unit := do
  throwIf (allowRequired = false ∧ definition.manifest.role.isRequired = true)
    (.corePluginCannotDisable definition.id definition.manifest.role)
  let runtime ← get
  match (runtime.records definition).fiber with
  | none => changeRecord definition PluginRecord.disable
  | some fiber => unmountFiber host definition fiber

/-- `is_missing_dependency`. -/
def isMissingDependency : RuntimeError → Bool
  | .pluginMountFailed _ (.missingDependency _ _) => true
  | _ => false

/-- What `start_default` has gathered: its report and the first error of a required
plugin. -/
structure Startup where
  report : StartupReport
  requiredError : Option RuntimeError

variable (startup : Startup)

namespace Startup

def activate (definition : PluginDefinition) : Startup :=
  { startup with report := { startup.report with
      activated := startup.report.activated ++ [definition.id] } }

def skip (definition : PluginDefinition) : Startup :=
  { startup with report := { startup.report with
      skipped := startup.report.skipped ++ [definition.id] } }

/-- Report a failure with what the record keeps of it. -/
def fail (definition : PluginDefinition) (phase : FailurePhase)
    (error : RuntimeError) (record : PluginRecord) : Startup :=
  { startup with report := { startup.report with
      failures := startup.report.failures ++ [⟨definition.id,
        definition.manifest.role.isRequired,
        record.failure.getD ⟨phase, boundedMessage error.display, 1⟩⟩] } }

/-- Keep the error of a required plugin if it is the first. -/
def require (definition : PluginDefinition) (error : RuntimeError) :
    Startup :=
  { startup with
    requiredError := startup.requiredError.or
      (if definition.manifest.role.isRequired then some error else none) }

end Startup

/-- `start_default` on a plugin that is switched off. -/
def switchOff : RuntimeM σ Startup := do
  let runtime ← get
  let result ← if runtime.hasFiber definition then caught (unmountIndex host definition false)
    else pure (.ok ())
  match result with
  | .error error =>
      let runtime ← get
      return startup.fail definition .unmount error (runtime.records definition)
  | .ok () =>
      changeRecord definition PluginRecord.deactivateWithoutMount
      return startup.skip definition

/-- The first loop of `start_default`, which also gives the plugins to mount. -/
def sortOut (host : PluginHost σ π) :
    List PluginDefinition → Startup → RuntimeM σ (Startup × List PluginDefinition)
  | [], startup => return (startup, [])
  | definition :: rest, startup => do
      let runtime ← get
      if runtime.effectiveEnabled definition.manifest = false then
        let startup ← switchOff host definition startup
        sortOut host rest startup
      else if runtime.hasFiber definition then
        sortOut host rest (startup.activate definition)
      else
        let (startup, pending) ← sortOut host rest startup
        return (startup, definition :: pending)

/-- A turn of the loop over the pending plugins; a plugin that has to wait is deferred
with its error. -/
structure Pass where
  startup : Startup
  next : List (PluginDefinition × RuntimeError)
  mounted : Bool

/-- What a turn makes of the result of `mount_index`. -/
def afterMount (pass : Pass) :
    Except RuntimeError FiberId → RuntimeM σ Pass
  | .ok _ => return { pass with startup := pass.startup.activate definition, mounted := true }
  | .error error =>
      if isMissingDependency error then do
        changeRecord definition PluginRecord.deferMissingDependency
        return { pass with next := pass.next ++ [(definition, error)] }
      else do
        let runtime ← get
        return { pass with
          startup := (pass.startup.require definition error).fail definition .mount error
            (runtime.records definition) }

/-- One pass over the pending plugins. -/
def mountPass (host : PluginHost σ π) : List PluginDefinition → Pass → RuntimeM σ Pass
  | [], pass => return pass
  | definition :: rest, pass => do
      let result ← caught (mountIndex host definition)
      let pass ← afterMount definition pass result
      mountPass host rest pass

/-- Give up on plugins that wait for services nobody provides. -/
def abandon : List (PluginDefinition × RuntimeError) → Startup → RuntimeM σ Startup
  | [], startup => return startup
  | (definition, error) :: rest, startup => do
      changeRecord definition (PluginRecord.recordFailure .mount error.display)
      let runtime ← get
      abandon rest ((startup.require definition error).fail definition .mount error
        (runtime.records definition))

/-- The second loop of `start_default`.  A pass that goes on has mounted a plugin, so
as many rounds as plugins are enough. -/
def mountRounds (host : PluginHost σ π) :
    Nat → List PluginDefinition → Startup → RuntimeM σ Startup
  | 0, _, startup => return startup
  | rounds + 1, pending, startup => do
      let pass ← mountPass host pending ⟨startup, [], false⟩
      if pass.mounted then mountRounds host rounds (pass.next.map Prod.fst) pass.startup
      else abandon pass.next pass.startup

/-- `ensure_open`. -/
def ensureOpen (operation : String) : RuntimeM σ Unit := do
  let runtime ← get
  throwIf (runtime.closed = true) (.runtimeClosed operation)

variable (registry : PluginRegistry)

variable (host : PluginHost σ π)

/-- `start_default`. -/
def startDefault : RuntimeM σ StartupReport := do
  ensureOpen "start"
  modify fun runtime => { runtime with started := true }
  let (startup, pending) ← sortOut host registry.definitions ⟨⟨[], [], []⟩, none⟩
  let startup ← mountRounds host pending.length pending startup
  Fallible.ofExcept (startup.requiredError.elim (.ok startup.report) .error)

/-- `mount`. -/
def mount (registry : PluginRegistry) (host : PluginHost σ π) (pluginId : String) :
    RuntimeM σ FiberId := do
  ensureOpen "mount"
  let definition ← Fallible.ofExcept (registry.definitionOf pluginId)
  if definition.manifest.role.isRequired = false then
    modify fun runtime => runtime.override pluginId (some true)
  let runtime ← get
  if runtime.hasFiber definition = false then
    changeRecord definition PluginRecord.resetForManualMount
  mountIndex host definition

/-- Enable a plugin before startup, or switch it off. -/
def applyBeforeStart (definition : PluginDefinition) (enabled : Bool) :
    RuntimeM σ Unit := do
  if enabled then changeRecord definition PluginRecord.enableBeforeStart
  else
    let runtime ← get
    if runtime.hasFiber definition then unmountIndex host definition false
    else changeRecord definition PluginRecord.deactivateWithoutMount

variable (pluginId : String)

/-- `set_enabled`. -/
def setEnabled (enabled : Bool) : RuntimeM σ Unit := do
  ensureOpen "change plugin state"
  let definition ← Fallible.ofExcept (registry.definitionOf pluginId)
  throwIf (enabled = false ∧ definition.manifest.role.isRequired = true)
    (.corePluginCannotDisable pluginId definition.manifest.role)
  modify fun runtime => runtime.override pluginId (some enabled)
  let runtime ← get
  if runtime.started = false then applyBeforeStart host definition enabled
  else if enabled then
    if runtime.hasFiber definition then return
    else
      changeRecord definition PluginRecord.resetForManualMount
      discard (mountIndex host definition)
  else unmountIndex host definition false

/-- `disable`. -/
def disable : RuntimeM σ Unit :=
  setEnabled registry host pluginId false

/-- `enable`. -/
def enable : RuntimeM σ Unit :=
  setEnabled registry host pluginId true

/-- `unmount`. -/
def unmount : RuntimeM σ Unit :=
  disable registry host pluginId

/-- `clear_override`. -/
def clearOverride : RuntimeM σ Unit := do
  ensureOpen "clear plugin override"
  let definition ← Fallible.ofExcept (registry.definitionOf pluginId)
  modify fun runtime => runtime.override pluginId none
  if definition.manifest.role.isRequired then return
  else
    let runtime ← get
    if runtime.started = false then
      applyBeforeStart host definition definition.manifest.defaultEnabled
    else if definition.manifest.defaultEnabled then
      if runtime.hasFiber definition then return
      else discard (mountIndex host definition)
    else unmountIndex host definition false

/-- The loop of `shutdown`, which keeps the first error. -/
def stopAll (host : PluginHost σ π) :
    List PluginDefinition → Option RuntimeError → RuntimeM σ (Option RuntimeError)
  | [], first => return first
  | definition :: rest, first => do
      let runtime ← get
      if runtime.hasFiber definition then
        let result ← caught (unmountIndex host definition true)
        match result with
        | .ok () => stopAll host rest first
        | .error error => stopAll host rest (first.or (some error))
      else
        changeRecord definition PluginRecord.deactivateWithoutMount
        stopAll host rest first

/-- `shutdown`. -/
def shutdown : RuntimeM σ Unit := do
  let runtime ← get
  if runtime.closed then return
  else
    let first ← stopAll host registry.definitions.reverse none
    let failed ← onRoot (Root.dispose host)
    modify fun runtime => { runtime with started := false, closed := true }
    Fallible.ofExcept
      ((first.or (failed.map RuntimeError.rootContextFailed)).elim (.ok ()) .error)

/-- A call of one of the functions that change the runtime. -/
inductive Operation
  | startDefault
  | mount (pluginId : String)
  | enable (pluginId : String)
  | disable (pluginId : String)
  | setEnabled (pluginId : String) (enabled : Bool)
  | unmount (pluginId : String)
  | clearOverride (pluginId : String)
  | shutdown
  deriving DecidableEq, Repr

/-- Call the function. -/
def perform : Operation → RuntimeM σ Unit
  | .startDefault => discard (startDefault registry host)
  | .mount pluginId => discard (mount registry host pluginId)
  | .enable pluginId => enable registry host pluginId
  | .disable pluginId => disable registry host pluginId
  | .setEnabled pluginId enabled => setEnabled registry host pluginId enabled
  | .unmount pluginId => unmount registry host pluginId
  | .clearOverride pluginId => clearOverride registry host pluginId
  | .shutdown => shutdown registry host

/-- The runtime after a call, which may have failed. -/
def step (runtime : CordisRuntime σ)
    (operation : Operation) : CordisRuntime σ :=
  ((perform registry host operation).exec runtime).2

end Runtime
end YunXi
