import YunXi.CordisCore.Error
import YunXi.Program.Checked
import YunXi.Program.Run
import YunXi.Program.SortedMap

/-!
# Contexts

A context is a scope with services, effects and the plugins mounted in it; a child keeps
its parent, and a service is looked up from a scope to its root.  Plugins and the disposers
of effects are code of others: while a scope is mounted or disposed they may apply any
operation to any context they hold, and so may whoever calls them.  Such code is a script
here, which goes on with what its calls return.
-/

namespace YunXi
namespace CordisCore

/-- Stands for a context: the place of its inner part among all that were made. -/
abbrev ContextRef := Nat

/-- Stands for a fiber: the place of its record among all that were made. -/
abbrev FiberRef := Nat

/-- `TypeId::of::<T>()` with `type_name::<T>()`, as for the payloads of events. -/
abbrev ServiceType := PayloadType

structure ServiceKey where
  name : String
  type : ServiceType
  deriving DecidableEq

structure ServiceEntry (V : Type) where
  value : V
  type : ServiceType
  deriving DecidableEq

structure ServiceDependency where
  name : String
  required : Bool
  deriving DecidableEq

/-- What a call returns to the code that made it. -/
inductive Reply (V : Type)
  | unit (result : Except CordisError Unit)
  | context (result : Except CordisError ContextRef)
  | effect (result : Except CordisError EffectId)
  | fiber (result : Except CordisError FiberRef)
  | value (result : Except CordisError V)
  | flag (result : Except CordisError Bool)

mutual

/-- Code of others: it returns, panics, or calls an operation and goes on. -/
inductive Script (V : Type) : Type
  | finish (result : Except String Unit)
  | panic
  | call (operation : Operation V) (next : Reply V → Script V)

/-- The operations of contexts and fibers.  An effect comes with the id it was made with,
a plugin with its id, its dependencies (`none` when their declaration panics) and what it
does in its scope. -/
inductive Operation (V : Type) : Type
  | new
  | child (context : ContextRef)
  | provide (context : ContextRef) (key : ServiceKey) (value : V)
  | service (context : ContextRef) (key : ServiceKey)
  | hasService (context : ContextRef) (key : ServiceKey)
  | remove (context : ContextRef) (key : ServiceKey)
  | installEffect (context : ContextRef) (id : EffectId) (disposer : Script V)
  | disposeEffect (context : ContextRef) (id : EffectId)
  | mount (context : ContextRef) (id : String) (dependencies : Option (List ServiceDependency))
      (body : ContextRef → Script V)
  | unmount (fiber : FiberRef)
  | dropFiber (fiber : FiberRef)
  | dispose (context : ContextRef)

end

structure EffectRecord (V : Type) where
  effect : Option (Script V)
  state : EffectState

structure ContextData (V : Type) where
  state : ScopeState
  services : SortedMap String (ServiceEntry V)
  effects : SortedMap EffectId (EffectRecord V)
  fibers : SortedMap FiberRef Unit

/-- The inner part of a context.  `parents` are the contexts that following `parent` leads
to, the nearest first; the field never changes. -/
structure ContextInner (V : Type) where
  id : ScopeId
  parents : List ContextRef
  data : ContextData V

/-- The record of a fiber, with the context it was mounted in; `held` says that something
else than the weak entry of that context keeps the record. -/
structure FiberRecord where
  id : FiberId
  pluginId : PluginId
  scope : ContextRef
  parent : ContextRef
  state : FiberState
  held : Bool

/-- All contexts and fibers.  `calls` are the contexts that operations were applied
through, the oldest first; no operation reads them. -/
structure Contexts (V : Type) where
  scopes : List (ContextInner V)
  fibers : List FiberRecord
  calls : List ContextRef

/-- How an operation stops: with an error of its own, because code of others has not come
to an end yet, or at what safe code cannot reach, such as a context nobody made. -/
inductive Stop
  | failed (error : CordisError)
  | unfinished
  | unreachable
  deriving DecidableEq

/-- Programs on all contexts. -/
abbrev ContextM (V α : Type) := Fallible (Contexts V) Stop α

variable {V α : Type}

/-- Return what a program does: its value or its own error. -/
def catchError (program : ContextM V α) : ContextM V (Except CordisError α) :=
  Fallible.ofFunction fun contexts =>
    match program.exec contexts with
    | (.ok value, final) => (.ok (.ok value), final)
    | (.error (.failed error), final) => (.ok (.error error), final)
    | (.error stop, final) => (.error stop, final)

/-- Fail with the error of a check. -/
def lift (result : Except CordisError α) : ContextM V α :=
  Fallible.ofExcept (result.mapError .failed)

/-- Fail with an error. -/
def fail (error : CordisError) : ContextM V α := throw (.failed error)

namespace ContextData

/-- The data of a new context. -/
def new : ContextData V := ⟨.active, .empty, .empty, .empty⟩

end ContextData

variable (contexts : Contexts V)

variable (context : ContextRef)

variable (fiber : FiberRef)

namespace Contexts

/-- No context was made yet. -/
def start : Contexts V := ⟨[], [], []⟩

/-- The contexts above one. -/
def parents (contexts : Contexts V) (context : ContextRef) : List ContextRef :=
  (contexts.scopes[context]?).elim [] ContextInner.parents

/-- The contexts from one up to its root. -/
def path : List ContextRef :=
  context :: contexts.parents context

/-- Their inner parts. -/
def chain : List (ContextInner V) :=
  (contexts.path context).filterMap (contexts.scopes[·]?)

/-- A new context with the given ones above it. -/
def addScope (parents : List ContextRef) : Contexts V :=
  { contexts with scopes := contexts.scopes ++ [⟨contexts.scopes.length + 1, parents, .new⟩] }

def changeData (change : ContextData V → ContextData V) : Contexts V :=
  { contexts with
    scopes := contexts.scopes.modify context fun inner =>
      { inner with data := change inner.data } }

def addFiber (pluginId : PluginId) (scope parent : ContextRef) :
    Contexts V :=
  { contexts with
    fibers := contexts.fibers ++
      [⟨contexts.fibers.length + 1, pluginId, scope, parent, .mounting, true⟩] }

def setFiberState (state : FiberState) :
    Contexts V :=
  { contexts with
    fibers := contexts.fibers.modify fiber fun record => { record with state := state } }

/-- Nothing but the weak entry knows the record any more. -/
def release : Contexts V :=
  { contexts with
    fibers := contexts.fibers.modify fiber fun record => { record with held := false } }

end Contexts

/-- `ensure_active`. -/
def ensureActive (inner : ContextInner V) : Except CordisError Unit :=
  if inner.data.state = .active then .ok ()
  else .error (.contextClosed inner.id inner.data.state)

/-- `validate_service_name`. -/
def validateServiceName (name : String) : Except CordisError Unit :=
  if validName name then .ok () else .error (.invalidIdentifier .service name)

/-- The loop of `find_service`, over the inner parts from a context up to its root. -/
def findIn (name : String) : List (ContextInner V) → Except CordisError (ServiceEntry V)
  | [] => .error (.missingService name)
  | inner :: above => do
      ensureActive inner
      match inner.data.services.lookup? name with
      | some entry => return entry
      | none => findIn name above

/-- The loop of `has_service_name`. -/
def hasIn (name : String) : List (ContextInner V) → Except CordisError Bool
  | [] => .ok false
  | inner :: above => do
      ensureActive inner
      if (inner.data.services.lookup? name).isSome then return true
      else hasIn name above

namespace Contexts

/-- `find_service`. -/
def findService (name : String) :
    Except CordisError (ServiceEntry V) := do
  validateServiceName name
  findIn name (contexts.chain context)

/-- `has_service_name`. -/
def hasServiceName (name : String) :
    Except CordisError Bool := do
  validateServiceName name
  hasIn name (contexts.chain context)

/-- `service`.  An entry of the type asked for holds a value of it. -/
def service (key : ServiceKey) :
    Except CordisError V := do
  let entry ← contexts.findService context key.name
  if entry.type.id ≠ key.type.id then
    throw (.serviceTypeMismatch key.name key.type.name entry.type.name)
  else return entry.value

/-- `has_service`. -/
def hasService (key : ServiceKey) :
    Except CordisError Bool :=
  contexts.hasServiceName context key.name

end Contexts

/-- The inner part of a context. -/
def innerOf : ContextM V (ContextInner V) := do
  let contexts ← get
  match contexts.scopes[context]? with
  | some inner => return inner
  | none => throw .unreachable

/-- The record of a fiber. -/
def recordOf : ContextM V FiberRecord := do
  let contexts ← get
  match contexts.fibers[fiber]? with
  | some record => return record
  | none => throw .unreachable

namespace Context

/-- `ensure_hierarchy_active`. -/
def ensureHierarchyActive : ContextM V Unit := do
  let contexts ← get
  lift (checkAll ensureActive (contexts.chain context))

/-- `Context::new`. -/
def new : ContextM V ContextRef := do
  let contexts ← get
  modify fun contexts => contexts.addScope []
  return contexts.scopes.length

/-- `child`. -/
def child : ContextM V ContextRef := do
  let _ ← innerOf context
  ensureHierarchyActive context
  let contexts ← get
  modify fun contexts => contexts.addScope (contexts.path context)
  return contexts.scopes.length

/-- `provide`. -/
def provide (key : ServiceKey) (value : V) : ContextM V Unit := do
  lift (validateServiceName key.name)
  ensureHierarchyActive context
  let inner ← innerOf context
  if (inner.data.services.lookup? key.name).isSome then
    fail (.duplicateService inner.id key.name)
  else
    modify fun contexts => contexts.changeData context fun data =>
      { data with services := data.services.insert key.name ⟨value, key.type⟩ }

/-- `remove`. -/
def remove (key : ServiceKey) : ContextM V Unit := do
  lift (validateServiceName key.name)
  ensureHierarchyActive context
  let inner ← innerOf context
  match inner.data.services.lookup? key.name with
  | none => fail (.missingService key.name)
  | some entry =>
      if entry.type.id ≠ key.type.id then
        fail (.serviceTypeMismatch key.name key.type.name entry.type.name)
      else
        modify fun contexts => contexts.changeData context fun data =>
          { data with services := data.services.erase key.name }

end Context

/-- Give an effect a state, if it is still registered. -/
def ContextData.setEffect (data : ContextData V) (id : EffectId) (state : EffectState) :
    ContextData V :=
  match data.effects.lookup? id with
  | some record => { data with effects := data.effects.insert id { record with state := state } }
  | none => data

/-- The first error of several calls. -/
def firstError : Option CordisError → Except CordisError Unit → Option CordisError
  | some error, _ => some error
  | none, .error error => some error
  | none, .ok _ => none

/-- The state of an effect whose disposer has returned. -/
def settledState : Except String Unit → EffectState
  | .ok _ => .disposed
  | .error _ => .failed

/-- `install_effect`. -/
def Context.installEffect (id : EffectId) (disposer : Script V) :
    ContextM V EffectId := do
  let _ ← innerOf context
  Context.ensureHierarchyActive context
  modify fun contexts => contexts.changeData context fun data =>
    { data with effects := data.effects.insert id ⟨some disposer, .active⟩ }
  return id

section Foreign

/-! ## Operations that call code of others

`runCode` runs such code and says whether it has returned or panicked; `disposeScope` is
`dispose` for the scopes below. -/

variable (runCode : Script V → ContextM V (Option (Except String Unit)))
  (disposeScope : ContextRef → ContextM V Unit)

/-- `Effect::run`. -/
def runEffect (disposer : Script V) : ContextM V (Except String Unit) := do
  match ← runCode disposer with
  | some result => return result
  | none => return .error "effect disposer panicked"

/-- `dispose_effect`. -/
def Context.disposeEffect (context : ContextRef) (id : EffectId) : ContextM V Unit := do
  let inner ← innerOf context
  match inner.data.effects.lookup? id with
  | none => fail (.effectNotFound id)
  | some record =>
      if record.state ≠ .active then fail (.effectUnavailable id record.state)
      else
        match record.effect with
        | none => throw .unreachable
        | some disposer =>
            modify fun contexts => contexts.changeData context fun data =>
              { data with effects := data.effects.insert id ⟨none, .disposing⟩ }
            let result ← runEffect runCode disposer
            modify fun contexts => contexts.changeData context fun data =>
              data.setEffect id (settledState result)
            lift (result.mapError fun message => .disposerFailed id message)

/-- The loop of `dispose` over the fibers, with the first error. -/
def disposeFibers : List FiberRef → Option CordisError → ContextM V (Option CordisError)
  | [], first => return first
  | fiber :: rest, first => do
      let record ← recordOf fiber
      let result ← catchError (disposeScope record.scope)
      modify fun contexts => contexts.setFiberState fiber .unmounted
      disposeFibers rest (firstError first result)

/-- The loop of `dispose` over the effects, with the first error. -/
def disposeEffects (context : ContextRef) :
    List (EffectId × Script V) → Option CordisError → ContextM V (Option CordisError)
  | [], first => return first
  | (id, disposer) :: rest, first => do
      let result ← runEffect runCode disposer
      modify fun contexts => contexts.changeData context fun data =>
        data.setEffect id (settledState result)
      disposeEffects context rest
        (firstError first (result.mapError fun message => .disposerFailed id message))

/-- A fiber that `dispose` still finds. -/
def Contexts.held (contexts : Contexts V) (fiber : FiberRef) : Bool :=
  (contexts.fibers[fiber]?).any FiberRecord.held

/-- A fiber whose plugin is mounted, or is being mounted. -/
def FiberState.live : FiberState → Bool
  | mounting | mounted => true
  | failed | unmounting | unmounted => false

/-- The fibers that are unmounted when their context is disposed. -/
def Contexts.beginUnmounting (fibers : List FiberRef) : Contexts V :=
  fibers.foldl (fun contexts fiber =>
    if (contexts.fibers[fiber]?).any (·.state.live) then
      contexts.setFiberState fiber .unmounting
    else contexts) contexts

/-- The disposers of the active effects, the newest first. -/
def ContextData.activeEffects (data : ContextData V) : List (EffectId × Script V) :=
  data.effects.entries.reverse.filterMap fun entry =>
    if entry.2.state = .active then entry.2.effect.map fun disposer => (entry.1, disposer)
    else none

/-- What `dispose` marks before it calls anything. -/
def ContextData.beginDisposing (data : ContextData V) : ContextData V :=
  { data with
    state := .disposing
    effects := data.effects.map fun _ record =>
      if record.state = .active then ⟨none, .disposing⟩ else record }

/-- What `dispose` leaves. -/
def ContextData.disposed (data : ContextData V) : ContextData V :=
  { data with state := .disposed, services := .empty, fibers := .empty }

/-- `dispose`. -/
def Context.dispose (context : ContextRef) : ContextM V Unit := do
  let inner ← innerOf context
  match inner.data.state with
  | .disposed => return
  | .disposing => fail (.contextClosed inner.id .disposing)
  | .active =>
      let contexts ← get
      let fibers := inner.data.fibers.keys.filter contexts.held
      modify fun contexts => contexts.beginUnmounting fibers
      modify fun contexts => contexts.changeData context .beginDisposing
      let first ← disposeFibers disposeScope fibers none
      let first ← disposeEffects runCode context inner.data.activeEffects first
      modify fun contexts => contexts.changeData context .disposed
      match first with
      | some error => fail error
      | none => return

/-- `register_fiber`. -/
def Context.registerFiber : ContextM V Unit := do
  ensureHierarchyActive context
  let inner ← innerOf context
  let record ← recordOf fiber
  let contexts ← get
  if inner.data.fibers.keys.any fun other => (contexts.fibers[other]?).any fun existing =>
      existing.held && existing.pluginId == record.pluginId && existing.state.live then
    fail (.duplicatePlugin record.pluginId)
  else
    modify fun contexts => contexts.changeData context fun data =>
      { data with fibers := data.fibers.insert fiber () }

/-- `unregister_fiber`. -/
def Context.unregisterFiber : ContextM V Unit :=
  modify fun contexts => contexts.changeData context fun data =>
    { data with fibers := data.fibers.erase fiber }

/-- `unmount`. -/
def Fiber.unmount (fiber : FiberRef) : ContextM V Unit := do
  let record ← recordOf fiber
  match record.state with
  | .unmounted => return
  | .failed =>
      modify fun contexts => contexts.setFiberState fiber .unmounted
      Context.unregisterFiber record.parent fiber
  | .mounting | .unmounting =>
      fail (.invalidFiberState record.id record.state "unmount")
  | .mounted =>
      modify fun contexts => contexts.setFiberState fiber .unmounting
      let result ← catchError (disposeScope record.scope)
      modify fun contexts => contexts.setFiberState fiber .unmounted
      Context.unregisterFiber record.parent fiber
      lift result

/-- `Fiber::drop`. -/
def Fiber.drop (fiber : FiberRef) : ContextM V Unit := do
  let _ ← catchError (unmount disposeScope fiber)
  modify fun contexts => contexts.release fiber

/-- The loop of `mount` over the dependencies. -/
def checkDependencies (contexts : Contexts V) (context : ContextRef) (plugin : PluginId) :
    List ServiceDependency → Except CordisError Unit
  | [] => .ok ()
  | dependency :: rest => do
      let available ← contexts.hasServiceName context dependency.name
      if dependency.required && !available then
        throw (.missingDependency plugin dependency.name)
      else checkDependencies contexts context plugin rest

/-- `fail_mount`, and the drop of the fiber's handle. -/
def failMount (context : ContextRef) (fiber : FiberRef) (scope : ContextRef)
    (plugin : PluginId) (message : String) : ContextM V FiberRef := do
  modify fun contexts => contexts.setFiberState fiber .failed
  let cleanup ← catchError (disposeScope scope)
  Context.unregisterFiber context fiber
  Fiber.drop disposeScope fiber
  match cleanup with
  | .ok () => fail (.pluginMountFailed plugin message)
  | .error error =>
      fail (.pluginMountFailed plugin (message ++ "; cleanup failed: " ++ error.display))

/-- `mount`, once the fiber has its record: it is registered, and the plugin mounted. -/
def Context.mountFiber (context : ContextRef) (fiber : FiberRef) (scope : ContextRef)
    (plugin : PluginId) (body : Script V) : ContextM V FiberRef := do
  match ← catchError (registerFiber context fiber) with
  | .error error =>
      let _ ← catchError (disposeScope scope)
      modify fun contexts => contexts.release fiber
      fail error
  | .ok () =>
      match ← runCode body with
      | some (.ok ()) =>
          modify fun contexts => contexts.setFiberState fiber .mounted
          return fiber
      | some (.error message) => failMount disposeScope context fiber scope plugin message
      | none => failMount disposeScope context fiber scope plugin "plugin mount panicked"

/-- `mount`. -/
def Context.mount (context : ContextRef) (id : String)
    (dependencies : Option (List ServiceDependency)) (body : ContextRef → Script V) :
    ContextM V FiberRef := do
  let plugin ← lift ((PluginId.new id).mapError .invalidPluginId)
  match dependencies with
  | none => fail (.pluginMountFailed plugin "plugin dependency declaration panicked")
  | some dependencies =>
      if maxPluginDependencies < dependencies.length then
        fail (.dependencyLimit plugin maxPluginDependencies)
      else
        let contexts ← get
        lift (checkDependencies contexts context plugin dependencies)
        let scope ← child context
        let contexts ← get
        let fiber := contexts.fibers.length
        modify fun contexts => contexts.addFiber plugin scope context
        Context.mountFiber runCode disposeScope context fiber scope plugin (body scope)

/-- What an operation does. -/
def Operation.body : Operation V → ContextM V (Reply V)
  | .new => do return .context (← catchError Context.new)
  | .child context => do return .context (← catchError (Context.child context))
  | .provide context key value => do return .unit (← catchError (Context.provide context key value))
  | .service context key => do return .value ((← get).service context key)
  | .hasService context key => do return .flag ((← get).hasService context key)
  | .remove context key => do return .unit (← catchError (Context.remove context key))
  | .installEffect context id disposer => do
      return .effect (← catchError (Context.installEffect context id disposer))
  | .disposeEffect context id => do
      return .unit (← catchError (Context.disposeEffect runCode context id))
  | .mount context id dependencies body => do
      return .fiber (← catchError (Context.mount runCode disposeScope context id dependencies body))
  | .unmount fiber => do return .unit (← catchError (Fiber.unmount disposeScope fiber))
  | .dropFiber fiber => do
      Fiber.drop disposeScope fiber
      return .unit (.ok ())
  | .dispose context => do return .unit (← catchError (Context.dispose runCode disposeScope context))

/-- The contexts an operation is applied through: its own, or the scope of its fiber. -/
def Operation.through : Operation V → List ContextRef
  | .new => []
  | .child context | .provide context _ _ | .service context _ | .hasService context _
  | .remove context _ | .installEffect context _ _ | .disposeEffect context _
  | .mount context _ _ _ | .dispose context => [context]
  | .unmount fiber | .dropFiber fiber =>
      ((contexts.fibers[fiber]?).map FiberRecord.scope).toList

/-- Note which context the operation is applied through, and do it. -/
def Operation.perform (operation : Operation V) : ContextM V (Reply V) := do
  modify fun contexts =>
    { contexts with calls := contexts.calls ++ operation.through contexts }
  operation.body runCode disposeScope

end Foreign

mutual

/-- Run code of others for some steps. -/
def runScript : Nat → Script V → ContextM V (Option (Except String Unit))
  | 0, _ => throw .unfinished
  | _ + 1, .finish result => return some result
  | _ + 1, .panic => return none
  | fuel + 1, .call operation next => do
      let reply ← operation.perform (runScript fuel) (disposeDeep fuel)
      runScript fuel (next reply)

/-- `dispose` with all it calls, for some steps. -/
def disposeDeep : Nat → ContextRef → ContextM V Unit
  | 0, _ => throw .unfinished
  | fuel + 1, context => Context.dispose (runScript fuel) (disposeDeep fuel) context

end

/-- All contexts after an operation, with as many steps of the code it calls. -/
def contextStep (action : Nat × Operation V) : Contexts V :=
  ((action.2.perform (runScript action.1) (disposeDeep action.1)).exec contexts).2

end CordisCore
end YunXi
