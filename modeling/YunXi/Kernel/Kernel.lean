import YunXi.Kernel.Plugin
import YunXi.Program.Fallible
import YunXi.Program.SortedMap
import Mathlib.Logic.Function.Basic

/-!
# The plugin kernel

The kernel keeps a slot for each plugin and starts a supervisor thread for each generation of
it.  Supervisors report through one channel, which the kernel empties when it is asked to
refresh; until then a report waits in the channel.
-/

namespace YunXi
namespace Kernel

open Fallible

/-- The largest generation, `u64::MAX`. -/
def maxGeneration : Nat := 2 ^ 64 - 1

inductive KernelState
  | running
  | shuttingDown
  | stopped
  deriving DecidableEq, Repr

/-- `KernelError`. -/
inductive KernelError
  | notRunning
  | duplicatePlugin (id : PluginId)
  | unknownPlugin (id : PluginId)
  | pluginBusy (id : PluginId) (state : PluginState)
  | supervisorThread (id : PluginId) (message : String)
  | supervisorUnavailable (id : PluginId)

/-- A slot; of the sender of commands and of the handle of the worker it matters whether there
is one. -/
structure PluginSlot where
  spec : PluginSpec
  state : PluginState
  generation : Nat
  commands : Bool
  worker : Bool
  forcedFailure : Option PluginFailure

namespace PluginSlot

def new (spec : PluginSpec) : PluginSlot :=
  ⟨spec, .registered, 0, false, false, none⟩

def snapshot (slot : PluginSlot) : PluginSnapshot :=
  ⟨slot.spec.id, slot.spec.displayName, slot.state, slot.generation⟩

end PluginSlot

structure SupervisorEvent where
  id : PluginId
  generation : Nat
  state : PluginState

structure YunxiKernel where
  state : KernelState
  plugins : SortedMap PluginId PluginSlot

namespace YunxiKernel

def new : YunxiKernel := ⟨.running, .empty⟩

variable (kernel : YunxiKernel)

def put (id : PluginId) (slot : PluginSlot) : YunxiKernel :=
  { kernel with plugins := kernel.plugins.insert id slot }

/-- `plugin`. -/
def plugin (id : PluginId) : Option PluginSnapshot :=
  (kernel.plugins.lookup? id).map PluginSlot.snapshot

/-- `snapshot`, the plugins of it. -/
def snapshots : List PluginSnapshot :=
  kernel.plugins.entries.map fun entry => entry.2.snapshot

/-- `apply_event`, with the snapshot that it adds to the changed ones. -/
def applyEvent (event : SupervisorEvent) :
    YunxiKernel × Option PluginSnapshot :=
  match kernel.plugins.lookup? event.id with
  | none => (kernel, none)
  | some slot =>
      if slot.generation ≠ event.generation then (kernel, none)
      else
        let state :=
          match slot.forcedFailure with
          | some failure => .failed failure
          | none => event.state
        let slot := { slot with
          state, commands := if state.isTerminal then false else slot.commands }
        (kernel.put event.id slot, some slot.snapshot)

/-- The events of the channel, applied in order. -/
def applyEvents (kernel : YunxiKernel) : List SupervisorEvent → YunxiKernel × List PluginSnapshot
  | [] => (kernel, [])
  | event :: rest =>
      let (next, changed) := kernel.applyEvent event
      let (final, later) := next.applyEvents rest
      (final, changed.toList ++ later)

/-- `reap_finished_workers`. -/
def reapFinishedWorkers (finished : PluginId → Bool) : YunxiKernel :=
  { kernel with
    plugins := kernel.plugins.map fun id slot =>
      { slot with worker := slot.worker && !finished id } }

end YunxiKernel

/-- How far a supervisor is: its process is being spawned, or was announced. -/
inductive Phase
  | spawning
  | announced
  deriving DecidableEq, Repr

structure Supervisor where
  generation : Nat
  phase : Phase
  deriving DecidableEq, Repr

/-- A state that ends a generation. -/
abbrev TerminalState := { state : PluginState // state.isTerminal = true }

/-- What a supervisor does next. -/
inductive SupervisorStep
  | announce (id : PluginId) (pid : Nat)
  | finish (id : PluginId) (state : TerminalState)

/-- The kernel, the channel, and the supervisors that have not finished. -/
structure World where
  kernel : YunxiKernel
  queue : List SupervisorEvent
  live : PluginId → Option Supervisor

namespace World

def new : World := ⟨.new, [], fun _ => none⟩

/-- A step of a supervisor: `Running` is sent at most once, and one terminal event is the
last. -/
def supervise (world : World) : SupervisorStep → World
  | .announce id pid =>
      match world.live id with
      | some ⟨generation, .spawning⟩ =>
          { world with
            queue := world.queue ++ [⟨id, generation, .running pid⟩]
            live := Function.update world.live id (some ⟨generation, .announced⟩) }
      | _ => world
  | .finish id state =>
      match world.live id with
      | some supervisor =>
          { world with
            queue := world.queue ++ [⟨id, supervisor.generation, state⟩]
            live := Function.update world.live id none }
      | none => world

/-- How a supervisor ends that is waited for. -/
structure Ending where
  announces : Option Nat
  last : TerminalState

/-- `worker.join()`. -/
def join (world : World) (id : PluginId) (ending : Ending) : World :=
  let announced :=
    match ending.announces with
    | some pid => world.supervise (.announce id pid)
    | none => world
  announced.supervise (.finish id ending.last)

/-- `refresh`. -/
def refresh (world : World) : List PluginSnapshot × World :=
  let (kernel, changed) := world.kernel.applyEvents world.queue
  (changed, { world with
    kernel := kernel.reapFinishedWorkers fun id => (world.live id).isNone, queue := [] })

def put (world : World) (id : PluginId) (slot : PluginSlot) : World :=
  { world with kernel := world.kernel.put id slot }

end World

abbrev KernelProgram (α : Type) := Fallible World KernelError α

namespace YunxiKernel

/-- `ensure_running`. -/
def ensureRunning : KernelProgram Unit := do
  let world ← get
  throwIf (world.kernel.state ≠ .running) .notRunning

def refresh : KernelProgram Unit :=
  modify fun world => world.refresh.2

/-- The slot of a plugin. -/
def slot (id : PluginId) : KernelProgram PluginSlot := do
  let world ← get
  match world.kernel.plugins.lookup? id with
  | some slot => return slot
  | none => throw (.unknownPlugin id)

def putSlot (id : PluginId) (slot : PluginSlot) : KernelProgram Unit :=
  modify (·.put id slot)

/-- `register`. -/
def register (spec : PluginSpec) : KernelProgram Unit := do
  ensureRunning
  let world ← get
  match world.kernel.plugins.lookup? spec.id with
  | some _ => throw (.duplicatePlugin spec.id)
  | none => putSlot spec.id (.new spec)

/-- A slot whose next generation starts. -/
def nextGeneration (slot : PluginSlot) : PluginSlot :=
  { slot with
    commands := false, worker := false, forcedFailure := none, state := .starting
    generation := min (slot.generation + 1) maxGeneration }

/-- `start`: an old worker is joined, and a thread is spawned unless that fails. -/
def start (id : PluginId) (ending : World.Ending) (spawnError : Option String) :
    KernelProgram Unit := do
  ensureRunning
  refresh
  let old ← slot id
  throwIf (old.state.isActive = true) (.pluginBusy id old.state)
  let next := nextGeneration old
  putSlot id next
  modify fun world => if old.worker then world.join id ending else world
  match spawnError with
  | some message => do
      putSlot id { next with state := .failed (.supervisor message) }
      throw (.supervisorThread id message)
  | none => do
      modify fun world =>
        { world with
          live := Function.update world.live id (some ⟨next.generation, .spawning⟩) }
      putSlot id { next with commands := true, worker := true }

/-- `stop`: supervisors go on until the command is sent, which fails once the thread of the
supervisor has returned. -/
def stop (id : PluginId) (meanwhile : List SupervisorStep) (returned : Bool) :
    KernelProgram Unit := do
  ensureRunning
  refresh
  let slot ← slot id
  match slot.state with
  | .registered => putSlot id { slot with state := .stopped }
  | .starting | .running _ | .stopping => do
      putSlot id { slot with state := .stopping }
      throwIf (slot.commands = false) (.supervisorUnavailable id)
      modify fun world => meanwhile.foldl World.supervise world
      let world ← get
      throwIf (world.live id = none ∧ returned = true) (.supervisorUnavailable id)
  | .stopped | .failed _ => return ()

/-- `fail`. -/
def fail (id : PluginId) (failure : PluginFailure) : KernelProgram Unit := do
  ensureRunning
  refresh
  let slot ← slot id
  putSlot id { slot with forcedFailure := some failure, state := .failed failure }

/-- A slot when the kernel begins to shut down. -/
def shuttingDown (slot : PluginSlot) : PluginSlot :=
  if slot.state.isActive = true ∨ (slot.forcedFailure.isSome = true ∧ slot.worker = true) then
    if slot.forcedFailure = none then { slot with state := .stopping } else slot
  else if slot.state = .registered then { slot with state := .stopped }
  else slot

/-- A slot when the kernel has shut down. -/
def shutDown (slot : PluginSlot) : PluginSlot :=
  { slot with
    commands := false
    state :=
      if slot.state.isActive then
        .failed (.supervisor "supervisor stopped without a terminal state")
      else slot.state }

/-- Take the handles of the workers, and wait for one after the other. -/
def joinWorkers (endings : PluginId → World.Ending) (world : World) : World :=
  let joined := world.kernel.plugins.entries.foldl (fun world entry =>
    if entry.2.worker then world.join entry.1 (endings entry.1) else world) world
  { joined with
    kernel := { joined.kernel with
      plugins := joined.kernel.plugins.map fun _ slot => { slot with worker := false } } }

/-- `shutdown`. -/
def shutdown (endings : PluginId → World.Ending) : KernelProgram Unit := do
  let world ← get
  if world.kernel.state = .stopped then return ()
  else do
    refresh
    modify fun world =>
      { world with
        kernel :=
          { state := .shuttingDown, plugins := world.kernel.plugins.map fun _ => shuttingDown } }
    modify (joinWorkers endings)
    refresh
    modify fun world =>
      { world with
        kernel := { state := .stopped, plugins := world.kernel.plugins.map fun _ => shutDown } }

end YunxiKernel

end Kernel
end YunXi
