import YunXi.PluginHost.Catalog
import YunXi.PluginHost.Cycles
import YunXi.Protocol.Json

/-!
# The host of plugin processes

The host drives the kernel, and keeps beside it the catalog of the capabilities that it routes,
the connections of the generations that run, and a retry controller for each plugin.  What the
processes, their supervisors and the transports do is the behaviour of an environment.
-/

namespace YunXi
namespace PluginHost

open Kernel (PluginId PluginIdError PluginFailure PluginSnapshot PluginSpec KernelError
  KernelProgram World SupervisorStep YunxiKernel)
open Protocol (CapabilityDescriptor GrantKind Value firstRejected isAsciiLowercase isAsciiDigit
  isTokenPunctuation)

/-- `ProtocolError`: a refused handshake, or an error of the transport with its text. -/
inductive SessionError
  | handshake (message : String)
  | transport (text : String)

def SessionError.display : SessionError → String
  | handshake message => "plugin handshake failed: " ++ message
  | transport text => text

def pluginIdErrorDisplay : PluginIdError → String
  | .empty => "plugin id cannot be empty"
  | .tooLong length maximum =>
      "plugin id is " ++ toString length ++ " bytes; maximum is " ++ toString maximum
  | .invalidCharacter index character =>
      "plugin id contains unsupported character `" ++ character.toString ++ "` at byte " ++
        toString index

def CatalogError.display : CatalogError → String
  | invalidPluginId error => "invalid plugin id: " ++ pluginIdErrorDisplay error
  | duplicatePlugin id => "plugin `" ++ id.text ++ "` is already registered"
  | duplicateCapability pluginId capability =>
      "plugin `" ++ pluginId.text ++ "` declares capability `" ++ capability.text ++
        "` more than once"
  | missingCapability capability version =>
      "no plugin provides capability `" ++ capability ++ "@" ++ toString version ++ "`"
  | ambiguousCapability capability version providers =>
      "capability `" ++ capability ++ "@" ++ toString version ++ "` has multiple providers: " ++
        String.intercalate ", " (providers.map PluginId.text)

inductive PluginHostError
  | kernel (error : KernelError)
  | catalog (error : CatalogError)
  | protocol (error : SessionError)

/-- `InvocationCodecError`, without the errors of decoding. -/
inductive InvocationCodecError
  | zeroRequestId
  | emptyOperation
  | operationTooLong (length maximum : Nat)
  | invalidOperationCharacter (index : Nat) (character : Char)
  | serialize (message : String)

inductive PluginCallError
  | route (error : CatalogError)
  | codec (error : InvocationCodecError)
  | unavailable (pluginId : PluginId) (message : String)
  | rejected (pluginId : PluginId) (code message : String) (retryable : Bool)
  | protocolViolation (pluginId : PluginId) (message : String)

structure InvocationRequest where
  requestId : Nat
  capability : CapabilityDescriptor
  operation : String
  payload : Value

def maxOperationBytes : Nat := 64

/-- `validate_operation`. -/
def validateOperation (operation : String) : Except InvocationCodecError Unit := do
  refuseIf (operation = "") .emptyOperation
  refuseIf (operation.utf8ByteSize > maxOperationBytes)
    (.operationTooLong operation.utf8ByteSize maxOperationBytes)
  match firstRejected (fun character => isAsciiLowercase character || isAsciiDigit character ||
      isTokenPunctuation character) 0 operation.toList with
  | some (index, character) => .error (.invalidOperationCharacter index character)
  | none => .ok ()

/-- `InvocationRequest::encode`, with the outcome of serializing the payload. -/
def InvocationRequest.encode (requestId : Nat) (capability : CapabilityDescriptor)
    (operation : String) (payload : Except String Value) :
    Except InvocationCodecError InvocationRequest := do
  refuseIf (requestId = 0) .zeroRequestId
  validateOperation operation
  let payload ← payload.mapError .serialize
  return ⟨requestId, capability, operation, payload⟩

/-- The messages of a host to a plugin that is ready. -/
inductive HostMessage
  | invoke (request : InvocationRequest)
  | shutdown

/-- The messages of a plugin; what a hello carries is not read once the plugin is ready. -/
inductive PluginMessage
  | hello
  | ready
  | invocationCompleted (requestId : Nat) (payload : Value)
  | invocationFailed (requestId : Nat) (code message : String) (retryable : Bool)

/-- What a plugin that became ready has announced, with the grants that its manifest, if there is
one, declares as required. -/
structure Announcement where
  info : PluginConnectionInfo
  grants : Option (List GrantKind)

/-- What is read of a launch; the command and the timeouts are passed on. -/
structure PluginLaunch where
  id : PluginId
  displayName : String
  requiredGrants : List GrantKind
  expectedCapabilities : Option (List CapabilityDescriptor)

structure PluginSlot where
  launch : PluginLaunch
  retry : RetryController

/-- `PluginSlot::new`. -/
def PluginSlot.new (launch : PluginLaunch) : PluginSlot :=
  ⟨launch, .new .default⟩

/-- A connection; its session is the one that the environment has for the plugin. -/
structure ActiveConnection where
  generation : Nat
  deriving DecidableEq, Repr

structure ProcessPluginHost (σ : Type) where
  world : World
  catalog : CapabilityCatalog
  connections : SortedMap PluginId ActiveConnection
  slots : SortedMap PluginId PluginSlot
  nextRequestId : Nat
  environment : σ
  /-- What was done so far, for the properties; the code keeps no such history. -/
  history : List (PluginId × PluginEvent)

variable {σ : Type}

/-- The behaviour of the processes, the supervisors and the transports.  Every answer may depend
on all that was asked before. -/
structure Environment (σ : Type) where
  /-- The steps of supervisors up to the next call of the kernel. -/
  supervise : σ → List SupervisorStep × σ
  /-- Bind an acceptor and read its address. -/
  bind : σ → Except SessionError Unit × σ
  /-- How an old worker ends, and whether the thread of the next one can be spawned. -/
  spawn : PluginId → σ → (World.Ending × Option String) × σ
  /-- The steps of supervisors until a stop command is sent, and whether threads return. -/
  stop : PluginId → σ → (List SupervisorStep × Bool) × σ
  /-- The polls before the deadline of a stop. -/
  polls : σ → Nat × σ
  /-- How the workers end at a shutdown. -/
  endings : σ → (PluginId → World.Ending) × σ
  /-- What a process announces, if the rest of the handshake is in order. -/
  handshake : PluginId → σ → Except SessionError Announcement × σ
  setTimeouts : PluginId → σ → Except SessionError Unit × σ
  send : PluginId → HostMessage → σ → Except SessionError Unit × σ
  receive : PluginId → σ → Except SessionError PluginMessage × σ
  /-- The debug text of a message. -/
  debug : PluginMessage → String

variable (host : ProcessPluginHost σ)

namespace ProcessPluginHost

def new (environment : σ) : ProcessPluginHost σ :=
  ⟨.new, .new, .empty, .empty, 1, environment, []⟩

/-- Supervisors go on until the kernel is called. -/
def supervised (behaviour : Environment σ) (host : ProcessPluginHost σ) : ProcessPluginHost σ :=
  let (steps, environment) := behaviour.supervise host.environment
  { host with world := steps.foldl World.supervise host.world, environment }

/-- `kernel.refresh()`. -/
def refreshed (behaviour : Environment σ) (host : ProcessPluginHost σ) : ProcessPluginHost σ :=
  let host := host.supervised behaviour
  { host with world := host.world.refresh.2 }

/-- `detach_connection`. -/
def detached (id : PluginId) : ProcessPluginHost σ :=
  { host with
    connections := host.connections.erase id
    catalog := (host.catalog.unregister id).2 }

def record (id : PluginId) (event : PluginEvent) :
    ProcessPluginHost σ :=
  { host with history := host.history ++ [(id, event)] }

/-- The slot of a launch, whose first cycle begins. -/
def launched (launch : PluginLaunch) : ProcessPluginHost σ :=
  { host.record launch.id .explicitStart with
    slots := host.slots.insert launch.id (.new launch) }

def putRetry (id : PluginId) (retry : RetryController) :
    ProcessPluginHost σ :=
  match host.slots.lookup? id with
  | some slot => { host with slots := host.slots.insert id { slot with retry } }
  | none => host

/-- Change the retry controller of a plugin that has a slot. -/
def updateRetry (id : PluginId)
    (update : RetryController → RetryController) : ProcessPluginHost σ :=
  match host.slots.lookup? id with
  | some slot => host.putRetry id (update slot.retry)
  | none => host

end ProcessPluginHost

abbrev HostProgram (σ α : Type) := Fallible (ProcessPluginHost σ) PluginHostError α

section Operations

variable {ε α : Type} (behaviour : Environment σ)

/-- Ask the environment. -/
def ask (question : σ → α × σ) : Fallible (ProcessPluginHost σ) ε α :=
  Fallible.ofFunction fun host =>
    let (answer, environment) := question host.environment
    (.ok answer, { host with environment })

/-- An error is kept as a value. -/
def caught (program : HostProgram σ α) : Fallible (ProcessPluginHost σ) ε (Except PluginHostError α) :=
  program.attempt id fun host _ => host

variable (id : PluginId)

def note (event : PluginEvent) : HostProgram σ Unit :=
  modify fun host => host.record id event

def refreshKernel : Fallible (ProcessPluginHost σ) ε Unit :=
  modify fun host => host.refreshed behaviour

def detachConnection : Fallible (ProcessPluginHost σ) ε Unit :=
  modify fun host => host.detached id

/-- Call the kernel. -/
def callKernel (program : KernelProgram α) : HostProgram σ α := do
  modify fun host => host.supervised behaviour
  program.embed .kernel ProcessPluginHost.world fun world host => { host with world }

/-- `kernel.plugin(id)`, which is not missing. -/
def knownPlugin : HostProgram σ PluginSnapshot := do
  let host ← get
  match host.world.kernel.plugin id with
  | some snapshot => return snapshot
  | none => throw (.kernel (.unknownPlugin id))

/-- `ensure_slot`. -/
def ensureSlot : HostProgram σ Unit := do
  let host ← get
  Fallible.throwIf (id ∉ host.slots.keys) (.kernel (.unknownPlugin id))

/-- `disable_retry`. -/
def disableRetry : HostProgram σ Unit :=
  modify fun host => host.updateRetry id RetryController.disable

/-- `fail_connection`, once the connection is detached: a stale event of a transport does not
fail a newer generation. -/
def failGeneration (connectionGeneration : Option Nat) (message : String) :
    Fallible (ProcessPluginHost σ) ε Unit := do
  refreshKernel behaviour
  let host ← get
  match host.world.kernel.plugin id with
  | none => return ()
  | some snapshot =>
      if snapshot.generation ≠ connectionGeneration.getD snapshot.generation then return ()
      else if snapshot.state.isActive = true ∨ snapshot.state = .registered then do
        let _ ← caught (callKernel behaviour (YunxiKernel.fail id (.protocol message)))
        refreshKernel behaviour
      else refreshKernel behaviour

/-- `fail_connection`. -/
def failConnection (connectionGeneration : Option Nat) (message : String) :
    Fallible (ProcessPluginHost σ) ε Unit := do
  let host ← get
  if connectionGeneration.all fun generation =>
      (host.connections.lookup? id).all fun connection => connection.generation = generation
  then do
    detachConnection id
    failGeneration behaviour id connectionGeneration message
  else failGeneration behaviour id connectionGeneration message

/-- The wait of `stop_current`, for a number of polls before the deadline. -/
def waitStopped (id : PluginId) : Nat → HostProgram σ Unit
  | 0 => do
      refreshKernel behaviour
      let snapshot ← knownPlugin id
      if snapshot.state.isActive = true then do
        let _ ← caught (callKernel behaviour (YunxiKernel.fail id
          (.monitor "timed out waiting for plugin supervisor to stop")))
        refreshKernel behaviour
      else return ()
  | polls + 1 => do
      refreshKernel behaviour
      let snapshot ← knownPlugin id
      if snapshot.state.isActive = true then waitStopped id polls else return ()

/-- `stop_current`, once the shutdown message is sent. -/
def stopProcess : HostProgram σ Unit := do
  refreshKernel behaviour
  let snapshot ← knownPlugin id
  if snapshot.state.isActive = true then do
    let (meanwhile, returned) ← ask (behaviour.stop id)
    callKernel behaviour (YunxiKernel.stop id meanwhile returned)
    waitStopped behaviour id (← ask behaviour.polls)
  else waitStopped behaviour id (← ask behaviour.polls)

/-- `stop_current`. -/
def stopCurrent : HostProgram σ Unit := do
  ensureSlot id
  let host ← get
  if id ∈ host.connections.keys then do
    let _ ← ask (behaviour.send id .shutdown)
    detachConnection id
    stopProcess behaviour id
  else do
    detachConnection id
    stopProcess behaviour id

/-- A check of a start that failed: the connection is failed as well. -/
def checkStart (generation : Nat) (check : Except SessionError α) :
    HostProgram σ α :=
  match check with
  | .ok value => return value
  | .error error => do
      failConnection behaviour id (some generation) error.display
      throw (.protocol error)

/-- `PluginAcceptor::accept`, where the id is compared with the one that is expected. -/
def accept : HostProgram σ (Except SessionError Announcement) := do
  let announced ← ask (behaviour.handshake id)
  return announced.bind fun announcement =>
    if announcement.info.pluginId ≠ id.text then
      .error (.handshake ("expected plugin `" ++ id.text ++ "`, received `" ++
        announcement.info.pluginId ++ "`"))
    else .ok announcement

/-- `capability_key`. -/
def capabilityKey (capability : CapabilityDescriptor) : String × UInt32 :=
  (capability.id.text, capability.version)

/-- `format_capability_keys`, of keys that are sorted and distinct. -/
def formatCapabilityKeys (keys : List (String × UInt32)) : String :=
  if keys = [] then "<none>"
  else String.intercalate ", " (keys.map fun key => key.1 ++ "@" ++ toString key.2)

/-- A set of keys as it is iterated. -/
def keySet (capabilities : List CapabilityDescriptor) : List (String × UInt32) :=
  ((capabilities.map capabilityKey).mergeSort fun left right =>
    left.1 < right.1 ∨ (left.1 = right.1 ∧ left.2 ≤ right.2)).dedup

/-- `validate_expected_capabilities`. -/
def validateExpectedCapabilities (connection : PluginConnectionInfo) :
    Option (List CapabilityDescriptor) → Except SessionError Unit
  | none => .ok ()
  | some expected =>
      let expected := keySet expected
      let announced := keySet connection.capabilities
      if expected = announced then .ok ()
      else
        .error (.handshake ("plugin `" ++ connection.pluginId ++
          "` announced capabilities outside its launch contract (expected: " ++
          formatCapabilityKeys expected ++ "; received: " ++ formatCapabilityKeys announced ++
          ")"))

/-- `validate_required_grants`. -/
def validateRequiredGrants (announcement : Announcement) (required : List GrantKind) :
    Except SessionError Unit :=
  if required = [] then .ok ()
  else
    match announcement.grants with
    | none =>
        .error (.handshake ("plugin `" ++ announcement.info.pluginId ++
          "` must provide a manifest declaring required grants: " ++
          String.intercalate ", " (required.map GrantKind.name)))
    | some declared =>
        match required.find? fun grant => grant ∉ declared with
        | some grant =>
            .error (.handshake ("plugin `" ++ announcement.info.pluginId ++
              "` manifest does not declare required grant `" ++ grant.name ++ "`"))
        | none => .ok ()

/-- `kernel.start(id)`. -/
def startProcess : HostProgram σ Unit := do
  note id .started
  let (ending, spawnError) ← ask (behaviour.spawn id)
  callKernel behaviour (YunxiKernel.start id ending spawnError)

/-- The launch of a plugin, if its retry controller takes a generation as the current one. -/
def observeGeneration (id : PluginId) (generation : Nat) :
    HostProgram σ (Option PluginLaunch) := do
  let host ← get
  match host.slots.lookup? id with
  | none => return none
  | some slot => do
      let (observed, retry) := slot.retry.observeGeneration generation
      modify fun host => host.putRetry id retry
      return if observed then some slot.launch else none

/-- The steps of a start from the handshake to a connection that passed its checks. -/
def handshake (launch : PluginLaunch) (generation : Nat) :
    HostProgram σ PluginConnectionInfo := do
  let announcement ← checkStart behaviour id generation (← accept behaviour id)
  checkStart behaviour id generation
    (validateExpectedCapabilities announcement.info launch.expectedCapabilities)
  checkStart behaviour id generation
    (validateRequiredGrants announcement launch.requiredGrants)
  checkStart behaviour id generation (← ask (behaviour.setTimeouts id))
  return announcement.info

/-- The steps of a start that follow the process. -/
def connect (launch : PluginLaunch) (generation : Nat) : HostProgram σ Unit := do
  let info ← handshake behaviour id launch generation
  let registered ← (CapabilityCatalog.registerConnection info).attempt
    ProcessPluginHost.catalog fun catalog host => { host with catalog }
  match registered with
  | .error error => do
      failConnection behaviour id (some generation) error.display
      throw (.catalog error)
  | .ok _ =>
      modify fun host => { host with connections := host.connections.insert id ⟨generation⟩ }

/-- `start_generation`. -/
def startGeneration : HostProgram σ Unit := do
  ensureSlot id
  detachConnection id
  refreshKernel behaviour
  startProcess behaviour id
  let snapshot ← knownPlugin id
  match ← observeGeneration id snapshot.generation with
  | none => do
      let message := "plugin enable cycle is disabled"
      failConnection behaviour id (some snapshot.generation) message
      throw (.protocol (.handshake message))
  | some launch => connect behaviour id launch snapshot.generation

/-- An explicit start; one that fails must not start a hidden retry loop. -/
def startExplicitly : HostProgram σ PluginId := do
  match ← caught (startGeneration behaviour id) with
  | .ok () => return id
  | .error error => do
      disableRetry id
      note id .startFailed
      throw error

/-- `launch`. -/
def launch (launch : PluginLaunch) : HostProgram σ PluginId := do
  let bound ← ask behaviour.bind
  Fallible.ofExcept (bound.mapError .protocol)
  callKernel behaviour (YunxiKernel.register ⟨launch.id, launch.displayName⟩)
  modify fun host => host.launched launch
  startExplicitly behaviour launch.id

/-- `manual_start`; its cycle begins when the process before is stopped. -/
def manualStart : HostProgram σ PluginId := do
  ensureSlot id
  stopCurrent behaviour id
  modify fun host =>
    (host.record id .explicitStart).updateRetry id RetryController.manualRestart
  startExplicitly behaviour id

/-- `manual_restart`, and so `restart` and `enable`. -/
def manualRestart : HostProgram σ PluginId := manualStart behaviour id

/-- `disable`. -/
def disable : HostProgram σ Unit := do
  ensureSlot id
  note id .disabled
  disableRetry id
  stopCurrent behaviour id

/-- `stop`. -/
def stop : HostProgram σ Unit := do
  let _ ← caught (disable behaviour id)

/-- `disable_failed_plugin`. -/
def disableFailedPlugin : HostProgram σ Unit := do
  disableRetry id
  let _ ← caught (stopCurrent behaviour id)
  detachConnection id

/-- Whether a newer generation of a plugin has failed. -/
def failedAfter (host : ProcessPluginHost σ) (id : PluginId) (generation : Nat) : Bool :=
  (host.world.kernel.plugin id).any fun snapshot =>
    generation < snapshot.generation ∧ snapshot.state.isFailed

/-- The restart or the end of a plugin whose failure is acted upon. -/
def actUpon (generation : Nat) : RetryAction → HostProgram σ Unit
  | .restart _ => do
      detachConnection id
      match ← caught (startGeneration behaviour id) with
      | .ok () => return ()
      | .error _ => do
          refreshKernel behaviour
          let host ← get
          if failedAfter host id generation then return () else disableFailedPlugin behaviour id
  | .disable => disableFailedPlugin behaviour id

/-- `recover_failed_plugin`. -/
def recoverFailedPlugin (generation : Nat) : HostProgram σ Bool := do
  let host ← get
  match host.slots.lookup? id with
  | none => return false
  | some slot =>
      let (observed, retry) := slot.retry.observeGeneration generation
      if observed = false then return false
      else
        match retry.onFailure generation with
        | (none, retry) => do
            modify fun host => host.putRetry id retry
            return false
        | (some action, retry) => do
            modify fun host => (host.putRetry id retry).record id (action.event generation)
            actUpon behaviour id generation action
            return true

/-- One pass over the failures of a snapshot; whether there was progress. -/
def recoverAll : List (PluginId × Nat) → HostProgram σ Bool
  | [] => return false
  | (id, generation) :: failures => do
      let progressed ← recoverFailedPlugin behaviour id generation
      let later ← recoverAll failures
      return progressed || later

/-- The failed plugins of the kernel. -/
def failures : List (PluginId × Nat) :=
  (host.world.kernel.snapshots.filter fun snapshot => snapshot.state.isFailed).map
    fun snapshot => (snapshot.id, snapshot.generation)

/-- `recover_failed_plugins`, for a number of passes. -/
def recoverFailedPlugins : Nat → HostProgram σ Unit
  | 0 => return ()
  | passes + 1 => do
      refreshKernel behaviour
      let host ← get
      if failures host = [] then return ()
      else do
        let progressed ← recoverAll behaviour (failures host)
        if progressed then recoverFailedPlugins passes else return ()

/-- `prune_inactive_connections`. -/
def pruneInactiveConnections : HostProgram σ Unit :=
  modify fun host =>
    (host.connections.keys.filter fun id =>
      (host.world.kernel.plugin id).all fun snapshot => !snapshot.state.isActive).foldl
        ProcessPluginHost.detached host

/-- `refresh`. -/
def refresh : HostProgram σ Unit := do
  refreshKernel behaviour
  recoverFailedPlugins behaviour (maxAutomaticRestarts + 1)
  refreshKernel behaviour
  pruneInactiveConnections

/-- Send each connection the shutdown message. -/
def sendShutdown : List PluginId → HostProgram σ Unit
  | [] => return ()
  | id :: ids => do
      let _ ← ask (behaviour.send id .shutdown)
      sendShutdown ids

/-- `shutdown`. -/
def shutdown : HostProgram σ Unit := do
  modify fun host =>
    { host with slots := host.slots.map fun _ slot => { slot with retry := slot.retry.disable } }
  let host ← get
  let ids := host.connections.keys
  sendShutdown behaviour ids
  modify fun host =>
    { host with
      connections := .empty
      catalog := ids.foldl (fun catalog id => (catalog.unregister id).2) host.catalog }
  let endings ← ask behaviour.endings
  callKernel behaviour (YunxiKernel.shutdown endings)
  modify fun host => { host with slots := .empty }

/-- `checked_add(1).unwrap_or(1)` on the request ids. -/
def nextRequest (requestId : Nat) : Nat :=
  if requestId + 1 < 2 ^ 64 then requestId + 1 else 1

/-- `invoke`, with the outcome of serializing the payload and the decoder of the response. -/
def invoke (capability : CapabilityDescriptor) (operation : String)
    (payload : Except String Value) (decode : Value → Except String α) :
    Fallible (ProcessPluginHost σ) PluginCallError α := do
  let host ← get
  let plugin ← Fallible.ofExcept
    ((host.catalog.resolveUnique capability.id.text capability.version).mapError .route)
  let requestId := host.nextRequestId
  modify fun host => { host with nextRequestId := nextRequest host.nextRequestId }
  let request ← Fallible.ofExcept
    ((InvocationRequest.encode requestId capability operation payload).mapError .codec)
  let generation := (host.connections.lookup? plugin.id).map ActiveConnection.generation
  if host.connections.lookup? plugin.id = none then do
    let message := "plugin connection is not available"
    failConnection behaviour plugin.id generation message
    throw (.unavailable plugin.id message)
  else do
    match ← ask (behaviour.send plugin.id (.invoke request)) with
    | .error error => do
        failConnection behaviour plugin.id generation error.display
        throw (.unavailable plugin.id error.display)
    | .ok () => do
        match ← ask (behaviour.receive plugin.id) with
        | .error error => do
            failConnection behaviour plugin.id generation error.display
            throw (.unavailable plugin.id error.display)
        | .ok response =>
            match response with
            | .invocationCompleted responseId value =>
                if responseId = requestId then
                  match decode value with
                  | .ok decoded => return decoded
                  | .error message => do
                      failConnection behaviour plugin.id generation message
                      throw (.protocolViolation plugin.id message)
                else unexpected plugin.id generation requestId response
            | .invocationFailed responseId code message retryable =>
                if responseId = requestId then
                  throw (.rejected plugin.id code message retryable)
                else unexpected plugin.id generation requestId response
            | _ => unexpected plugin.id generation requestId response
where
  /-- A message that is no response to the request. -/
  unexpected (id : PluginId) (generation : Option Nat) (requestId : Nat)
      (response : PluginMessage) : Fallible (ProcessPluginHost σ) PluginCallError α := do
    let message := "expected response for request " ++ toString requestId ++ ", received " ++
      behaviour.debug response
    failConnection behaviour id generation message
    throw (.protocolViolation id message)

end Operations

end PluginHost
end YunXi
