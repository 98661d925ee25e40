import YunXi.CordisCore.EventBus

/-!
# Identifiers, states and errors of the Cordis core

The states of scopes, effects and fibers, the check of plugin ids, and the errors
of the core with the texts they are displayed with.  A failed mount keeps the text
of its cause, so these texts end up in what a user is shown.
-/

namespace YunXi
namespace CordisCore

abbrev ScopeId := Nat
abbrev EffectId := Nat
abbrev FiberId := Nat

inductive ScopeState
  | active
  | disposing
  | disposed
  deriving DecidableEq, Repr

inductive EffectState
  | active
  | disposing
  | disposed
  | failed
  deriving DecidableEq, Repr

inductive FiberState
  | mounting
  | mounted
  | failed
  | unmounting
  | unmounted
  deriving DecidableEq, Repr

inductive IdentifierKind
  | service
  | event
  deriving DecidableEq, Repr

def ScopeState.display : ScopeState → String
  | active => "active"
  | disposing => "disposing"
  | disposed => "disposed"

def EffectState.display : EffectState → String
  | active => "active"
  | disposing => "disposing"
  | disposed => "disposed"
  | failed => "failed"

def FiberState.display : FiberState → String
  | mounting => "mounting"
  | mounted => "mounted"
  | failed => "failed"
  | unmounting => "unmounting"
  | unmounted => "unmounted"

def EventMode.display : EventMode → String
  | emit => "emit"
  | waterfall => "waterfall"
  | parallel => "parallel"
  | serial => "serial"
  | bail => "bail"

def IdentifierKind.display : IdentifierKind → String
  | service => "service"
  | event => "event"

def maxPluginIdBytes : Nat := 128
def maxPluginDependencies : Nat := 64

inductive PluginIdError
  | empty
  | tooLong (length maximum : Nat)
  | invalidCharacter (index : Nat) (character : Char)
  deriving DecidableEq, Repr

def PluginIdError.display : PluginIdError → String
  | empty => "plugin id cannot be empty"
  | tooLong length maximum =>
      "plugin id is " ++ toString length ++ " bytes; maximum is " ++ toString maximum
  | invalidCharacter index character =>
      "plugin id contains unsupported character `" ++ String.ofList [character] ++
        "` at byte " ++ toString index

/-- The characters a plugin id may hold. -/
def pluginIdCharacter (character : Char) : Bool :=
  character.toNat < 128 && !isControl character && !Protocol.isWhiteSpace character

/-- The check of `PluginId::new`. -/
def checkPluginId (value : String) : Except PluginIdError Unit :=
  if value.isEmpty then .error .empty
  else if maxPluginIdBytes < value.utf8ByteSize then
    .error (.tooLong value.utf8ByteSize maxPluginIdBytes)
  else
    match Protocol.firstRejected pluginIdCharacter 0 value.toList with
    | some (index, character) => .error (.invalidCharacter index character)
    | none => .ok ()

/-- A text that passed the check of `PluginId::new`. -/
structure PluginId where
  text : String
  valid : checkPluginId text = .ok ()
  deriving DecidableEq

/-- `PluginId::new`. -/
def PluginId.new (value : String) : Except PluginIdError PluginId :=
  match checked : checkPluginId value with
  | .ok () => .ok ⟨value, checked⟩
  | .error error => .error error

def EventError.display : EventError → String
  | invalidName name => "invalid event identifier `" ++ name ++ "`"
  | typeConflict name registered requested =>
      "event `" ++ name ++ "` already uses `" ++ registered ++ "`, not `" ++ requested ++ "`"
  | modeConflict name registered requested =>
      "event `" ++ name ++ "` uses " ++ registered.display ++ " dispatch, not " ++
        requested.display
  | handlerFailed event handler message =>
      "handler handler-" ++ toString handler ++ " for `" ++ event ++ "` failed: " ++ message
  | handlerPanicked event handler =>
      "handler handler-" ++ toString handler ++ " for `" ++ event ++ "` panicked"
  | handlerLimit event maximum =>
      "event `" ++ event ++ "` already has the maximum of " ++ toString maximum ++ " handlers"
  | eventLimit maximum =>
      "event bus already has the maximum of " ++ toString maximum ++ " events"
  | threadSpawn event message =>
      "could not spawn a handler for `" ++ event ++ "`: " ++ message
  | poisoned => "event bus lock is poisoned"

inductive CordisError
  | invalidIdentifier (kind : IdentifierKind) (value : String)
  | invalidPluginId (error : PluginIdError)
  | contextClosed (scopeId : ScopeId) (state : ScopeState)
  | duplicateService (scopeId : ScopeId) (name : String)
  | missingService (name : String)
  | serviceTypeMismatch (name expected actual : String)
  | missingDependency (plugin : PluginId) (service : String)
  | dependencyLimit (plugin : PluginId) (maximum : Nat)
  | duplicatePlugin (plugin : PluginId)
  | pluginMountFailed (plugin : PluginId) (message : String)
  | invalidFiberState (fiber : FiberId) (state : FiberState) (operation : String)
  | effectNotFound (id : EffectId)
  | effectUnavailable (id : EffectId) (state : EffectState)
  | disposerFailed (id : EffectId) (message : String)
  | event (error : EventError)
  | poisoned (component : String)
  deriving DecidableEq

def CordisError.display : CordisError → String
  | invalidIdentifier kind value =>
      "invalid " ++ kind.display ++ " identifier `" ++ value ++ "`"
  | invalidPluginId error => error.display
  | contextClosed scopeId state =>
      "scope scope-" ++ toString scopeId ++ " is " ++ state.display
  | duplicateService scopeId name =>
      "service `" ++ name ++ "` is already registered in scope scope-" ++ toString scopeId
  | missingService name => "service `" ++ name ++ "` is unavailable"
  | serviceTypeMismatch name expected actual =>
      "service `" ++ name ++ "` has type `" ++ actual ++ "`, requested `" ++ expected ++ "`"
  | missingDependency plugin service =>
      "plugin `" ++ plugin.text ++ "` requires missing service `" ++ service ++ "`"
  | dependencyLimit plugin maximum =>
      "plugin `" ++ plugin.text ++ "` declares more than the maximum of " ++
        toString maximum ++ " dependencies"
  | duplicatePlugin plugin => "plugin `" ++ plugin.text ++ "` is already mounted"
  | pluginMountFailed plugin message =>
      "plugin `" ++ plugin.text ++ "` failed to mount: " ++ message
  | invalidFiberState fiber state operation =>
      "fiber fiber-" ++ toString fiber ++ " cannot " ++ operation ++ " while it is " ++
        state.display
  | effectNotFound id => "effect effect-" ++ toString id ++ " is not registered"
  | effectUnavailable id state =>
      "effect effect-" ++ toString id ++ " cannot be disposed while it is " ++ state.display
  | disposerFailed id message =>
      "disposer for effect effect-" ++ toString id ++ " failed: " ++ message
  | event error => error.display
  | poisoned component => "Cordis " ++ component ++ " lock is poisoned"

end CordisCore
end YunXi
