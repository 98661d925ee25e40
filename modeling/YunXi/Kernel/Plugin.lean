import YunXi.Protocol.Text
import YunXi.Program.Checked
import Mathlib.Order.Lattice

/-!
# Plugins of the kernel

The identity of a plugin, and the states that the kernel reports for it.
-/

namespace YunXi
namespace Kernel

open Protocol (firstRejected isAsciiAlphanumeric)

def maxPluginIdBytes : Nat := 128

inductive PluginIdError
  | empty
  | tooLong (length maximum : Nat)
  | invalidCharacter (index : Nat) (character : Char)
  deriving DecidableEq, Repr

/-- The characters of a plugin id. -/
def pluginIdCharacter (character : Char) : Bool :=
  isAsciiAlphanumeric character || character == '-' || character == '_' || character == '.'

/-- The check of `PluginId::new`. -/
def checkPluginId (value : String) : Except PluginIdError Unit := do
  refuseIf (value = "") .empty
  refuseIf (value.utf8ByteSize > maxPluginIdBytes) (.tooLong value.utf8ByteSize maxPluginIdBytes)
  match firstRejected pluginIdCharacter 0 value.toList with
  | some (index, character) => .error (.invalidCharacter index character)
  | none => .ok ()

/-- A text that passed the check of `PluginId::new`. -/
structure PluginId where
  text : String
  valid : checkPluginId text = .ok ()

/-- `PluginId::new`. -/
def PluginId.new (value : String) : Except PluginIdError PluginId :=
  construct (checkPluginId value) (PluginId.mk value)

theorem PluginId.text_injective : Function.Injective PluginId.text := by
  rintro ⟨left, _⟩ ⟨right, _⟩ same
  cases same
  rfl

instance : LinearOrder PluginId :=
  LinearOrder.lift' PluginId.text PluginId.text_injective

instance : LawfulBEq PluginId := inferInstance

/-- What is built from the text of an id is that id. -/
theorem PluginId.new_text (id : PluginId) : PluginId.new id.text = .ok id :=
  construct_of_ok id.valid _

inductive PluginFailure
  | spawn (message : String)
  | unexpectedExit (code : Option Int)
  | protocol (message : String)
  | monitor (message : String)
  | supervisor (message : String)
  deriving DecidableEq, Repr

inductive PluginState
  | registered
  | starting
  | running (pid : Nat)
  | stopping
  | stopped
  | failed (failure : PluginFailure)
  deriving DecidableEq, Repr

namespace PluginState

def isActive : PluginState → Bool
  | starting | running _ | stopping => true
  | _ => false

def isFailed : PluginState → Bool
  | failed _ => true
  | _ => false

def isTerminal : PluginState → Bool
  | stopped | failed _ => true
  | _ => false

/-- The order in which a generation goes through its states. -/
def rank : PluginState → Nat
  | registered => 0
  | starting => 1
  | running _ => 2
  | stopping => 3
  | stopped | failed _ => 4

theorem rank_le (state : PluginState) : state.rank ≤ 4 := by
  cases state <;> simp [rank]

theorem rank_of_isActive {state : PluginState} (active : state.isActive = true) :
    state.rank ≤ 3 := by
  cases state with
  | starting => exact Nat.le_of_ble_eq_true rfl
  | running _ => exact Nat.le_succ 2
  | stopping => exact Nat.le_refl 3
  | registered => cases active
  | stopped => cases active
  | failed _ => cases active

theorem rank_of_isTerminal {state : PluginState} (terminal : state.isTerminal = true) :
    state.rank = 4 := by
  cases state <;> first | rfl | cases terminal

end PluginState

/-- `PluginSpec`, without the command that its supervisor runs. -/
structure PluginSpec where
  id : PluginId
  displayName : String

structure PluginSnapshot where
  id : PluginId
  displayName : String
  state : PluginState
  generation : Nat

end Kernel
end YunXi
