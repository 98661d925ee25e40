import YunXi.Protocol.JsonAccess
import Mathlib.Data.Fintype.Pi

/-!
# Capability settings

The capabilities a user can switch, what a settings section says about them, and the
switches that follow from it.
-/

namespace YunXi
namespace Settings

open Protocol (Value)

def capabilitySettingsNamespace : String := "yunxi-capabilities"

inductive CapabilitySetting
  | context
  | persona
  | memory
  | companion
  | storage
  | mailbox
  | scheduler
  | shell
  | patch
  | files
  | mcp
  | skills
  | multiAgent
  | voice
  | weixin
  deriving DecidableEq, Repr

namespace CapabilitySetting

/-- `CapabilitySetting::ALL`. -/
def all : List CapabilitySetting :=
  [context, persona, memory, companion, storage, mailbox, scheduler, shell, patch, files, mcp,
    skills, multiAgent, voice, weixin]

/-- The settings in the order of their names, in which a JSON map lists them. -/
def byName : List CapabilitySetting :=
  [companion, context, files, mailbox, mcp, memory, multiAgent, patch, persona, scheduler, shell,
    skills, storage, voice, weixin]

def asStr : CapabilitySetting → String
  | context => "context"
  | persona => "persona"
  | memory => "memory"
  | companion => "companion"
  | storage => "storage"
  | mailbox => "mailbox"
  | scheduler => "scheduler"
  | shell => "shell"
  | patch => "patch"
  | files => "files"
  | mcp => "mcp"
  | skills => "skills"
  | multiAgent => "multi_agent"
  | voice => "voice"
  | weixin => "weixin"

/-- `CapabilitySetting::parse`. -/
def parse (value : String) : Option CapabilitySetting :=
  all.find? fun setting => setting.asStr = value

theorem mem_all (setting : CapabilitySetting) : setting ∈ all := by
  cases setting <;> decide

instance : Fintype CapabilitySetting := Fintype.ofList all mem_all

end CapabilitySetting

/-- What a section says about each capability; the source has one field for each. -/
structure CapabilityOverrides where
  get : CapabilitySetting → Option Bool
  deriving DecidableEq

variable (overrides : CapabilityOverrides)

namespace CapabilityOverrides

def empty : CapabilityOverrides := ⟨fun _ => none⟩

def set (setting : CapabilitySetting) (value : Bool) :
    CapabilityOverrides :=
  ⟨Function.update overrides.get setting (some value)⟩

def unset (setting : CapabilitySetting) :
    CapabilityOverrides :=
  ⟨Function.update overrides.get setting none⟩

/-- What a patch says wins over what was said before. -/
def merge (patch : CapabilityOverrides) : CapabilityOverrides :=
  ⟨fun setting => (patch.get setting).or (overrides.get setting)⟩

/-- The members of its JSON form in a given order, absent ones skipped. -/
def members (order : List CapabilitySetting) :
    List (String × Value) :=
  order.filterMap fun setting =>
    (overrides.get setting).map fun value => (setting.asStr, .bool value)

/-- `serde_json::from_value` of a section: known fields with a boolean or null. -/
def fromMembers : List (String × Value) → Except String CapabilityOverrides
  | [] => .ok empty
  | (key, value) :: rest => do
      let overrides ← fromMembers rest
      match CapabilitySetting.parse key, value with
      | some setting, .bool value => return overrides.set setting value
      | some _, .null => return overrides
      | some _, _ => throw "invalid type"
      | none, _ => throw "unknown field"

end CapabilityOverrides

/-- Whether each capability is switched on. -/
structure CapabilitySwitches where
  get : CapabilitySetting → Bool
  deriving DecidableEq

namespace CapabilitySwitches

/-- `CapabilitySwitches::from_overrides`. -/
def fromOverrides : CapabilitySwitches :=
  let companion := (overrides.get .companion).getD false
  ⟨fun
    | .context => (overrides.get .context).getD true
    | .persona => (overrides.get .persona).getD true
    | .memory => (overrides.get .memory).getD false
    | .companion => companion
    | .storage => (overrides.get .storage).getD true
    | .mailbox => (overrides.get .mailbox).getD companion
    | .scheduler => (overrides.get .scheduler).getD companion
    | .shell => (overrides.get .shell).getD false
    | .patch => (overrides.get .patch).getD false
    | .files => (overrides.get .files).getD false
    | .mcp => (overrides.get .mcp).getD false
    | .skills => (overrides.get .skills).getD false
    | .multiAgent => (overrides.get .multiAgent).getD false
    | .voice => (overrides.get .voice).getD false
    | .weixin => (overrides.get .weixin).getD false⟩

def default : CapabilitySwitches := fromOverrides .empty

def toJson (switches : CapabilitySwitches) : Value :=
  .object (CapabilitySetting.byName.map fun setting =>
    (setting.asStr, .bool (switches.get setting)))

end CapabilitySwitches

end Settings
end YunXi
