import YunXi.Protocol.Text
import YunXi.Program.Checked
import Mathlib.Order.Lattice

/-!
# Capabilities

A plugin announces capabilities under stable ids, each with a version.
-/

namespace YunXi
namespace Protocol

def maxCapabilityIdBytes : Nat := 128

inductive CapabilityIdError
  | empty
  | tooLong (length maximum : Nat)
  | missingNamespace
  | emptySegment
  | invalidSegmentStart (segment : String)
  | invalidSegmentEnd (segment : String)
  | invalidCharacter (index : Nat) (character : Char)
  deriving DecidableEq, Repr

/-- The characters of a capability id. -/
def capabilityIdCharacter (character : Char) : Bool :=
  isAsciiLowercase character || isAsciiDigit character || character == '.' || character == '-'

/-- A segment of a capability id begins with a letter and does not end with a dash. -/
def checkCapabilitySegment (segment : List Char) : Except CapabilityIdError Unit := do
  refuseIf (segment.head?.any isAsciiLowercase = false)
    (.invalidSegmentStart (String.ofList segment))
  refuseIf (segment.getLast? = some '-') (.invalidSegmentEnd (String.ofList segment))

/-- The first error of a list of segments. -/
def checkCapabilitySegments : List (List Char) → Except CapabilityIdError Unit
  | [] => .ok ()
  | segment :: rest => do
      checkCapabilitySegment segment
      checkCapabilitySegments rest

/-- `validate_capability_id`. -/
def validateCapabilityId (value : String) : Except CapabilityIdError Unit := do
  refuseIf (value = "") .empty
  refuseIf (value.utf8ByteSize > maxCapabilityIdBytes)
    (.tooLong value.utf8ByteSize maxCapabilityIdBytes)
  let segments := value.toList.splitOn '.'
  refuseIf (segments.length < 2) .missingNamespace
  refuseIf ([] ∈ segments) .emptySegment
  checkCapabilitySegments segments
  match firstRejected capabilityIdCharacter 0 value.toList with
  | some (index, character) => .error (.invalidCharacter index character)
  | none => .ok ()

/-- A text that passed `validate_capability_id`. -/
structure CapabilityId where
  text : String
  valid : validateCapabilityId text = .ok ()

theorem CapabilityId.text_injective : Function.Injective CapabilityId.text := by
  rintro ⟨left, _⟩ ⟨right, _⟩ same
  cases same
  rfl

instance capabilityIdLinearOrder : LinearOrder CapabilityId :=
  LinearOrder.lift' CapabilityId.text CapabilityId.text_injective

/-- A capability at a version that is not zero. -/
structure CapabilityDescriptor where
  id : CapabilityId
  version : UInt32
  nonzero : version ≠ 0

end Protocol
end YunXi
