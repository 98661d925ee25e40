import YunXi.Protocol.JsonAccess
import Mathlib.Data.Nat.Digits.Defs

/-!
# Values of derived types

A derived struct is read from an object or from an array with its fields in order, a derived
enumeration from the name of a variant.  What is written is read back.
-/

namespace YunXi
namespace Protocol
namespace Value

/-- How a struct is read: its fields in order, how many of them an array must give, and
whether other members are refused. -/
structure StructShape where
  names : List String
  required : Nat
  denyUnknown : Bool

/-- The fields of a struct, as far as they are there. -/
def fields (shape : StructShape) : Value → Option (String → Option Value)
  | .object members =>
      if shape.denyUnknown ∧ ¬ members.all (shape.names.contains ·.1) then none
      else some fun name => members.lookup name
  | .array items =>
      if shape.required ≤ items.length ∧ items.length ≤ shape.names.length then
        some fun name => (shape.names.zip items).lookup name
      else none
  | _ => none

/-- An object gives all of its members if it has none that are unknown. -/
theorem fields_object {shape : StructShape} {members : List (String × Value)}
    (known : members.all (shape.names.contains ·.1) = true) :
    fields shape (.object members) = some fun name => members.lookup name :=
  if_neg fun unknown => unknown.2 known

/-- An object that was written field by field gives all of its members. -/
theorem fields_zip (shape : StructShape) (values : List Value) :
    fields shape (.object (shape.names.zip values)) =
      some fun name => (shape.names.zip values).lookup name := by
  refine fields_object ?_
  rw [List.all_eq_true]
  intro member present
  rw [List.contains_iff_mem]
  exact (List.of_mem_zip present).1

/-- A member of another name is passed over. -/
theorem lookup_cons_of_ne {members : List (String × Value)} {key first : String} {value : Value}
    (other : key ≠ first) : ((first, value) :: members).lookup key = members.lookup key := by
  rw [List.lookup_cons, beq_false_of_ne other]

/-- The member that was written for a field. -/
theorem lookup_zip {names : List String} (distinct : names.Nodup) (values : List Value)
    (index : Nat) {name : String} {value : Value}
    (named : names[index]? = some name) (valued : values[index]? = some value) :
    (names.zip values).lookup name = some value := by
  induction names generalizing values index with
  | nil => cases named
  | cons first names ih =>
      cases values with
      | nil => cases valued
      | cons head values =>
          cases index with
          | zero =>
              cases named
              cases valued
              exact List.lookup_cons_self
          | succ index =>
              have later : name ≠ first := by
                rintro rfl
                exact (List.nodup_cons.mp distinct).1 (List.mem_of_getElem? named)
              rw [List.zip_cons_cons, lookup_cons_of_ne later]
              exact ih (List.nodup_cons.mp distinct).2 values index named valued

/-- The name of a variant without data. -/
def variantName : Value → Option String
  | .string name => some name
  | .object [(name, .null)] => some name
  | _ => none

/-- A variant without data, among all there are. -/
def variant {α : Type} (variants : List α) (name : α → String) (value : Value) : Option α :=
  value.variantName.bind fun text => variants.find? (name · = text)

/-- A machine number below a bound. -/
def asBounded (bound : Nat) (value : Value) : Option Nat :=
  value.asU64.filter (· < bound)

/-- An `Option` field: absent and `null` both give nothing. -/
def optional {α : Type} (read : Value → Option α) : Option Value → Option (Option α)
  | none | some .null => some none
  | some value => (read value).map some

/-- How an `Option` field is written. -/
def ofOption {α : Type} (write : α → Value) : Option α → Value
  | none => .null
  | some value => write value

@[simp] theorem optional_ofOption_string (text : Option String) :
    optional asStr (some (ofOption .string text)) = some text := by
  cases text <;> rfl

/-- What is read from a list is read from one of its items. -/
theorem mem_of_mapM_eq_some {α β : Type} {read : α → Option β} {items : List α}
    {results : List β} {result : β} (all : items.mapM read = some results)
    (member : result ∈ results) : ∃ item ∈ items, read item = some result := by
  induction items generalizing results with
  | nil =>
      cases all
      cases member
  | cons item items ih =>
      simp only [List.mapM_cons, Option.bind_eq_bind, Option.bind_eq_some_iff,
        Option.pure_def, Option.some.injEq] at all
      obtain ⟨first, read, rest, others, rfl⟩ := all
      cases member with
      | head => exact ⟨item, List.mem_cons_self, read⟩
      | tail _ later =>
          obtain ⟨found, among, isFound⟩ := ih others later
          exact ⟨found, List.mem_cons_of_mem item among, isFound⟩

theorem digitsValue_toString (number : Nat) :
    digitsValue (toString number).toList = number := by
  rw [Nat.toString_eq_repr, Nat.toList_repr]
  have read := @Nat.ofDigitChars_ten_toDigits number
  rwa [Nat.ofDigitChars_eq_foldl] at read

/-- A number is written with digits, each of one byte. -/
theorem utf8ByteSize_toString_le {number digits : Nat} (some : 0 < digits)
    (small : number < 10 ^ digits) : (toString number).utf8ByteSize ≤ digits := by
  have sizes : ∀ character ∈ (toString number).toList, character.utf8Size = 1 := by
    intro character member
    rw [Nat.toString_eq_repr, Nat.toList_repr] at member
    have digit := Nat.isDigit_of_mem_toDigits (by decide) (by decide) member
    simp only [Char.isDigit, Bool.and_eq_true, decide_eq_true_eq] at digit
    rw [Char.utf8Size_eq_one_iff]
    exact UInt32.le_trans digit.2 (by decide)
  have length : (toString number).utf8ByteSize = (toString number).toList.length := by
    rw [← textSize_toList, textSize, List.map_congr_left sizes]
    simp
  rw [length, Nat.toString_eq_repr, String.length_toList]
  exact (Nat.length_repr_le_iff some).mpr small

/-- A machine number that was written is read back. -/
theorem asU64_ofNat {number : Nat} (fits : number < 2 ^ 64) :
    (ofNat number).asU64 = some number := by
  have digits : (toString number).toList.all isAsciiDigit = true := by
    rw [List.all_eq_true]
    intro character member
    rw [Nat.toString_eq_repr, Nat.toList_repr] at member
    exact Nat.isDigit_of_mem_toDigits (by decide) (by decide) member
  have some : toString number ≠ "" := by
    rw [Nat.toString_eq_repr, ne_eq, ← String.toList_eq_nil_iff, Nat.toList_repr]
    exact Nat.toDigits_ne_nil
  simp only [ofNat, asU64, digitsValue_toString]
  rw [if_pos ⟨some, digits, fits⟩]

theorem asBounded_ofNat {number bound : Nat} (small : number < bound) (fits : bound ≤ 2 ^ 64) :
    (ofNat number).asBounded bound = some number := by
  rw [asBounded, asU64_ofNat (small.trans_le fits), Option.filter_some,
    if_pos (decide_eq_true small)]

end Value
end Protocol
end YunXi
