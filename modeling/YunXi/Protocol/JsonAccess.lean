import YunXi.Protocol.Json

/-!
# Reading and measuring JSON values

Readers return nothing for a value of another kind.  Escaping makes no text longer than
six times its size, so a value built around a text is bounded by that text.
-/

namespace YunXi
namespace Protocol
namespace Value

/-- `Value::get` with a key. -/
def get (value : Value) (key : String) : Option Value :=
  match value with
  | .object members => members.lookup key
  | _ => none

def asStr : Value → Option String
  | .string value => some value
  | _ => none

def asBool : Value → Option Bool
  | .bool value => some value
  | _ => none

def asArray : Value → Option (List Value)
  | .array items => some items
  | _ => none

def asObject : Value → Option (List (String × Value))
  | .object members => some members
  | _ => none

def digitsValue (digits : List Char) : Nat :=
  digits.foldl (fun value digit => 10 * value + (digit.toNat - 48)) 0

/-- `Value::as_u64`; only unsigned integers of 64 bits are printed in plain digits. -/
def asU64 : Value → Option Nat
  | .number text =>
      if text ≠ "" ∧ text.toList.all isAsciiDigit ∧ digitsValue text.toList < 2 ^ 64 then
        some (digitsValue text.toList)
      else none
  | _ => none

/-- A new line at a depth of nesting, each level indented by two spaces. -/
def newLine (depth : Nat) : List Char :=
  '\n' :: List.replicate (2 * depth) ' '

mutual

/-- The text `serde_json` writes with indentation at a depth of nesting. -/
def prettyAt (depth : Nat) : Value → List Char
  | .null => write .null
  | .bool value => write (.bool value)
  | .number text => write (.number text)
  | .string value => write (.string value)
  | .array items =>
      if items.isEmpty then ['[', ']']
      else '[' :: prettyItems (depth + 1) items ++ newLine depth ++ [']']
  | .object members =>
      if members.isEmpty then ['\x7b', '\x7d']
      else '\x7b' :: prettyMembers (depth + 1) members ++ newLine depth ++ ['\x7d']

def prettyItems (depth : Nat) : List Value → List Char
  | [] => []
  | [item] => newLine depth ++ prettyAt depth item
  | item :: next :: items =>
      newLine depth ++ prettyAt depth item ++ ',' :: prettyItems depth (next :: items)

def prettyMembers (depth : Nat) : List (String × Value) → List Char
  | [] => []
  | [(key, value)] => newLine depth ++ writeString key ++ ':' :: ' ' :: prettyAt depth value
  | (key, value) :: next :: members =>
      newLine depth ++ writeString key ++ ':' :: ' ' :: prettyAt depth value ++
        ',' :: prettyMembers depth (next :: members)

end

/-- `serde_json::to_string_pretty`. -/
def writePretty (value : Value) : List Char := prettyAt 0 value

/-- The size of a text in bytes. -/
def textSize (text : List Char) : Nat :=
  (text.map Char.utf8Size).sum

@[simp] theorem textSize_nil : textSize [] = 0 := rfl

@[simp] theorem textSize_cons (character : Char) (text : List Char) :
    textSize (character :: text) = character.utf8Size + textSize text := by
  simp [textSize]

@[simp] theorem textSize_append (first second : List Char) :
    textSize (first ++ second) = textSize first + textSize second := by
  simp [textSize]

theorem utf8ByteSize_ofList (text : List Char) :
    (String.ofList text).utf8ByteSize = textSize text := by
  induction text with
  | nil => rfl
  | cons character text ih =>
      rw [String.ofList_cons, String.utf8ByteSize_append, String.utf8ByteSize_singleton,
        ih, textSize_cons]

theorem textSize_toList (text : String) : textSize text.toList = text.utf8ByteSize := by
  rw [← utf8ByteSize_ofList, String.ofList_toList]

theorem utf8Size_hexDigit : ∀ digit < 16, (hexDigit digit).utf8Size = 1 := by
  decide

/-- Escaping makes a character at most six times as long. -/
theorem textSize_escapeCharacter_le (character : Char) :
    textSize (escapeCharacter character) ≤ 6 * character.utf8Size := by
  have atLeastOne : 1 ≤ character.utf8Size := character.utf8Size_pos
  have sizes : ('\\').utf8Size = 1 ∧ ('\"').utf8Size = 1 ∧ ('b').utf8Size = 1 ∧
      ('t').utf8Size = 1 ∧ ('n').utf8Size = 1 ∧ ('f').utf8Size = 1 ∧ ('r').utf8Size = 1 ∧
      ('u').utf8Size = 1 ∧ ('0').utf8Size = 1 := by decide
  unfold escapeCharacter
  split
  case h_8 =>
    split
    case isTrue control =>
      have high := utf8Size_hexDigit (character.toNat / 16) (by omega)
      have low := utf8Size_hexDigit (character.toNat % 16) (by omega)
      simp only [textSize_cons, textSize_nil, sizes, high, low]
      omega
    case isFalse =>
      simp only [textSize_cons, textSize_nil]
      omega
  all_goals
    simp only [textSize_cons, textSize_nil, sizes]
    omega

theorem textSize_flatMap_escape_le (text : List Char) :
    textSize (text.flatMap escapeCharacter) ≤ 6 * textSize text := by
  induction text with
  | nil => exact Nat.le_refl 0
  | cons character text ih =>
      have escaped := textSize_escapeCharacter_le character
      rw [List.flatMap_cons, textSize_append, textSize_cons]
      omega

/-- Escaping does not shorten a character. -/
theorem le_textSize_escapeCharacter (character : Char) :
    character.utf8Size ≤ textSize (escapeCharacter character) := by
  unfold escapeCharacter
  split
  case h_8 =>
    split
    case isTrue control =>
      have single : character.utf8Size = 1 := by
        rw [Char.utf8Size_eq_one_iff, UInt32.le_iff_toNat_le]
        have code : character.val.toNat < 32 := control
        exact (Nat.le_of_lt code).trans (by decide)
      simp only [textSize_cons, single]
      exact Nat.le_add_right_of_le (by decide)
    case isFalse => simp
  all_goals
    next code =>
      have single : character.utf8Size = 1 := by
        rw [Char.utf8Size_eq_one_iff, UInt32.le_iff_toNat_le]
        have value : character.val.toNat = _ := code
        rw [value]
        decide
      simp only [textSize_cons, single]
      exact Nat.le_add_right_of_le (by decide)

theorem le_textSize_flatMap_escape (text : List Char) :
    textSize text ≤ textSize (text.flatMap escapeCharacter) := by
  induction text with
  | nil => exact Nat.le_refl 0
  | cons character text ih =>
      have escaped := le_textSize_escapeCharacter character
      rw [List.flatMap_cons, textSize_append, textSize_cons]
      omega

/-- A JSON string is no shorter than its text. -/
theorem le_textSize_writeString (text : String) :
    text.utf8ByteSize ≤ textSize (writeString text) := by
  have escaped := le_textSize_flatMap_escape text.toList
  rw [textSize_toList] at escaped
  unfold writeString
  rw [textSize_append, textSize_cons]
  omega

/-- A JSON string is at most six times as long as its text, quotation marks apart. -/
theorem textSize_writeString_le (text : String) :
    textSize (writeString text) ≤ 6 * text.utf8ByteSize + 2 := by
  have escaped := textSize_flatMap_escape_le text.toList
  rw [textSize_toList] at escaped
  have quote : ('\"').utf8Size = 1 := by decide
  unfold writeString
  rw [textSize_append, textSize_cons, textSize_cons, textSize_nil, quote]
  omega

theorem encodedSize_eq (value : Value) : value.encodedSize = textSize value.write := rfl

theorem encodedSize_string_le (text : String) :
    (string text).encodedSize ≤ 6 * text.utf8ByteSize + 2 := by
  rw [encodedSize_eq, write]
  exact textSize_writeString_le text

/-- What a member adds to an object at most, with the comma after it. -/
def memberBound (member : String × Value) : Nat :=
  6 * member.1.utf8ByteSize + 4 + member.2.encodedSize

theorem textSize_writeMembers_le (members : List (String × Value)) :
    textSize (writeMembers members) ≤ (members.map memberBound).sum := by
  have colon : (':').utf8Size = 1 := by decide
  have comma : (',').utf8Size = 1 := by decide
  induction members with
  | nil => exact Nat.le_refl 0
  | cons member rest ih =>
      obtain ⟨key, value⟩ := member
      have keySize := textSize_writeString_le key
      cases rest with
      | nil =>
          simp only [writeMembers, textSize_append, textSize_cons, colon, List.map_cons,
            List.map_nil, List.sum_cons, List.sum_nil, memberBound, encodedSize_eq]
          omega
      | cons next rest =>
          simp only [writeMembers, textSize_append, textSize_cons, colon, comma, List.map_cons,
            List.sum_cons, memberBound, encodedSize_eq] at ih ⊢
          omega

theorem encodedSize_object_le (members : List (String × Value)) :
    (object members).encodedSize ≤ 2 + (members.map memberBound).sum := by
  have bound := textSize_writeMembers_le members
  have opening : ('\x7b').utf8Size = 1 := by decide
  have closing : ('\x7d').utf8Size = 1 := by decide
  rw [encodedSize_eq, write, textSize_append, textSize_cons, textSize_cons, textSize_nil,
    opening, closing]
  omega

@[simp] theorem encodedSize_bool_le (value : Bool) : (bool value).encodedSize ≤ 5 := by
  cases value <;> decide

end Value
end Protocol
end YunXi
