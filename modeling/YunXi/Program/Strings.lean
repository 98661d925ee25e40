import Mathlib.Data.List.DropRight
import Mathlib.Data.String.Basic

/-!
# Strings as lists of characters

The string operations that line-based formats are read with: prefixes, trimming and
splitting into lines.  They work on whole characters, so they never cut one in two.
-/

namespace YunXi
namespace Strings

/-- `value.strip_prefix(start)`. -/
def stripPrefix (start value : String) : Option String :=
  if start.toList.isPrefixOf value.toList then
    some (String.ofList (value.toList.drop start.toList.length))
  else none

/-- `value.starts_with(start)`. -/
def startsWith (start value : String) : Bool :=
  start.toList.isPrefixOf value.toList

/-- `value.trim_end_matches(..)`: drop every character at the end that satisfies a test. -/
def trimEndMatches (test : Char → Bool) (value : String) : String :=
  String.ofList (value.toList.rdropWhile test)

/-- `value.trim_matches(..)`: drop them at both ends. -/
def trimMatches (test : Char → Bool) (value : String) : String :=
  String.ofList ((value.toList.dropWhile test).rdropWhile test)

/-- `value.replace(old, new)` for one character. -/
def replaceCharacter (old new : Char) (value : String) : String :=
  String.ofList (value.toList.map fun character => if character = old then new else character)

/-- The lines of a text, each without the `\n` or `\r\n` that ends it. -/
def lineLists : List Char → List (List Char)
  | [] => []
  | '\n' :: rest => [] :: lineLists rest
  | '\r' :: '\n' :: rest => [] :: lineLists rest
  | character :: rest =>
      match lineLists rest with
      | [] => [[character]]
      | line :: more => (character :: line) :: more

/-- `value.lines()`. -/
def lines (value : String) : List String :=
  (lineLists value.toList).map String.ofList

/-- Every line followed by a line feed. -/
def unlines (texts : List String) : String :=
  String.join (texts.map (· ++ "\n"))

/-- Texts that can stand on a line of their own. -/
def IsLine (value : String) : Prop :=
  ∀ character ∈ value.toList, character ≠ '\n' ∧ character ≠ '\r'

instance (value : String) : Decidable (IsLine value) :=
  List.decidableBAll _ value.toList

@[simp] theorem stripPrefix_append (start rest : String) :
    stripPrefix start (start ++ rest) = some rest := by
  simp [stripPrefix]

@[simp] theorem startsWith_append (start rest : String) :
    startsWith start (start ++ rest) = true := by
  simp [startsWith]

theorem stripPrefix_eq_some {start value rest : String} :
    stripPrefix start value = some rest ↔ value = start ++ rest := by
  constructor
  · intro found
    unfold stripPrefix at found
    split at found
    case isTrue starts =>
      obtain ⟨tail, valueEq⟩ := List.isPrefixOf_iff_prefix.mp starts
      cases found
      rw [← String.toList_inj, String.toList_append, String.toList_ofList, ← valueEq,
        List.drop_left]
    case isFalse => cases found
  · rintro rfl
    exact stripPrefix_append start rest

theorem stripPrefix_eq_none {start value : String} :
    stripPrefix start value = none ↔ startsWith start value = false := by
  unfold stripPrefix startsWith
  split
  case isTrue starts => simp [starts]
  case isFalse differ => simp [Bool.eq_false_iff.mpr differ]

/-- Of two texts neither of which starts the other, no text starts with both. -/
theorem startsWith_append_of_ne {start first : String}
    (rest : String)
    (notShorter : startsWith start first = false)
    (notLonger : startsWith first start = false) :
    startsWith start (first ++ rest) = false := by
  unfold startsWith at *
  by_contra starts
  rw [Bool.not_eq_false, List.isPrefixOf_iff_prefix, String.toList_append] at starts
  rcases List.prefix_or_prefix_of_prefix starts (List.prefix_append _ _) with
    startFirst | firstStart
  · rw [List.isPrefixOf_iff_prefix.mpr startFirst] at notShorter
    cases notShorter
  · rw [List.isPrefixOf_iff_prefix.mpr firstStart] at notLonger
    cases notLonger

variable {test : Char → Bool}

/-- Trimming a text twice is trimming it once. -/
theorem trimMatches_trimMatches (value : String) :
    trimMatches test (trimMatches test value) = trimMatches test value := by
  unfold trimMatches
  rw [String.toList_ofList]
  have startsClean :
      ((value.toList.dropWhile test).rdropWhile test).dropWhile test =
        (value.toList.dropWhile test).rdropWhile test := by
    rw [List.dropWhile_eq_self_iff]
    intro nonempty
    have front := List.rdropWhile_prefix test (value.toList.dropWhile test)
    have longer : 0 < (value.toList.dropWhile test).length :=
      nonempty.trans_le front.length_le
    rw [front.getElem nonempty]
    exact List.dropWhile_get_zero_not test value.toList longer
  rw [startsClean, List.rdropWhile_idempotent]

/-- Leading characters that satisfy the test do not count. -/
theorem trimMatches_append_left {first : String}
    (rest : String)
    (dropped : first.toList.all test = true) :
    trimMatches test (first ++ rest) = trimMatches test rest := by
  unfold trimMatches
  rw [String.toList_append, List.dropWhile_append_of_pos (List.all_eq_true.mp dropped)]

/-- Trimming leaves a text that its ends fence off. -/
theorem trimMatches_append {first : String}
    (rest : String)
    (nonempty : first.toList ≠ [])
    (startsClean : first.toList.dropWhile test = first.toList)
    (endsClean : first.toList.rdropWhile test = first.toList) :
    trimMatches test (first ++ rest) = first ++ trimEndMatches test rest := by
  have kept : (first.toList ++ rest.toList).dropWhile test = first.toList ++ rest.toList := by
    rw [List.dropWhile_append, startsClean, if_neg (by simpa using nonempty)]
  have trimmed : (first.toList ++ rest.toList).rdropWhile test =
      first.toList ++ rest.toList.rdropWhile test := by
    unfold List.rdropWhile at endsClean ⊢
    rw [List.reverse_append, List.dropWhile_append]
    split
    case isTrue allDropped =>
      rw [endsClean, List.isEmpty_iff.mp allDropped, List.reverse_nil, List.append_nil]
    case isFalse => rw [List.reverse_append, List.reverse_reverse]
  rw [← String.toList_inj]
  simp only [trimMatches, trimEndMatches, String.toList_append, String.toList_ofList, kept,
    trimmed]

variable {old new : Char}

/-- A replacement that the test does not see commutes with trimming. -/
theorem trimMatches_replaceCharacter (value : String)
    (same : test new = test old) :
    trimMatches test (replaceCharacter old new value) =
      replaceCharacter old new (trimMatches test value) := by
  have unseen : (test ∘ fun character => if character = old then new else character) =
      test := by
    funext character
    by_cases isOld : character = old
    · simp [isOld, same]
    · simp [isOld]
  unfold trimMatches replaceCharacter
  rw [String.toList_ofList, String.toList_ofList, List.dropWhile_map, unseen]
  unfold List.rdropWhile
  rw [← List.map_reverse, List.dropWhile_map, unseen, List.map_reverse]

@[simp] theorem replaceCharacter_replaceCharacter (value : String) :
    replaceCharacter old new (replaceCharacter old new value) =
      replaceCharacter old new value := by
  unfold replaceCharacter
  rw [String.toList_ofList, List.map_map]
  congr 1
  apply List.map_congr_left
  intro character _
  by_cases isOld : character = old
  · simp [isOld]
  · simp [isOld]

@[simp] theorem replaceCharacter_eq_empty {value : String} :
    replaceCharacter old new value = "" ↔ value = "" := by
  unfold replaceCharacter
  rw [← String.toList_inj, String.toList_ofList, ← String.toList_inj]
  exact List.map_eq_nil_iff

/-- A replacement that the test does not see keeps what has it. -/
theorem any_replaceCharacter (test : Char → Bool)
    (value : String)
    (same : test new = test old) :
    (replaceCharacter old new value).toList.any test = value.toList.any test := by
  unfold replaceCharacter
  rw [String.toList_ofList, List.any_map]
  congr 1
  funext character
  by_cases isOld : character = old
  · simp [isOld, same]
  · simp [isOld]

theorem lineLists_append {text : List Char}
    (rest : List Char)
    (isLine : ∀ character ∈ text, character ≠ '\n' ∧ character ≠ '\r') :
    lineLists (text ++ '\n' :: rest) = text :: lineLists rest := by
  induction text with
  | nil => simp [lineLists]
  | cons character text ih =>
      obtain ⟨⟨notLineFeed, notReturn⟩, restIsLine⟩ := List.forall_mem_cons.mp isLine
      rw [List.cons_append, lineLists, ih restIsLine]
      · exact notLineFeed
      · intro after characterEq
        exact absurd characterEq notReturn

/-- Reading back texts that were written one to a line. -/
theorem lines_unlines {texts : List String}
    (areLines : ∀ text ∈ texts, IsLine text) :
    lines (unlines texts) = texts := by
  unfold lines unlines
  induction texts with
  | nil => simp [lineLists]
  | cons text texts ih =>
      obtain ⟨isLine, restAreLines⟩ := List.forall_mem_cons.mp areLines
      have charactersEq :
          (String.join ((text :: texts).map (· ++ "\n"))).toList =
            text.toList ++ '\n' :: (String.join (texts.map (· ++ "\n"))).toList := by
        simp [String.join_cons]
      rw [charactersEq, lineLists_append _ isLine, List.map_cons, String.ofList_toList,
        ih restAreLines]

theorem toNat_toLower (character : Char) : character.toLower.toNat =
    if 65 ≤ character.toNat ∧ character.toNat ≤ 90 then character.toNat + 32
    else character.toNat := by
  unfold Char.toLower
  split
  · next upper =>
    rw [ge_iff_le, UInt32.le_iff_toNat_le, UInt32.le_iff_toNat_le] at upper
    change 65 ≤ character.toNat ∧ character.toNat ≤ 90 at upper
    rw [if_pos upper]
    change (character.val + 32).toNat = character.val.toNat + 32
    have most : character.val.toNat ≤ 90 := upper.2
    rw [UInt32.toNat_add, show (32 : UInt32).toNat = 32 from rfl]
    exact Nat.mod_eq_of_lt (by omega)
  · next notUpper =>
    rw [ge_iff_le, UInt32.le_iff_toNat_le, UInt32.le_iff_toNat_le] at notUpper
    change ¬ (65 ≤ character.toNat ∧ character.toNat ≤ 90) at notUpper
    rw [if_neg notUpper]

theorem toLower_toLower (character : Char) : character.toLower.toLower = character.toLower := by
  apply Char.toNat_inj.mp
  rw [toNat_toLower character.toLower, toNat_toLower character]
  split
  · exact if_neg (by omega)
  · rfl

/-- Two texts whose first characters differ are different. -/
theorem ne_of_head {left right : String} (differ : left.toList.head? ≠ right.toList.head?) :
    left ≠ right :=
  fun equal => differ (congrArg (fun text => text.toList.head?) equal)

theorem head?_toList_append {left : String} (right : String) {character : Char}
    (head : left.toList.head? = some character) :
    (left ++ right).toList.head? = some character := by
  rw [String.toList_append, List.head?_append, head, Option.some_or]

theorem utf8ByteSize_replicate {character : Char} (one : character.utf8Size = 1) (count : Nat) :
    (String.ofList (List.replicate count character)).utf8ByteSize = count := by
  induction count with
  | zero => rfl
  | succ count ih =>
      rw [List.replicate_succ, String.ofList_cons, String.utf8ByteSize_append,
        String.utf8ByteSize_singleton, ih, one, Nat.add_comm]

end Strings
end YunXi
