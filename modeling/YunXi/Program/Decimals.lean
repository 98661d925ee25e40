import Mathlib.Algebra.GroupWithZero.Nat

/-!
# Numbers with leading zeros

Numbers that are written with as many digits are in the order of their texts, and so are lists of
such numbers.
-/

namespace YunXi
namespace Decimals

/-- The last digits of a number, as many as the width. -/
def digits : Nat → Nat → List Char
  | 0, _ => []
  | width + 1, number => digits width (number / 10) ++ [(number % 10).digitChar]

@[simp] theorem length_digits (width number : Nat) : (digits width number).length = width := by
  induction width generalizing number with
  | zero => rfl
  | succ width ih =>
      rw [digits, List.length_append, ih, List.length_singleton]

/-- Zero is written with zeros only. -/
theorem digits_zero (width : Nat) : digits width 0 = List.replicate width '0' := by
  induction width with
  | zero => rfl
  | succ width ih =>
      rw [digits, Nat.zero_div, ih, List.replicate_succ']
      rfl

/-- A number that is small enough is written with all its digits. -/
theorem leftpad_toDigits {width number : Nat} (some : 0 < width) (small : number < 10 ^ width) :
    (Nat.toDigits 10 number).leftpad width '0' = digits width number := by
  induction width generalizing number with
  | zero => exact absurd some (Nat.lt_irrefl 0)
  | succ width ih =>
      by_cases single : number < 10
      · have zero : number / 10 = 0 := Nat.div_eq_of_lt single
        rw [Nat.toDigits_of_lt_base single, digits, zero, digits_zero, Nat.mod_eq_of_lt single]
        rfl
      · have several := Nat.not_lt.mp single
        have positive : 0 < width := by
          rcases Nat.eq_zero_or_pos width with rfl | positive
          · exact absurd small single
          · exact positive
        have smaller : number / 10 < 10 ^ width := by
          rw [Nat.div_lt_iff_lt_mul (by decide), ← Nat.pow_succ]
          exact small
        rw [Nat.toDigits_of_base_le (by decide) several, digits,
          ← ih positive smaller, List.leftpad, List.leftpad, List.length_append,
          List.length_singleton, Nat.add_sub_add_right, List.append_assoc]

/-- Lists that begin with parts of one length are compared by these first. -/
theorem append_lt_append_iff {first second rest rest' : List Char}
    (same : first.length = second.length) :
    first ++ rest < second ++ rest' ↔ first < second ∨ first = second ∧ rest < rest' := by
  induction first generalizing second with
  | nil =>
      cases List.eq_nil_of_length_eq_zero same.symm
      simp
  | cons character first ih =>
      cases second with
      | nil => cases same
      | cons other second =>
          rw [List.cons_append, List.cons_append, List.cons_lt_cons_iff, List.cons_lt_cons_iff,
            ih (Nat.succ.inj same), List.cons.injEq]
          constructor
          · rintro (less | ⟨rfl, less | ⟨rfl, less⟩⟩)
            · exact .inl (.inl less)
            · exact .inl (.inr ⟨rfl, less⟩)
            · exact .inr ⟨⟨rfl, rfl⟩, less⟩
          · rintro ((less | ⟨rfl, less⟩) | ⟨⟨rfl, rfl⟩, less⟩)
            · exact .inl less
            · exact .inr ⟨rfl, .inl less⟩
            · exact .inr ⟨rfl, .inr ⟨rfl, less⟩⟩

theorem append_lt_append_left (first : List Char) {rest rest' : List Char} :
    first ++ rest < first ++ rest' ↔ rest < rest' := by
  rw [append_lt_append_iff rfl]
  simp [List.lt_irrefl]

theorem digitChar_lt_iff {first second : Nat} (small : first < 10) (small' : second < 10) :
    first.digitChar < second.digitChar ↔ first < second := by
  have all : ∀ first < 10, ∀ second < 10,
      (Nat.digitChar first < Nat.digitChar second ↔ first < second) := by decide
  exact all first small second small'

theorem digitChar_inj {first second : Nat} (small : first < 10) (small' : second < 10) :
    first.digitChar = second.digitChar ↔ first = second := by
  have all : ∀ first < 10, ∀ second < 10,
      (Nat.digitChar first = Nat.digitChar second ↔ first = second) := by decide
  exact all first small second small'

variable {width first second : Nat}

theorem digits_inj (small : first < 10 ^ width) (small' : second < 10 ^ width) :
    digits width first = digits width second ↔ first = second := by
  refine ⟨fun same => ?_, congrArg _⟩
  induction width generalizing first second with
  | zero => rw [Nat.lt_one_iff.mp small, Nat.lt_one_iff.mp small']
  | succ width ih =>
      have high : first / 10 < 10 ^ width := Nat.div_lt_of_lt_mul (Nat.pow_succ' ▸ small)
      have high' : second / 10 < 10 ^ width := Nat.div_lt_of_lt_mul (Nat.pow_succ' ▸ small')
      obtain ⟨sameHigh, sameLast⟩ := List.append_inj' same rfl
      have quotients := ih high high' sameHigh
      have lasts := (digitChar_inj (Nat.mod_lt _ (by decide)) (Nat.mod_lt _ (by decide))).mp
        (List.singleton_inj.mp sameLast)
      omega

/-- The texts of numbers of one width are in the order of the numbers. -/
theorem digits_lt_digits_iff (small : first < 10 ^ width) (small' : second < 10 ^ width) :
    digits width first < digits width second ↔ first < second := by
  induction width generalizing first second with
  | zero =>
      rw [Nat.lt_one_iff.mp small, Nat.lt_one_iff.mp small']
      simp [digits]
  | succ width ih =>
      have high : first / 10 < 10 ^ width := Nat.div_lt_of_lt_mul (Nat.pow_succ' ▸ small)
      have high' : second / 10 < 10 ^ width := Nat.div_lt_of_lt_mul (Nat.pow_succ' ▸ small')
      rw [digits, digits, append_lt_append_iff (by rw [length_digits, length_digits]),
        ih high high', digits_inj high high', List.cons_lt_cons_iff,
        digitChar_lt_iff (Nat.mod_lt _ (by decide)) (Nat.mod_lt _ (by decide))]
      simp only [List.lt_irrefl, and_false, or_false]
      omega

/-- Texts that begin with numbers of one width are compared by these first. -/
theorem field_lt_iff {rest rest' : List Char} (small : first < 10 ^ width)
    (small' : second < 10 ^ width) :
    digits width first ++ rest < digits width second ++ rest' ↔
      first < second ∨ first = second ∧ rest < rest' := by
  rw [append_lt_append_iff (by rw [length_digits, length_digits]), digits_inj small small',
    digits_lt_digits_iff small small']

end Decimals
end YunXi
