import Mathlib.Data.List.Infix

/-!
# Replacing the matches of a pattern

A text is cut at the matches of a pattern, found from the left and without overlap, and put
together again around another text.  A pattern that shares no border with the new text can
then only occur in a part that was kept.
-/

namespace YunXi
namespace Replacing

variable {α : Type}

section Parts

variable [DecidableEq α]

/-- The parts of a text between the matches of a pattern that is not empty.  The number counts
what is left of a match that has been found. -/
def parts (old : List α) : Nat → List α → List (List α)
  | _, [] => [[]]
  | skip + 1, _ :: rest => parts old skip rest
  | 0, first :: rest =>
      if old.isPrefixOf (first :: rest) then [] :: parts old (old.length - 1) rest
      else
        match parts old 0 rest with
        | [] => [[first]]
        | part :: more => (first :: part) :: more

/-- Put a new text in the place of every match. -/
def replace (old new text : List α) : List α :=
  new.intercalate (parts old 0 text)

variable {old : List α}

theorem parts_ne_nil (skip : Nat) (text : List α) : parts old skip text ≠ [] := by
  fun_induction parts old skip text with
  | case1 => simp
  | case2 _ _ _ ih => exact ih
  | case3 => simp
  | case4 => simp
  | case5 => simp

/-- The first part is what the text starts with. -/
theorem prefix_of_parts {text part : List α} {more : List (List α)}
    (cut : parts old 0 text = part :: more) : part <+: text := by
  induction text generalizing part more with
  | nil =>
      rw [parts, List.cons.injEq] at cut
      rw [← cut.1]
  | cons first rest ih =>
      rw [parts] at cut
      split at cut
      · rw [List.cons.injEq] at cut
        rw [← cut.1]
        exact List.nil_prefix
      · cases later : parts old 0 rest with
        | nil => exact absurd later (parts_ne_nil 0 rest)
        | cons next others =>
            rw [later, List.cons.injEq] at cut
            rw [← cut.1, List.cons_prefix_cons]
            exact ⟨rfl, ih later⟩

/-- Every part is a piece of the text. -/
theorem infix_of_mem_parts {skip : Nat} {text part : List α}
    (member : part ∈ parts old skip text) : part <:+: text := by
  fun_induction parts old skip text generalizing part with
  | case1 =>
      rw [List.mem_singleton] at member
      rw [member]
  | case2 _ _ _ ih => exact List.infix_cons (ih member)
  | case3 first rest found ih =>
      cases member with
      | head => exact List.nil_infix
      | tail _ later => exact List.infix_cons (ih later)
  | case4 first rest _ none _ => exact absurd none (parts_ne_nil 0 rest)
  | case5 first rest _ next others later ih =>
      cases member with
      | head =>
          have start := prefix_of_parts later
          exact (List.cons_prefix_cons.mpr ⟨rfl, start⟩).isInfix
      | tail _ among =>
          apply List.infix_cons
          apply ih
          rw [later]
          exact List.mem_cons_of_mem next among

/-- No match is left in any part: a match at the front of a part would have been found. -/
theorem not_infix_of_mem_parts (nonempty : old ≠ []) {skip : Nat} {text part : List α}
    (member : part ∈ parts old skip text) : ¬ old <:+: part := by
  fun_induction parts old skip text generalizing part with
  | case1 =>
      rw [List.mem_singleton] at member
      rwa [member, List.infix_nil]
  | case2 _ _ _ ih => exact ih member
  | case3 first rest found ih =>
      cases member with
      | head => rwa [List.infix_nil]
      | tail _ later => exact ih later
  | case4 first rest _ none _ => exact absurd none (parts_ne_nil 0 rest)
  | case5 first rest unmatched next others later ih =>
      cases member with
      | head =>
          rw [List.infix_cons_iff]
          rintro (atFront | within)
          · have start := List.cons_prefix_cons.mpr
              (And.intro (rfl : first = first) (prefix_of_parts later))
            exact unmatched (List.isPrefixOf_iff_prefix.mpr (atFront.trans start))
          · exact ih (by rw [later]; exact List.mem_cons_self) within
      | tail _ among =>
          apply ih
          rw [later]
          exact List.mem_cons_of_mem next among

end Parts

/-- A pattern and a text that cannot be made to overlap: neither lies in the other, and no end
of one is a beginning of the other. -/
structure Apart (pattern new : List α) : Prop where
  notWithin : ¬ pattern <:+: new
  notAround : ¬ new <:+: pattern
  endsApart : ∀ part, part ≠ [] → part <:+ pattern → ¬ part <+: new
  startsApart : ∀ part, part ≠ [] → part <+: pattern → ¬ part <:+ new

instance [DecidableEq α] (pattern new : List α) : Decidable (Apart pattern new) :=
  decidable_of_iff
    ((¬ pattern <:+: new ∧ ¬ new <:+: pattern) ∧
      (∀ part ∈ pattern.tails, part ≠ [] → ¬ part <+: new) ∧
        ∀ part ∈ pattern.inits, part ≠ [] → ¬ part <:+ new)
    ⟨fun ⟨⟨within, around⟩, ends, starts⟩ =>
        ⟨within, around,
          fun part nonempty atEnd => ends part ((List.mem_tails _ _).mpr atEnd) nonempty,
          fun part nonempty atStart => starts part ((List.mem_inits _ _).mpr atStart) nonempty⟩,
      fun apart => ⟨⟨apart.notWithin, apart.notAround⟩,
        fun part atEnd nonempty => apart.endsApart part nonempty ((List.mem_tails _ _).mp atEnd),
        fun part atStart nonempty =>
          apart.startsApart part nonempty ((List.mem_inits _ _).mp atStart)⟩⟩

theorem Apart.ne_nil {pattern new : List α} (apart : Apart pattern new) : pattern ≠ [] := by
  rintro rfl
  exact apart.notWithin List.nil_infix

/-- What occurs in two texts in a row occurs in one of them or across the place they meet. -/
theorem infix_append_cases {pattern first second : List α}
    (occurs : pattern <:+: first ++ second) :
    pattern <:+: first ∨ pattern <:+: second ∨
      ∃ front back, front ≠ [] ∧ back ≠ [] ∧ pattern = front ++ back ∧
        front <:+ first ∧ back <+: second := by
  obtain ⟨before, after, textEq⟩ := occurs
  rw [List.append_assoc, List.append_eq_append_iff] at textEq
  rcases textEq with ⟨inside, firstEq, restEq⟩ | ⟨inside, _, secondEq⟩
  · rw [List.append_eq_append_iff] at restEq
    rcases restEq with ⟨later, insideEq, _⟩ | ⟨later, patternEq, secondEq⟩
    · rw [firstEq, insideEq, ← List.append_assoc]
      exact Or.inl (List.infix_append before pattern later)
    · by_cases noFront : inside = []
      · rw [patternEq, noFront, secondEq]
        exact Or.inr (Or.inl (List.prefix_append later after).isInfix)
      · by_cases noBack : later = []
        · rw [patternEq, noBack, firstEq, List.append_nil]
          exact Or.inl (List.suffix_append before inside).isInfix
        · refine Or.inr (Or.inr ⟨inside, later, noFront, noBack, patternEq, ?_, ?_⟩)
          · rw [firstEq]
            exact List.suffix_append before inside
          · rw [secondEq]
            exact List.prefix_append later after
  · rw [secondEq]
    exact Or.inr (Or.inl (List.infix_append' inside pattern after))

/-- A pattern apart from the text between the parts occurs within a part. -/
theorem Apart.infix_part {pattern new : List α} (apart : Apart pattern new)
    {pieces : List (List α)} (occurs : pattern <:+: new.intercalate pieces) :
    ∃ piece ∈ pieces, pattern <:+: piece := by
  induction pieces with
  | nil =>
      rw [List.intercalate_nil, List.infix_nil] at occurs
      exact absurd occurs apart.ne_nil
  | cons piece pieces ih =>
      cases pieces with
      | nil =>
          rw [List.intercalate_singleton] at occurs
          exact ⟨piece, List.mem_cons_self, occurs⟩
      | cons next pieces =>
          rw [List.intercalate_cons_cons, List.append_assoc] at occurs
          rcases infix_append_cases occurs with here | later | ⟨front, back, _, backSome, patternEq,
            _, backStart⟩
          · exact ⟨piece, List.mem_cons_self, here⟩
          · rcases infix_append_cases later with within | after | ⟨front, back, frontSome, _,
              patternEq, frontEnd, _⟩
            · exact absurd within apart.notWithin
            · obtain ⟨found, member, occursThere⟩ := ih after
              exact ⟨found, List.mem_cons_of_mem piece member, occursThere⟩
            · refine absurd frontEnd (apart.startsApart front frontSome ?_)
              rw [patternEq]
              exact List.prefix_append front back
          · have atEnd : back <:+ pattern := by
              rw [patternEq]
              exact List.suffix_append front back
            rcases List.prefix_or_prefix_of_prefix backStart (List.prefix_append new _) with
              short | long
            · exact absurd short (apart.endsApart back backSome atEnd)
            · exact absurd (long.isInfix.trans atEnd.isInfix) apart.notAround

section Hiding

variable [DecidableEq α] {pattern old new text : List α}

/-- Replacing brings in no pattern that is apart from the new text. -/
theorem Apart.not_infix_replace (apart : Apart pattern new) (absent : ¬ pattern <:+: text) :
    ¬ pattern <:+: replace old new text := by
  intro occurs
  obtain ⟨part, member, within⟩ := apart.infix_part occurs
  exact absent (within.trans (infix_of_mem_parts member))

/-- A pattern apart from the new text does not occur once it has been replaced. -/
theorem Apart.not_infix_replace_self (apart : Apart pattern new) :
    ¬ pattern <:+: replace pattern new text := by
  intro occurs
  obtain ⟨part, member, within⟩ := apart.infix_part occurs
  exact not_infix_of_mem_parts apart.ne_nil member within

/-- Replacing one pattern after the other. -/
def replaceAll (new : List α) (patterns : List (List α)) (text : List α) : List α :=
  patterns.foldl (fun text old => replace old new text) text

/-- What is absent stays absent while other patterns are replaced. -/
theorem Apart.not_infix_replaceAll (apart : Apart pattern new) (patterns : List (List α))
    (absent : ¬ pattern <:+: text) : ¬ pattern <:+: replaceAll new patterns text := by
  unfold replaceAll
  induction patterns generalizing text with
  | nil => exact absent
  | cons old patterns ih =>
      exact ih (apart.not_infix_replace absent)

end Hiding

end Replacing
end YunXi
