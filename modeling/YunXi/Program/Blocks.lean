import Mathlib.Data.List.Basic
import Mathlib.Data.List.Nodup
import Mathlib.Data.List.Range
import Mathlib.Algebra.GroupWithZero.Nat

/-!
# Blocks of a list

Where a block of consecutive elements stands in a list, and lists that are made of blocks
with gaps between them.
-/

namespace YunXi
namespace Blocks

variable {α : Type*} {block list : List α} {index : Nat}

/-- The block stands in the list behind `index` elements. -/
def OccursAt (block list : List α) (index : Nat) : Prop :=
  ∃ before after, list = before ++ block ++ after ∧ before.length = index

theorem OccursAt.le (occurs : OccursAt block list index) :
    index + block.length ≤ list.length := by
  obtain ⟨before, after, rfl, rfl⟩ := occurs
  simp only [List.length_append]
  omega

theorem occursAt_iff_take :
    OccursAt block list index ↔
      index + block.length ≤ list.length ∧ (list.drop index).take block.length = block := by
  constructor
  · intro occurs
    refine ⟨occurs.le, ?_⟩
    obtain ⟨before, after, rfl, rfl⟩ := occurs
    rw [List.append_assoc, List.drop_left, List.take_left]
  · rintro ⟨inside, stands⟩
    refine ⟨list.take index, (list.drop index).drop block.length, ?_, ?_⟩
    · conv_lhs => rw [← List.take_append_drop index list]
      conv_lhs => rw [← List.take_append_drop block.length (list.drop index), stands]
      rw [List.append_assoc]
    · rw [List.length_take]
      omega

/-- The list with a block in place of the elements from one index to another. -/
theorem take_append_drop_of_split (before block replaced after : List α) :
    (before ++ replaced ++ after).take before.length ++ block ++
        (before ++ replaced ++ after).drop (before.length + replaced.length) =
      before ++ block ++ after := by
  rw [List.append_assoc before replaced after, List.take_left, ← List.drop_drop, List.drop_left,
    List.drop_left]

/-- The one element of a list without repetition that passes a test. -/
theorem filter_eq_singleton {elements : List α} {test : α → Bool} {element : α}
    (nodup : elements.Nodup) :
    elements.filter test = [element] ↔
      element ∈ elements ∧ test element = true ∧
        ∀ other ∈ elements, test other = true → other = element := by
  rw [← List.perm_singleton, List.perm_ext_iff_of_nodup (nodup.filter test)
    (List.nodup_singleton element)]
  simp only [List.mem_filter, List.mem_singleton]
  constructor
  · intro only
    obtain ⟨isIn, passes⟩ := (only element).mpr rfl
    exact ⟨isIn, passes, fun other otherIn otherPasses => (only other).mp ⟨otherIn, otherPasses⟩⟩
  · rintro ⟨isIn, passes, only⟩ other
    constructor
    · exact fun ⟨otherIn, otherPasses⟩ => only other otherIn otherPasses
    · rintro rfl
      exact ⟨isIn, passes⟩

/-- Blocks, each followed by a gap. -/
def weave (blocks gaps : List (List α)) : List α :=
  (blocks.zip gaps).flatMap fun pair => pair.1 ++ pair.2

@[simp] theorem weave_cons (block gap : List α) (blocks gaps : List (List α)) :
    weave (block :: blocks) (gap :: gaps) = block ++ gap ++ weave blocks gaps := rfl

/-- The gaps count alike, so two weaves differ in length as their blocks do. -/
theorem length_weave {blocks gaps : List (List α)} (fits : gaps.length = blocks.length) :
    (weave blocks gaps).length =
      (blocks.map List.length).sum + (gaps.map List.length).sum := by
  induction blocks generalizing gaps with
  | nil =>
      rw [List.length_nil, List.length_eq_zero_iff] at fits
      rw [fits]
      rfl
  | cons block blocks ih =>
      cases gaps with
      | nil => cases fits
      | cons gap gaps =>
          rw [List.length_cons, List.length_cons, Nat.add_right_cancel_iff] at fits
          rw [weave_cons, List.length_append, List.length_append, ih fits]
          simp only [List.map_cons, List.sum_cons]
          omega

end Blocks
end YunXi
