import Mathlib.Data.List.TakeWhile

/-!
# Words between separators

A list is split at its separators into words that are not empty.  Of such a list the words are
known, and of a list with known words it is known how it is made.
-/

namespace YunXi
namespace Words

variable {α : Type} {test : α → Bool}

/-- The words of a list, without the empty ones. -/
def words (test : α → Bool) (values : List α) : List (List α) :=
  (values.splitOnP test).filter fun word => !word.isEmpty

@[simp] theorem words_nil : words test [] = [] := rfl

theorem words_separator {separator : α} (separates : test separator = true) (values : List α) :
    words test (separator :: values) = words test values := by
  unfold words
  rw [← List.nil_append (separator :: values), List.splitOnP_append_cons _ _ separates]
  rfl

/-- A separator splits the words before it from those after it. -/
theorem words_append_cons {separator : α} (separates : test separator = true)
    (first second : List α) :
    words test (first ++ separator :: second) = words test first ++ words test second := by
  unfold words
  rw [List.splitOnP_append_cons _ _ separates, List.filter_append]

theorem words_append_blank {blank : List α} (isBlank : ∀ value ∈ blank, test value = true)
    (rest : List α) : words test (blank ++ rest) = words test rest := by
  induction blank with
  | nil => rfl
  | cons separator blank ih =>
      obtain ⟨separates, isBlank⟩ := List.forall_mem_cons.mp isBlank
      rw [List.cons_append, words_separator separates, ih isBlank]

variable {word : List α}

theorem words_of_word (filled : word ≠ [])
    (isWord : ∀ value ∈ word, test value = false) : words test word = [word] := by
  unfold words
  rw [List.splitOnP_eq_singleton isWord]
  cases word with
  | nil => exact absurd rfl filled
  | cons => rfl

/-- What follows a word: nothing, or a separator. -/
def Ends (test : α → Bool) (rest : List α) : Prop := ∀ value ∈ rest.head?, test value = true

theorem ends_append {blank : List α} (filled : blank ≠ [])
    (isBlank : ∀ value ∈ blank, test value = true) (rest : List α) : Ends test (blank ++ rest) := by
  obtain ⟨separator, blank, rfl⟩ := List.exists_cons_of_ne_nil filled
  rintro _ ⟨⟩
  exact isBlank separator List.mem_cons_self

theorem words_append_word {rest : List α} (filled : word ≠ [])
    (isWord : ∀ value ∈ word, test value = false) (ends : Ends test rest) :
    words test (word ++ rest) = word :: words test rest := by
  cases rest with
  | nil => rw [List.append_nil, words_of_word filled isWord, words_nil]
  | cons separator rest =>
      have separates := ends separator rfl
      rw [words_append_cons separates, words_of_word filled isWord, words_separator separates]
      rfl

/-- What starts with no separator starts with a word. -/
theorem exists_word_append {value : α} (starts : test value = false) (values : List α) :
    ∃ word rest, value :: values = word ++ rest ∧ word ≠ [] ∧
      (∀ value ∈ word, test value = false) ∧ Ends test rest := by
  refine ⟨(value :: values).takeWhile fun value => !test value,
    (value :: values).dropWhile fun value => !test value,
    List.takeWhile_append_dropWhile.symm, ?_, fun other member => ?_, fun other isHead => ?_⟩
  · rw [List.takeWhile_cons, starts]
    exact List.cons_ne_nil _ _
  · simpa using List.mem_takeWhile_imp member
  · simpa [(Option.mem_def.mp isHead)] using
      List.head?_dropWhile_not (fun value => !test value) (value :: values)

/-- A list with a first word is blank up to the word, which ends the list or has a separator
behind it. -/
theorem words_eq_cons {values : List α} {more : List (List α)}
    (found : words test values = word :: more) :
    ∃ blank rest, values = blank ++ (word ++ rest) ∧ (∀ value ∈ blank, test value = true) ∧
      word ≠ [] ∧ (∀ value ∈ word, test value = false) ∧ Ends test rest ∧
      words test rest = more := by
  induction values with
  | nil => cases found
  | cons value values ih =>
      cases separates : test value with
      | true =>
          rw [words_separator separates] at found
          obtain ⟨blank, rest, split, isBlank, isRest⟩ := ih found
          exact ⟨value :: blank, rest, by rw [split, List.cons_append],
            List.forall_mem_cons.mpr ⟨separates, isBlank⟩, isRest⟩
      | false =>
          obtain ⟨first, rest, split, filled, isWord, ends⟩ := exists_word_append separates values
          rw [split, words_append_word filled isWord ends] at found
          obtain ⟨rfl, rfl⟩ := List.cons_eq_cons.mp found
          exact ⟨[], rest, split, fun _ member => (nomatch member), filled, isWord, ends, rfl⟩

/-- A list without words is blank. -/
theorem isBlank_of_words_eq_nil {values : List α} (none : words test values = []) :
    ∀ value ∈ values, test value = true := by
  induction values with
  | nil => exact List.forall_mem_nil _
  | cons value values ih =>
      cases separates : test value with
      | true =>
          rw [words_separator separates] at none
          exact List.forall_mem_cons.mpr ⟨separates, ih none⟩
      | false =>
          obtain ⟨word, rest, split, filled, isWord, ends⟩ := exists_word_append separates values
          rw [split, words_append_word filled isWord ends] at none
          cases none

/-- Words are not empty and have no separators. -/
theorem isWord_of_mem {values : List α} (member : word ∈ words test values) :
    word ≠ [] ∧ ∀ value ∈ word, test value = false := by
  induction found : words test values generalizing values with
  | nil => cases found ▸ member
  | cons first more ih =>
      obtain ⟨blank, rest, -, -, filled, isWord, -, later⟩ := words_eq_cons found
      rcases List.mem_cons.mp (found ▸ member) with rfl | member
      · exact ⟨filled, isWord⟩
      · exact ih (later ▸ member) later

/-- Between two words of a list is a separator. -/
theorem ne_nil_of_ends {blank rest : List α} (filled : word ≠ [])
    (isWord : ∀ value ∈ word, test value = false) (ends : Ends test (blank ++ (word ++ rest))) :
    blank ≠ [] := by
  rintro rfl
  obtain ⟨value, tail, rfl⟩ := List.exists_cons_of_ne_nil filled
  cases (ends value rfl).symm.trans (isWord value List.mem_cons_self)

end Words
end YunXi
