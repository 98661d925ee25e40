import YunXi.ToolPatch.Placement

/-!
# Line terminators under an update

The lines of a file are read without their terminators and written with one terminator for
the whole file: a carriage return and a line feed if the file has one such pair, and a line
feed otherwise.  A file that does not mix the two keeps the bytes of every line that stays.
-/

namespace YunXi
namespace ToolPatch

open Blocks

/-- Some line feed has no carriage return before it. -/
def hasBareLf : List Char → Bool
  | '\r' :: '\n' :: rest => hasBareLf rest
  | '\n' :: _ => true
  | _ :: rest => hasBareLf rest
  | [] => false

/-- The file does not mix the two terminators. -/
def Uniform (text : String) : Prop :=
  containsCrLf text.toList = true → hasBareLf text.toList = false

instance (text : String) : Decidable (Uniform text) :=
  inferInstanceAs (Decidable (_ → _))

/-- The lines with their terminators; the last has one if the file ends with one. -/
def terminated (newline : String) (ends : Bool) : List String → List String
  | [] => []
  | [line] => [if ends then line ++ newline else line]
  | line :: next :: rest => (line ++ newline) :: terminated newline ends (next :: rest)

theorem join_terminated (newline : String) (ends : Bool) : ∀ lines : List String,
    String.join (terminated newline ends lines) =
      newline.intercalate lines ++ (if ends = true ∧ lines ≠ [] then newline else "")
  | [] => by simp [terminated]
  | [line] => by cases ends <;> simp [terminated]
  | line :: next :: rest => by
      rw [terminated, String.join_cons, join_terminated newline ends (next :: rest),
        String.intercalate_cons_cons]
      simp only [ne_eq, reduceCtorEq, not_false_eq_true, and_true, String.append_assoc]

/-- A text of lines is empty if there is no line, or one that is empty. -/
theorem intercalate_eq_empty {newline : String} (someNewline : newline ≠ "") :
    ∀ lines : List String, newline.intercalate lines = "" ↔ lines = [] ∨ lines = [""]
  | [] => by simp
  | [line] => by simp
  | line :: next :: rest => by
      rw [String.intercalate_cons_cons]
      constructor
      · intro empty
        have parts := congrArg String.toList empty
        simp only [String.toList_append, String.toList_empty, List.append_eq_nil_iff,
          String.toList_eq_nil_iff] at parts
        exact absurd parts.1.2 someNewline
      · simp

/-- The lines are written as they are, except that a single empty line is written as nothing. -/
theorem renderLines_eq {newline : String} (someNewline : newline ≠ "") {ends : Bool}
    {lines : List String} (notEmptyLine : ¬ (ends = true ∧ lines = [""])) :
    renderLines lines newline ends = String.join (terminated newline ends lines) := by
  rw [join_terminated, renderLines]
  have isEmpty := intercalate_eq_empty someNewline lines
  cases ends with
  | false => simp
  | true =>
      by_cases noLine : lines = []
      · rw [noLine]
        simp
      · have notEmpty : newline.intercalate lines ≠ "" := by
          rw [ne_eq, isEmpty]
          rintro (isNil | isOne)
          · exact noLine isNil
          · exact notEmptyLine ⟨rfl, isOne⟩
        simp [notEmpty, noLine]

variable {characters : List Char}

theorem replaceCrLf_of_noCrLf (none : containsCrLf characters = false) :
    replaceCrLf characters = characters := by
  fun_induction replaceCrLf characters with
  | case1 rest _ => simp [containsCrLf] at none
  | case2 character rest notPair ih =>
      rw [ih]
      rw [containsCrLf] at none
      · exact none
      · exact notPair
  | case3 => rfl

/-- Both terminators of a character list that has only pairs. -/
def expandLf (characters : List Char) : List Char :=
  characters.flatMap fun character => if character = '\n' then ['\r', '\n'] else [character]

theorem expandLf_replaceCrLf (pairs : hasBareLf characters = false) :
    expandLf (replaceCrLf characters) = characters := by
  fun_induction replaceCrLf characters with
  | case1 rest ih =>
      rw [hasBareLf] at pairs
      have tail := ih pairs
      unfold expandLf at tail ⊢
      rw [List.flatMap_cons, tail]
      rfl
  | case2 character rest notPair ih =>
      have notBare : character ≠ '\n' := by
        rintro rfl
        cases pairs
      rw [hasBareLf] at pairs
      · have tail := ih pairs
        unfold expandLf at tail ⊢
        rw [List.flatMap_cons, tail, if_neg notBare]
        rfl
      · exact notPair
      · exact notBare
  | case3 => rfl

theorem getLast?_replaceCrLf (characters : List Char) :
    (replaceCrLf characters).getLast? = characters.getLast? := by
  fun_induction replaceCrLf characters with
  | case1 rest ih =>
      rw [List.getLast?_cons, List.getLast?_cons, List.getLast?_cons, ih]
      rfl
  | case2 character rest _ ih =>
      rw [List.getLast?_cons, List.getLast?_cons, ih]
  | case3 => rfl

/-- No piece of a split holds the character that it was split at. -/
theorem not_mem_of_mem_splitOn {character : Char} : ∀ {characters piece : List Char},
    piece ∈ characters.splitOn character → character ∉ piece
  | [], piece, isPiece => by
      rw [List.splitOn_nil, List.mem_singleton] at isPiece
      rw [isPiece]
      exact List.not_mem_nil
  | first :: rest, piece, isPiece => by
      rw [List.splitOn_cons_eq_if_modifyHead] at isPiece
      split at isPiece
      case isTrue =>
        rcases List.mem_cons.mp isPiece with rfl | later
        · exact List.not_mem_nil
        · exact not_mem_of_mem_splitOn later
      case isFalse differs =>
        cases pieces : rest.splitOn character with
        | nil => exact absurd pieces (List.splitOn_ne_nil character rest)
        | cons head tail =>
            rw [pieces, List.modifyHead_cons] at isPiece
            rcases List.mem_cons.mp isPiece with rfl | later
            · rintro (_ | ⟨_, inHead⟩)
              · exact differs BEq.rfl
              · exact not_mem_of_mem_splitOn (pieces ▸ List.mem_cons_self) inHead
            · exact not_mem_of_mem_splitOn (pieces ▸ List.mem_cons_of_mem head later)

/-- The pieces of a text between its line feeds. -/
def pieces (value : String) : List String := (value.toList.splitOn '\n').map String.ofList

theorem intercalate_pieces (value : String) : "\n".intercalate (pieces value) = value := by
  rw [← String.toList_inj, String.toList_intercalate, pieces, List.map_map]
  have same : String.toList ∘ String.ofList = id := funext fun _ => String.toList_ofList
  rw [same, List.map_id]
  exact List.intercalate_splitOn '\n'

theorem pieces_ne_nil (value : String) : pieces value ≠ [] := by
  unfold pieces
  rw [ne_eq, List.map_eq_nil_iff]
  exact List.splitOn_ne_nil _ _

theorem not_mem_piece {value piece : String} (isPiece : piece ∈ pieces value) :
    '\n' ∉ piece.toList := by
  obtain ⟨characters, isIn, rfl⟩ := List.mem_map.mp isPiece
  rw [String.toList_ofList]
  exact not_mem_of_mem_splitOn isIn

/-- A text that is joined from lines ends as the last of them, unless that one is empty. -/
theorem getLast?_intercalate (newline : String) {last : String} (before : List String)
    (notEmpty : last ≠ "") :
    (newline.intercalate (before ++ [last])).toList.getLast? = last.toList.getLast? := by
  have some : last.toList ≠ [] := by rwa [ne_eq, String.toList_eq_nil_iff]
  cases before with
  | nil => rw [List.nil_append, String.intercalate_singleton]
  | cons first rest =>
      rw [String.intercalate_append_of_ne_nil (List.cons_ne_nil _ _) (List.cons_ne_nil _ _),
        String.intercalate_singleton, String.toList_append, List.getLast?_append_of_ne_nil _ some]

/-- The lines of a text that does not end with a line feed are its pieces, and the others have
no last piece. -/
theorem splitLines_cases (value : String) :
    (value = "" ∧ splitLines value = []) ∨
      (∃ last before, last ≠ "" ∧ splitLines value = before ++ [last] ∧
        pieces value = before ++ [last]) ∨
      (splitLines value ≠ [] ∧ pieces value = splitLines value ++ [""]) := by
  by_cases empty : value = ""
  · exact .inl ⟨empty, if_pos empty⟩
  · have lines : splitLines value =
        if (pieces value).getLast? = some "" then (pieces value).dropLast else pieces value :=
      if_neg empty
    obtain ⟨before, last, piecesEq⟩ : ∃ before last, pieces value = before ++ [last] :=
      ⟨_, _, (List.dropLast_append_getLast (pieces_ne_nil value)).symm⟩
    have lastEq : (pieces value).getLast? = some last := by
      rw [piecesEq, List.getLast?_concat]
    right
    by_cases noLast : last = ""
    · right
      rw [lines, if_pos (lastEq.trans (congrArg some noLast)), piecesEq, List.dropLast_concat,
        noLast]
      refine ⟨?_, rfl⟩
      rintro rfl
      have whole := intercalate_pieces value
      rw [piecesEq, noLast] at whole
      exact empty whole.symm
    · left
      rw [lines, if_neg fun isEmpty => noLast (Option.some.inj (lastEq.symm.trans isEmpty))]
      exact ⟨last, before, noLast, piecesEq, piecesEq⟩

/-- The lines of a text hold no line feed, and are the text again with line feeds. -/
theorem splitLines_spec (value : String) :
    (∀ line ∈ splitLines value, '\n' ∉ line.toList) ∧
      value = String.join
        (terminated "\n" (value.toList.getLast? = some '\n') (splitLines value)) := by
  have whole := intercalate_pieces value
  rw [join_terminated]
  rcases splitLines_cases value with ⟨empty, noLine⟩ | ⟨last, before, notEmpty, linesEq, same⟩ |
    ⟨someLine, piecesEq⟩
  · rw [noLine, empty]
    exact ⟨nofun, by simp⟩
  · rw [linesEq, ← same]
    refine ⟨fun line isLine => not_mem_piece isLine, ?_⟩
    have lastChar := getLast?_intercalate "\n" before notEmpty
    rw [← same, whole] at lastChar
    have notEnds : value.toList.getLast? ≠ some '\n' := by
      rw [lastChar]
      intro ends
      exact not_mem_piece (same ▸ List.mem_append_right before List.mem_cons_self)
        (List.mem_of_getLast? ends)
    rw [whole, if_neg (fun both => notEnds (decide_eq_true_iff.mp both.1)), String.append_empty]
  · rw [piecesEq, String.intercalate_append_of_ne_nil someLine (List.cons_ne_nil _ _),
      String.intercalate_singleton, String.append_empty] at whole
    refine ⟨fun line isLine => not_mem_piece (piecesEq ▸ List.mem_append_left _ isLine), ?_⟩
    have ends : value.toList.getLast? = some '\n' := by
      rw [← whole, String.toList_append]
      exact List.getLast?_concat
    rw [if_pos ⟨decide_eq_true ends, someLine⟩, whole]

theorem expandLf_append (left right : List Char) :
    expandLf (left ++ right) = expandLf left ++ expandLf right :=
  List.flatMap_append

theorem expandLf_of_not_mem (none : '\n' ∉ characters) :
    expandLf characters = characters := by
  unfold expandLf
  induction characters with
  | nil => rfl
  | cons first rest ih =>
      rw [List.mem_cons, not_or] at none
      rw [List.flatMap_cons, ih none.2, if_neg (Ne.symm none.1)]
      rfl

/-- Expanding the line feeds turns one terminator into the other. -/
theorem expandLf_terminated (ends : Bool) : ∀ {lines : List String},
    (∀ line ∈ lines, '\n' ∉ line.toList) →
    expandLf (String.join (terminated "\n" ends lines)).toList =
      (String.join (terminated "\r\n" ends lines)).toList
  | [], _ => rfl
  | [line], free => by
      have own := expandLf_of_not_mem (free line List.mem_cons_self)
      cases ends with
      | false => simpa [terminated] using own
      | true =>
          simp only [terminated, if_true, String.join_cons, String.join_nil, String.append_empty,
            String.toList_append, expandLf_append, own]
          rfl
  | line :: next :: rest, free => by
      have own := expandLf_of_not_mem (free line List.mem_cons_self)
      have later := expandLf_terminated ends fun other isLater =>
        free other (List.mem_cons_of_mem line isLater)
      rw [terminated, terminated, String.join_cons, String.join_cons, String.toList_append,
        expandLf_append, later, String.toList_append, expandLf_append, own,
        String.toList_append, String.toList_append]
      rfl

theorem endsLine_eq (text : String) : endsLine text = decide (text.toList.getLast? = some '\n') := by
  unfold endsLine
  rw [getLast?_replaceCrLf]

variable {text : String}

/-- A file that does not mix terminators is its lines, each with the terminator of the file. -/
theorem eq_join_terminated (uniform : Uniform text) :
    text = String.join (terminated (fileNewline text) (endsLine text) (fileLines text)) := by
  obtain ⟨free, whole⟩ := splitLines_spec (String.ofList (replaceCrLf text.toList))
  rw [String.toList_ofList] at whole
  unfold fileNewline
  split
  case isTrue hasPair =>
    have expanded := expandLf_replaceCrLf (uniform hasPair)
    have normal : (String.ofList (replaceCrLf text.toList)).toList = replaceCrLf text.toList :=
      String.toList_ofList
    rw [← normal, whole, expandLf_terminated _ free] at expanded
    exact String.toList_inj.mp expanded.symm
  case isFalse noPair =>
    rw [Bool.not_eq_true] at noPair
    have normal : String.ofList (replaceCrLf text.toList) = text := by
      rw [replaceCrLf_of_noCrLf noPair, String.ofList_toList]
    conv_lhs => rw [← normal, whole]
    rfl

theorem fileNewline_ne (text : String) : fileNewline text ≠ "" := by
  unfold fileNewline
  split <;> decide

/-- The last line of a file that does not end with a terminator. -/
theorem last_of_not_endsLine {last : String} (notEnds : endsLine text = false)
    (isLast : (fileLines text).getLast? = some last) : last ≠ "" ∧ '\n' ∉ last.toList := by
  have normal : (String.ofList (replaceCrLf text.toList)).toList = replaceCrLf text.toList :=
    String.toList_ofList
  rcases splitLines_cases (String.ofList (replaceCrLf text.toList)) with
    ⟨-, noLine⟩ | ⟨other, before, notEmpty, linesEq, piecesEq⟩ | ⟨someLine, piecesEq⟩
  · rw [fileLines, noLine] at isLast
    cases isLast
  · rw [fileLines, linesEq, List.getLast?_concat, Option.some.injEq] at isLast
    subst isLast
    exact ⟨notEmpty, not_mem_piece (piecesEq ▸ List.mem_append_right before List.mem_cons_self)⟩
  · have whole := intercalate_pieces (String.ofList (replaceCrLf text.toList))
    rw [piecesEq, String.intercalate_append_of_ne_nil someLine (List.cons_ne_nil _ _),
      String.intercalate_singleton, String.append_empty] at whole
    unfold endsLine at notEnds
    rw [← normal, ← whole, String.toList_append] at notEnds
    exact absurd List.getLast?_concat (decide_eq_false_iff_not.mp notEnds)

theorem endsLine_of_noLine (noLine : fileLines text = []) :
    endsLine text = false := by
  obtain ⟨-, whole⟩ := splitLines_spec (String.ofList (replaceCrLf text.toList))
  rw [show splitLines (String.ofList (replaceCrLf text.toList)) = [] from noLine, terminated,
    String.join_nil, String.ofList_eq_empty_iff] at whole
  rw [endsLine, whole]
  rfl

theorem getLast?_fileNewline (text : String) :
    (fileNewline text).toList.getLast? = some '\n' := by
  unfold fileNewline
  split <;> rfl

/-- Written lines end as the file does if the last of them is the last line of the file. -/
theorem endsLine_terminated {final : List String}
    (sameLast : final.getLast? = (fileLines text).getLast?) :
    endsLine (String.join (terminated (fileNewline text) (endsLine text) final)) =
      endsLine text := by
  rw [endsLine_eq, join_terminated]
  by_cases noLine : final = []
  · rw [noLine, List.getLast?_nil, eq_comm, List.getLast?_eq_none_iff] at sameLast
    rw [noLine, endsLine_of_noLine sameLast]
    simp
  · obtain ⟨before, last, finalEq⟩ : ∃ before last, final = before ++ [last] :=
      ⟨_, _, (List.dropLast_append_getLast noLine).symm⟩
    cases ends : endsLine text with
    | true =>
        have newlineEnds := getLast?_fileNewline text
        have someChar : (fileNewline text).toList ≠ [] := by
          rw [ne_eq, String.toList_eq_nil_iff]
          exact fileNewline_ne text
        rw [if_pos ⟨rfl, noLine⟩, String.toList_append, List.getLast?_append_of_ne_nil _ someChar,
          newlineEnds]
        rfl
    | false =>
        rw [finalEq, List.getLast?_concat, eq_comm] at sameLast
        obtain ⟨notEmpty, free⟩ := last_of_not_endsLine ends sameLast
        rw [if_neg (fun both => Bool.false_ne_true both.1), String.append_empty, finalEq,
          getLast?_intercalate _ before notEmpty, decide_eq_false_iff_not]
        exact fun isLast => free (List.mem_of_getLast? isLast)

/-- A hunk that only shows lines. -/
def IsContext (hunk : List PatchLine) : Prop :=
  ∀ line ∈ hunk, line.isAdd = false ∧ line.isRemove = false

theorem newLines_of_isContext {hunk : List PatchLine} (isContext : IsContext hunk) :
    newLines hunk = oldLines hunk := by
  unfold newLines oldLines
  refine List.filterMap_congr fun line isIn => ?_
  obtain ⟨notAdd, notRemove⟩ := isContext line isIn
  cases line with
  | context => rfl
  | add => cases notAdd
  | remove => cases notRemove

theorem Woven.eq_of_isContext {lines final : List String} {hunks : List (List PatchLine)}
    (woven : Woven lines hunks final) (areContext : ∀ hunk ∈ hunks, IsContext hunk) :
    final = lines := by
  obtain ⟨first, gaps, -, rfl, rfl⟩ := woven
  rw [List.map_congr_left fun hunk isIn => newLines_of_isContext (areContext hunk isIn)]

/-- An update changes the lines that its hunks replace.  It writes the others as they are, with
the terminator of the file, and a file that does not mix terminators is its lines with that
terminator; it ends as it did if its last line is still the last, and a file whose hunks only
show lines stays as it is.  A single empty line that ends the file is left open. -/
theorem applyHunks_keeps {hunks : List (List PatchLine)} {content : ByteArray}
    {added removed : Nat}
    (accepted : applyHunks text.toUTF8 hunks = .ok (content, added, removed)) :
    (Uniform text →
      text = String.join (terminated (fileNewline text) (endsLine text) (fileLines text))) ∧
      ∃ final, Replaces (fileLines text) 0 hunks final ∧ Woven (fileLines text) hunks final ∧
        (¬ (endsLine text = true ∧ final = [""]) → ∃ output : String, content = output.toUTF8 ∧
          output = String.join (terminated (fileNewline text) (endsLine text) final) ∧
          (final.getLast? = (fileLines text).getLast? → endsLine output = endsLine text) ∧
          (Uniform text → (∀ hunk ∈ hunks, IsContext hunk) → content = text.toUTF8)) := by
  refine ⟨eq_join_terminated, ?_⟩
  rw [applyHunks_toUTF8] at accepted
  cases ran : applyLines ⟨fileLines text, 0, 0, 0⟩ hunks with
  | error error =>
      rw [ran] at accepted
      cases accepted
  | ok state =>
      rw [ran] at accepted
      cases accepted
      have replaces := (applyLines_start.mp ⟨state.cursor, ran⟩).1
      have woven := replaces.woven_of_start
      refine ⟨state.lines, replaces, woven, fun notEmptyLine => ⟨_, rfl,
        renderLines_eq (fileNewline_ne text) notEmptyLine, fun sameLast => ?_,
        fun uniform areContext => ?_⟩⟩
      · rw [renderLines_eq (fileNewline_ne text) notEmptyLine]
        exact endsLine_terminated sameLast
      · rw [renderLines_eq (fileNewline_ne text) notEmptyLine,
          woven.eq_of_isContext areContext, ← eq_join_terminated uniform]

/-- A file of three lines, the second of which is replaced. -/
theorem applyHunks_keeps_replaced : ∃ final,
    Woven ["one", "two", "three"] [[.context "one", .remove "two", .add "deux"]] final ∧
      (final ≠ [""] → ∃ output : String, "one\r\ndeux\r\nthree\r\n".toUTF8 = output.toUTF8 ∧
        output = String.join (terminated "\r\n" true final)) := by
  obtain ⟨-, final, -, woven, keeps⟩ := @applyHunks_keeps "one\r\ntwo\r\nthree\r\n"
    [[.context "one", .remove "two", .add "deux"]] "one\r\ndeux\r\nthree\r\n".toUTF8 1 1
    (by decide)
  refine ⟨final, woven, fun someLine => ?_⟩
  obtain ⟨output, same, isJoined, -⟩ := keeps fun ended => someLine ended.2
  exact ⟨output, same, isJoined⟩

/-- A hunk that only shows a line rewrites the terminator of another one. -/
theorem applyHunks_rewrites :
    applyHunks "one\r\ntwo\n".toUTF8 [[.context "one"]] = .ok ("one\r\ntwo\r\n".toUTF8, 0, 0) ∧
      "one\r\ntwo\r\n".toUTF8 ≠ "one\r\ntwo\n".toUTF8 := by
  decide

end ToolPatch
end YunXi
