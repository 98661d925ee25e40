import Mathlib.Data.List.Basic
import Mathlib.Data.Option.Basic

/-!
# Markup with escaped text

A document is a list of tags, each with the text behind it.  A tag is fixed markup around values in
quotation marks.  Texts and values are escaped when they are printed, so a reader that splits a
document at its angle brackets finds just the tags that were printed, with the same texts.
-/

namespace YunXi
namespace Markup

def escapeCharacter : Char → List Char
  | '&' => ['&', 'a', 'm', 'p', ';']
  | '<' => ['&', 'l', 't', ';']
  | '>' => ['&', 'g', 't', ';']
  | '\"' => ['&', 'q', 'u', 'o', 't', ';']
  | '\'' => ['&', 'a', 'p', 'o', 's', ';']
  | character => [character]

def escape (text : List Char) : List Char := text.flatMap escapeCharacter

@[simp] theorem escape_cons (character : Char) (rest : List Char) :
    escape (character :: rest) = escapeCharacter character ++ escape rest := rfl

/-- Read a text; an ampersand has to begin one of the five escapes. -/
def unescape : List Char → Option (List Char)
  | [] => some []
  | '&' :: 'a' :: 'm' :: 'p' :: ';' :: rest => (unescape rest).map ('&' :: ·)
  | '&' :: 'l' :: 't' :: ';' :: rest => (unescape rest).map ('<' :: ·)
  | '&' :: 'g' :: 't' :: ';' :: rest => (unescape rest).map ('>' :: ·)
  | '&' :: 'q' :: 'u' :: 'o' :: 't' :: ';' :: rest => (unescape rest).map ('\"' :: ·)
  | '&' :: 'a' :: 'p' :: 'o' :: 's' :: ';' :: rest => (unescape rest).map ('\'' :: ·)
  | character :: rest =>
      if character = '&' then none else (unescape rest).map (character :: ·)

/-- Characters that stand for markup. -/
def isMarkup (character : Char) : Bool :=
  character == '<' || character == '>' || character == '\"'

theorem escapeCharacter_of_plain {character : Char} (plain : isMarkup character = false)
    (notAmpersand : character ≠ '&') (notApostrophe : character ≠ '\'') :
    escapeCharacter character = [character] := by
  unfold escapeCharacter
  split <;> simp_all [isMarkup]

/-- No escaped text contains markup. -/
theorem isMarkup_of_mem_escape {text : List Char} {character : Char}
    (among : character ∈ escape text) : isMarkup character = false := by
  obtain ⟨original, -, isPart⟩ := List.mem_flatMap.mp among
  have parts : ∀ part ∈ escapeCharacter original, isMarkup part = false := by
    unfold escapeCharacter
    split
    iterate 5 simp [isMarkup]
    rw [List.forall_mem_singleton]
    simp_all [isMarkup]
  exact parts character isPart

theorem length_escapeCharacter_le (character : Char) : (escapeCharacter character).length ≤ 6 := by
  unfold escapeCharacter
  split <;> simp

theorem length_escape_le (text : List Char) : (escape text).length ≤ 6 * text.length := by
  induction text with
  | nil => exact Nat.le_refl 0
  | cons character rest ih =>
      have first := length_escapeCharacter_le character
      rw [escape_cons, List.length_append, List.length_cons]
      omega

/-- An escaped text is read as it was. -/
theorem unescape_escape (text : List Char) : unescape (escape text) = some text := by
  induction text with
  | nil => rfl
  | cons character rest ih =>
      rw [escape_cons]
      unfold escapeCharacter
      split
      iterate 5 rw [List.cons_append]; simp [unescape, ih]
      next notAmpersand _ _ _ _ =>
        rw [List.singleton_append, unescape, if_neg notAmpersand, ih]
        · rfl
        iterate 5 simp_all

/-- Fixed markup, and values in quotation marks each with the markup behind it. -/
structure Tag where
  markup : List Char
  values : List (List Char × List Char)
  deriving DecidableEq, Repr

/-- A tag and the text behind it. -/
structure Piece where
  tag : Tag
  text : List Char
  deriving DecidableEq, Repr

def Tag.Plain (tag : Tag) : Prop :=
  (∀ character ∈ tag.markup, isMarkup character = false) ∧
    ∀ value ∈ tag.values, ∀ character ∈ value.2, isMarkup character = false

def printValues (values : List (List Char × List Char)) : List Char :=
  values.flatMap fun value => '\"' :: escape value.1 ++ '\"' :: value.2

def Tag.print (tag : Tag) : List Char := tag.markup ++ printValues tag.values

/-- A piece behind its first angle bracket. -/
def Piece.body (piece : Piece) : List Char := piece.tag.print ++ '>' :: escape piece.text

def Piece.print (piece : Piece) : List Char := '<' :: piece.body

def print (pieces : List Piece) : List Char := pieces.flatMap Piece.print

def readValues : List (List Char) → Option (List (List Char × List Char))
  | [] => some []
  | [_] => none
  | value :: markup :: rest => do
      let value ← unescape value
      let values ← readValues rest
      return (value, markup) :: values

/-- Split a tag at its quotation marks. -/
def readTag (inside : List Char) : Option Tag :=
  match inside.splitOn '\"' with
  | [] => none
  | markup :: values => do
      let values ← readValues values
      return ⟨markup, values⟩

/-- Split a piece at the end of its tag. -/
def readPiece (body : List Char) : Option Piece :=
  match body.splitOn '>' with
  | [inside, text] => do
      let tag ← readTag inside
      let text ← unescape text
      return ⟨tag, text⟩
  | _ => none

/-- Split a document at the starts of its tags. -/
def read (document : List Char) : Option (List Piece) :=
  match document.splitOn '<' with
  | [] :: bodies => bodies.mapM readPiece
  | _ => none

theorem not_mem_of_plain {characters : List Char} {mark : Char} (isMark : isMarkup mark = true)
    (plain : ∀ character ∈ characters, isMarkup character = false) : mark ∉ characters :=
  fun among => Bool.false_ne_true ((plain mark among).symm.trans isMark)

theorem not_mem_escape {mark : Char} (isMark : isMarkup mark = true) (text : List Char) :
    mark ∉ escape text :=
  not_mem_of_plain isMark fun _ => isMarkup_of_mem_escape

/-- A quotation mark is all the markup that a printed tag contains. -/
theorem Tag.Plain.not_mem_print {tag : Tag} (plain : tag.Plain) {mark : Char}
    (isMark : isMarkup mark = true) (notQuote : mark ≠ '\"') : mark ∉ tag.print := by
  obtain ⟨markup, values⟩ := plain
  unfold Tag.print printValues
  rw [List.mem_append, not_or, List.mem_flatMap]
  refine ⟨not_mem_of_plain isMark markup, ?_⟩
  rintro ⟨value, isValue, among⟩
  rcases List.mem_append.mp among with before | behind
  · rcases List.mem_cons.mp before with isQuote | inside
    · exact notQuote isQuote
    · exact not_mem_escape isMark value.1 inside
  · rcases List.mem_cons.mp behind with isQuote | inside
    · exact notQuote isQuote
    · exact not_mem_of_plain isMark (values value isValue) inside

/-- The parts of a printed tag, split at its quotation marks. -/
theorem splitOn_print {tag : Tag} (plain : tag.Plain) :
    tag.print.splitOn '\"' =
      tag.markup :: tag.values.flatMap fun value => [escape value.1, value.2] := by
  obtain ⟨markup, values⟩ := tag
  obtain ⟨plainMarkup, plainValues⟩ := plain
  unfold Tag.print
  dsimp only at plainMarkup plainValues ⊢
  induction values generalizing markup with
  | nil =>
      rw [printValues, List.flatMap_nil, List.append_nil, List.flatMap_nil]
      exact List.splitOn_eq_singleton (not_mem_of_plain rfl plainMarkup)
  | cons value rest ih =>
      obtain ⟨plainValue, plainValues⟩ := List.forall_mem_cons.mp plainValues
      have shape : markup ++ printValues (value :: rest) =
          markup ++ '\"' :: (escape value.1 ++ '\"' :: (value.2 ++ printValues rest)) := by
        simp [printValues]
      rw [shape, List.splitOn_append_cons_self_of_not_mem (not_mem_of_plain rfl plainMarkup),
        List.splitOn_append_cons_self_of_not_mem (not_mem_escape rfl value.1),
        ih value.2 plainValue plainValues, List.flatMap_cons]
      rfl

theorem readValues_flatMap (values : List (List Char × List Char)) :
    readValues (values.flatMap fun value => [escape value.1, value.2]) = some values := by
  induction values with
  | nil => rfl
  | cons value rest ih =>
      rw [List.flatMap_cons]
      change (do
        let text ← unescape (escape value.1)
        let values ← readValues (rest.flatMap fun (value : List Char × List Char) =>
          [escape value.1, value.2])
        return (text, value.2) :: values) = _
      rw [unescape_escape, ih]
      rfl

theorem readTag_print {tag : Tag} (plain : tag.Plain) : readTag tag.print = some tag := by
  unfold readTag
  rw [splitOn_print plain]
  dsimp only
  rw [readValues_flatMap]
  rfl

theorem readPiece_body {piece : Piece} (plain : piece.tag.Plain) :
    readPiece piece.body = some piece := by
  unfold readPiece Piece.body
  rw [List.splitOn_append_cons_self_of_not_mem (plain.not_mem_print rfl (by decide)),
    List.splitOn_eq_singleton (not_mem_escape rfl _)]
  dsimp only
  rw [readTag_print plain, unescape_escape]
  rfl

theorem not_mem_body {piece : Piece} (plain : piece.tag.Plain) : '<' ∉ piece.body := by
  unfold Piece.body
  rw [List.mem_append, List.mem_cons, not_or, not_or]
  exact ⟨plain.not_mem_print rfl (by decide), by decide, not_mem_escape rfl _⟩

/-- A printed document splits into the pieces it was printed from. -/
theorem splitOn_printed {pieces : List Piece} (plain : ∀ piece ∈ pieces, piece.tag.Plain) :
    (print pieces).splitOn '<' = [] :: pieces.map Piece.body := by
  induction pieces with
  | nil => rfl
  | cons piece rest ih =>
      obtain ⟨plainPiece, plainRest⟩ := List.forall_mem_cons.mp plain
      have later := ih plainRest
      have first : print (piece :: rest) = [] ++ '<' :: (piece.body ++ print rest) := by
        simp [print, Piece.print]
      rw [first, List.splitOn_append_cons_self_of_not_mem List.not_mem_nil, List.map_cons]
      congr 1
      cases rest with
      | nil =>
          rw [print, List.flatMap_nil, List.append_nil]
          exact List.splitOn_eq_singleton (not_mem_body plainPiece)
      | cons next rest =>
          have second : print (next :: rest) = '<' :: (next.body ++ print rest) := by
            simp [print, Piece.print]
          have bodies : (next.body ++ print rest).splitOn '<' = (next :: rest).map Piece.body := by
            rw [second, ← List.nil_append ('<' :: _),
              List.splitOn_append_cons_self_of_not_mem List.not_mem_nil] at later
            exact (List.cons.inj later).2
          rw [second, List.splitOn_append_cons_self_of_not_mem (not_mem_body plainPiece), bodies]

/-- A printed document is read as it was. -/
theorem read_print {pieces : List Piece} (plain : ∀ piece ∈ pieces, piece.tag.Plain) :
    read (print pieces) = some pieces := by
  unfold read
  rw [splitOn_printed plain]
  dsimp only
  rw [List.mapM_map]
  induction pieces with
  | nil => rfl
  | cons piece rest ih =>
      obtain ⟨plainPiece, plainRest⟩ := List.forall_mem_cons.mp plain
      rw [List.mapM_cons, Function.comp_apply, readPiece_body plainPiece,
        ih plainRest]
      rfl

end Markup
end YunXi
