import YunXi.ToolPatch.Patch

/-!
# Applying hunks to a text

The lines a hunk removes or shows as context must stand in the file at exactly one place
at or after the end of the previous hunk; there they are replaced by its context and added
lines.
-/

namespace YunXi
namespace ToolPatch

open Strings

/-- `text.contains("\r\n")`. -/
def containsCrLf : List Char → Bool
  | '\r' :: '\n' :: _ => true
  | _ :: rest => containsCrLf rest
  | [] => false

/-- `text.replace("\r\n", "\n")`. -/
def replaceCrLf : List Char → List Char
  | '\r' :: '\n' :: rest => '\n' :: replaceCrLf rest
  | character :: rest => character :: replaceCrLf rest
  | [] => []

/-- `split_lines`: no line after a line feed at the end. -/
def splitLines (value : String) : List String :=
  if value = "" then []
  else
    let lines := (value.toList.splitOn '\n').map String.ofList
    if lines.getLast? = some "" then lines.dropLast else lines

/-- `render_lines`. -/
def renderLines (lines : List String) (newline : String) (trailingNewline : Bool) : String :=
  let rendered := newline.intercalate lines
  if trailingNewline && rendered ≠ "" then rendered ++ newline else rendered

/-- `find_unique_match`. -/
def findUniqueMatch (lines wanted : List String) (start : Nat) : Except PatchError Nat :=
  if wanted.length > lines.length ∨ start > lines.length - wanted.length then
    .error .hunkContextNotFound
  else
    let positions := List.range' start (lines.length - wanted.length + 1 - start)
    match positions.filter fun index => (lines.drop index).take wanted.length = wanted with
    | [] => .error .hunkContextNotFound
    | [index] => .ok index
    | _ :: _ :: _ => .error .ambiguousHunk

/-- The state of the loop over the hunks. -/
structure HunkState where
  lines : List String
  cursor : Nat
  added : Nat
  removed : Nat
  deriving DecidableEq, Repr

/-- Apply one hunk at or after the cursor. -/
def applyHunk (state : HunkState) (hunk : List PatchLine) : Except PatchError HunkState := do
  let old := hunk.filterMap PatchLine.old
  let new := hunk.filterMap PatchLine.new
  let position ←
    if old = [] then .ok (min state.cursor state.lines.length)
    else findUniqueMatch state.lines old state.cursor
  return {
    lines := state.lines.take position ++ new ++ state.lines.drop (position + old.length)
    cursor := position + new.length
    added := state.added + hunk.countP PatchLine.isAdd
    removed := state.removed + hunk.countP PatchLine.isRemove }

/-- `apply_hunks`: the new content and how many lines were added and removed. -/
def applyHunks (original : ByteArray) (hunks : List (List PatchLine)) :
    Except PatchError (ByteArray × Nat × Nat) :=
  match String.fromUTF8? original with
  | none => .error (.invalidUtf8 "updated files must be UTF-8")
  | some text => do
      let newline := if containsCrLf text.toList then "\r\n" else "\n"
      let normalized := String.ofList (replaceCrLf text.toList)
      let trailingNewline := normalized.toList.getLast? = some '\n'
      let state ← hunks.foldlM applyHunk ⟨splitLines normalized, 0, 0, 0⟩
      return ((renderLines state.lines newline trailingNewline).toUTF8, state.added,
        state.removed)

/-- `count_lines`: a replaced character is never a line feed. -/
def countLines (bytes : ByteArray) : Nat :=
  let lineFeeds := bytes.data.toList.countP (· == 10)
  if bytes.data.toList.getLast?.any (· != 10) then lineFeeds + 1 else lineFeeds

example : (applyHunks "one\ntwo\n".toUTF8 [[.remove "one", .add "ONE"]]).toOption =
    some ("ONE\ntwo\n".toUTF8, 1, 1) := by
  decide

end ToolPatch
end YunXi
