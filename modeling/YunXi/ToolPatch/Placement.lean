import YunXi.Program.Blocks
import YunXi.Program.Checked
import YunXi.ToolPatch.Hunks

/-!
# Where hunks are placed

The lines of a file after an update are those before it with the new lines of each hunk in
place of the old ones, hunk after hunk.  A hunk that has old lines needs them at exactly one
place at or behind the end of the hunk before it.
-/

namespace YunXi
namespace ToolPatch

open Blocks

/-- The lines of a hunk as the old file has them. -/
def oldLines (hunk : List PatchLine) : List String := hunk.filterMap PatchLine.old

/-- The lines of a hunk as the new file has them. -/
def newLines (hunk : List PatchLine) : List String := hunk.filterMap PatchLine.new

/-- The lines stand at the index, at or behind the start, and nowhere else there. -/
def OnlyAt (wanted lines : List String) (start index : Nat) : Prop :=
  start ≤ index ∧ OccursAt wanted lines index ∧
    ∀ other, start ≤ other → OccursAt wanted lines other → other = index

/-- The search finds exactly the only place. -/
theorem findUniqueMatch_eq_ok {lines wanted : List String} {start index : Nat} :
    findUniqueMatch lines wanted start = .ok index ↔ OnlyAt wanted lines start index := by
  unfold findUniqueMatch
  split
  case isTrue outside =>
    refine ⟨nofun, fun ⟨behind, occurs, _⟩ => absurd occurs.le ?_⟩
    omega
  case isFalse inside =>
    have searched (other : Nat) :
        other ∈ List.range' start (lines.length - wanted.length + 1 - start) ∧
            decide ((lines.drop other).take wanted.length = wanted) = true ↔
          start ≤ other ∧ OccursAt wanted lines other := by
      rw [List.mem_range'_1, decide_eq_true_iff, occursAt_iff_take]
      constructor
      · rintro ⟨⟨behind, before⟩, stands⟩
        exact ⟨behind, by omega, stands⟩
      · rintro ⟨behind, fits, stands⟩
        exact ⟨⟨behind, by omega⟩, stands⟩
    have single : (List.range' start (lines.length - wanted.length + 1 - start)).filter
        (fun other => decide ((lines.drop other).take wanted.length = wanted)) = [index] ↔
          OnlyAt wanted lines start index := by
      rw [filter_eq_singleton List.nodup_range', ← and_assoc, searched, and_assoc]
      unfold OnlyAt
      refine and_congr_right fun _ => and_congr_right fun _ => forall_congr' fun other => ?_
      constructor
      · exact fun only behind occurs =>
          only ((searched other).mpr ⟨behind, occurs⟩).1 ((searched other).mpr ⟨behind, occurs⟩).2
      · exact fun only isIn stands =>
          only ((searched other).mp ⟨isIn, stands⟩).1 ((searched other).mp ⟨isIn, stands⟩).2
    rw [← single]
    dsimp only
    split
    case h_1 none => rw [none]; exact ⟨nofun, nofun⟩
    case h_2 found one => rw [one]; simp
    case h_3 first second more many => rw [many]; simp

/-- The place of a hunk: the cursor if it has no old lines, else their only place. -/
def PlacedAt (lines : List String) (cursor : Nat) (hunk : List PatchLine) (index : Nat) : Prop :=
  if oldLines hunk = [] then index = cursor else OnlyAt (oldLines hunk) lines cursor index

/-- The place that `apply_hunks` takes for a hunk. -/
def hunkPosition (state : HunkState) (hunk : List PatchLine) : Except PatchError Nat :=
  if oldLines hunk = [] then .ok (min state.cursor state.lines.length)
  else findUniqueMatch state.lines (oldLines hunk) state.cursor

/-- The state behind a hunk that is placed. -/
def HunkState.after (state : HunkState) (hunk : List PatchLine) (position : Nat) : HunkState where
  lines := state.lines.take position ++ newLines hunk ++
    state.lines.drop (position + (oldLines hunk).length)
  cursor := position + (newLines hunk).length
  added := state.added + hunk.countP PatchLine.isAdd
  removed := state.removed + hunk.countP PatchLine.isRemove

theorem applyHunk_eq (state : HunkState) (hunk : List PatchLine) :
    applyHunk state hunk = (hunkPosition state hunk).map (state.after hunk) := by
  unfold applyHunk hunkPosition
  by_cases noOld : oldLines hunk = []
  · rw [if_pos noOld]
    exact if_pos noOld
  · rw [if_neg noOld]
    refine (if_neg noOld).trans ?_
    change findUniqueMatch state.lines (oldLines hunk) state.cursor >>= _ = _
    cases findUniqueMatch state.lines (oldLines hunk) state.cursor <;> rfl

variable {state : HunkState}

variable {hunk : List PatchLine}

theorem hunkPosition_eq_ok {position : Nat}
    (within : state.cursor ≤ state.lines.length) :
    hunkPosition state hunk = .ok position ↔
      PlacedAt state.lines state.cursor hunk position := by
  unfold hunkPosition PlacedAt
  split
  case isTrue => rw [Nat.min_eq_left within, Except.ok.injEq, eq_comm]
  case isFalse => exact findUniqueMatch_eq_ok

/-- A placed hunk splits the lines. -/
theorem PlacedAt.split {lines : List String} {cursor index : Nat}
    (placed : PlacedAt lines cursor hunk index) (within : cursor ≤ lines.length) :
    cursor ≤ index ∧ OccursAt (oldLines hunk) lines index := by
  unfold PlacedAt at placed
  split at placed
  case isTrue noOld =>
    subst placed
    refine ⟨Nat.le_refl _, lines.take index, lines.drop index, ?_, ?_⟩
    · rw [noOld, List.append_nil, List.take_append_drop]
    · rw [List.length_take, Nat.min_eq_left within]
  case isFalse => exact ⟨placed.1, placed.2.1⟩

/-- The lines of the file become the final lines by replacing the hunks one after the other,
each at or behind the end of the one before it. -/
inductive Replaces : List String → Nat → List (List PatchLine) → List String → Prop
  | done (lines : List String) (cursor : Nat) : Replaces lines cursor [] lines
  | hunk {lines final : List String} {cursor index : Nat} {hunk : List PatchLine}
      {rest : List (List PatchLine)} :
      PlacedAt lines cursor hunk index →
      Replaces (lines.take index ++ newLines hunk ++
        lines.drop (index + (oldLines hunk).length)) (index + (newLines hunk).length) rest final →
      Replaces lines cursor (hunk :: rest) final

/-- The loop of `apply_hunks`. -/
def applyLines (state : HunkState) (hunks : List (List PatchLine)) :
    Except PatchError HunkState :=
  hunks.foldlM applyHunk state

theorem applyLines_cons (state : HunkState) (hunk : List PatchLine)
    (rest : List (List PatchLine)) :
    applyLines state (hunk :: rest) =
      hunkPosition state hunk >>= fun position =>
        applyLines (state.after hunk position) rest := by
  unfold applyLines
  rw [List.foldlM_cons, applyHunk_eq]
  cases hunkPosition state hunk <;> rfl

/-- The cursor never leaves the lines. -/
theorem HunkState.within_after {position : Nat}
    (fits : position + (oldLines hunk).length ≤ state.lines.length) :
    (state.after hunk position).cursor ≤ (state.after hunk position).lines.length := by
  unfold after
  simp only [List.length_append, List.length_take]
  omega

/-- How many lines the hunks add. -/
def addedLines (hunks : List (List PatchLine)) : Nat :=
  (hunks.map fun hunk => hunk.countP PatchLine.isAdd).sum

/-- How many lines the hunks remove. -/
def removedLines (hunks : List (List PatchLine)) : Nat :=
  (hunks.map fun hunk => hunk.countP PatchLine.isRemove).sum

variable {hunks : List (List PatchLine)}

/-- The loop succeeds exactly when the hunks can be replaced in order, with the lines that
the replacement gives and the counts of the hunks. -/
theorem applyLines_eq_ok {lines : List String} {added removed : Nat}
    (within : state.cursor ≤ state.lines.length) :
    (∃ cursor, applyLines state hunks = .ok ⟨lines, cursor, added, removed⟩) ↔
      Replaces state.lines state.cursor hunks lines ∧
        added = state.added + addedLines hunks ∧
        removed = state.removed + removedLines hunks := by
  induction hunks generalizing state with
  | nil =>
      constructor
      · rintro ⟨cursor, ended⟩
        cases ended
        exact ⟨.done _ _, rfl, rfl⟩
      · rintro ⟨⟨⟩, rfl, rfl⟩
        exact ⟨state.cursor, rfl⟩
  | cons hunk rest ih =>
      have next {position : Nat}
          (placed : PlacedAt state.lines state.cursor hunk position) :=
        ih (HunkState.within_after (placed.split within).2.le)
      have counts (position : Nat) : (state.after hunk position).added + addedLines rest =
          state.added + addedLines (hunk :: rest) ∧
          (state.after hunk position).removed + removedLines rest =
            state.removed + removedLines (hunk :: rest) := by
        unfold HunkState.after addedLines removedLines
        simp only [List.map_cons, List.sum_cons, Nat.add_assoc, and_self]
      simp only [applyLines_cons, Except.bind_eq_ok]
      constructor
      · rintro ⟨cursor, position, found, ended⟩
        have placed := (hunkPosition_eq_ok within).mp found
        obtain ⟨replaces, addedEq, removedEq⟩ := (next placed).mp ⟨cursor, ended⟩
        exact ⟨.hunk placed replaces, addedEq.trans (counts position).1,
          removedEq.trans (counts position).2⟩
      · rintro ⟨replaces, addedEq, removedEq⟩
        cases replaces with
        | @hunk _ _ _ position _ _ placed later =>
            obtain ⟨cursor, ended⟩ := (next placed).mpr
              ⟨later, addedEq.trans (counts position).1.symm,
                removedEq.trans (counts position).2.symm⟩
            exact ⟨cursor, position, (hunkPosition_eq_ok within).mpr placed, ended⟩

/-- The loop from the start of the file. -/
theorem applyLines_start {lines final : List String}
    {added removed : Nat} :
    (∃ cursor, applyLines ⟨lines, 0, 0, 0⟩ hunks = .ok ⟨final, cursor, added, removed⟩) ↔
      Replaces lines 0 hunks final ∧ added = addedLines hunks ∧
        removed = removedLines hunks := by
  have counted := @applyLines_eq_ok ⟨lines, 0, 0, 0⟩ hunks final added removed (Nat.zero_le _)
  rwa [Nat.zero_add, Nat.zero_add] at counted

/-- What an update leaves: the gaps between the old blocks stand between the new ones. -/
def Woven (lines : List String) (hunks : List (List PatchLine)) (final : List String) : Prop :=
  ∃ first gaps, gaps.length = hunks.length ∧ lines = first ++ weave (hunks.map oldLines) gaps ∧
    final = first ++ weave (hunks.map newLines) gaps

/-- Replacing the hunks in order replaces blocks that do not overlap. -/
theorem Replaces.woven {lines final : List String} {cursor : Nat}
    (replaces : Replaces lines cursor hunks final)
    (within : cursor ≤ lines.length) :
    ∃ rest, final = lines.take cursor ++ rest ∧ Woven (lines.drop cursor) hunks rest := by
  induction replaces with
  | done lines cursor =>
      exact ⟨lines.drop cursor, (List.take_append_drop _ _).symm, lines.drop cursor, [], rfl,
        (List.append_nil _).symm, (List.append_nil _).symm⟩
  | @hunk lines final cursor index hunk more placed later ih =>
      obtain ⟨behind, before, after, rfl, rfl⟩ := placed.split within
      rw [take_append_drop_of_split] at ih
      have fits : before.length + (newLines hunk).length ≤
          (before ++ newLines hunk ++ after).length := by
        simp only [List.length_append]
        omega
      have split : (before ++ newLines hunk).length =
          before.length + (newLines hunk).length := List.length_append
      obtain ⟨rest, finalEq, first, gaps, sizes, afterEq, restEq⟩ := ih fits
      rw [← split, List.take_left] at finalEq
      rw [← split, List.drop_left] at afterEq
      refine ⟨before.drop cursor ++ newLines hunk ++ rest, ?_, before.drop cursor, first :: gaps,
        ?_, ?_, ?_⟩
      · rw [finalEq, List.append_assoc before (oldLines hunk), List.take_append_of_le_length behind,
          ← List.append_assoc, ← List.append_assoc, List.take_append_drop]
      · rw [List.length_cons, List.length_cons, sizes]
      · rw [List.append_assoc before (oldLines hunk), List.drop_append_of_le_length behind, List.map_cons,
          weave_cons, afterEq, List.append_assoc]
      · rw [List.map_cons, weave_cons, restEq, List.append_assoc, List.append_assoc]

theorem Replaces.woven_of_start {lines final : List String}
    (replaces : Replaces lines 0 hunks final) : Woven lines hunks final := by
  obtain ⟨rest, finalEq, woven⟩ := replaces.woven (Nat.zero_le _)
  rw [List.take_zero, List.nil_append] at finalEq
  rwa [List.drop_zero, ← finalEq] at woven

theorem length_oldLines (hunk : List PatchLine) :
    (oldLines hunk).length + hunk.countP PatchLine.isAdd =
      (newLines hunk).length + hunk.countP PatchLine.isRemove := by
  unfold oldLines newLines
  induction hunk with
  | nil => rfl
  | cons line rest ih =>
      cases line <;>
        simp only [List.filterMap_cons, PatchLine.old, PatchLine.new, List.length_cons,
          List.countP_cons, PatchLine.isAdd, PatchLine.isRemove, if_true, Bool.false_eq_true,
          if_false] <;>
        omega

/-- The counts account for the lines of the result. -/
theorem Woven.length {lines final : List String}
    (woven : Woven lines hunks final) :
    lines.length + addedLines hunks = final.length + removedLines hunks := by
  obtain ⟨first, gaps, sizes, rfl, rfl⟩ := woven
  have blocks : ((hunks.map oldLines).map List.length).sum + addedLines hunks =
      ((hunks.map newLines).map List.length).sum + removedLines hunks := by
    clear sizes
    unfold addedLines removedLines
    induction hunks with
    | nil => rfl
    | cons hunk rest ih =>
        have one := length_oldLines hunk
        simp only [List.map_cons, List.sum_cons]
        omega
  rw [List.length_append, List.length_append, length_weave (by rw [sizes, List.length_map]),
    length_weave (by rw [sizes, List.length_map])]
  omega

/-- What the loop slices for a hunk lies within the lines. -/
structure InRange (state : HunkState) (hunk : List PatchLine) : Prop where
  cursor : state.cursor ≤ state.lines.length
  compared : ∀ index, ¬ ((oldLines hunk).length > state.lines.length ∨
      state.cursor > state.lines.length - (oldLines hunk).length) →
    state.cursor ≤ index → index ≤ state.lines.length - (oldLines hunk).length →
    index + (oldLines hunk).length ≤ state.lines.length
  spliced : ∀ position, hunkPosition state hunk = .ok position →
    position + (oldLines hunk).length ≤ state.lines.length

theorem inRange_of_within (hunk : List PatchLine)
    (within : state.cursor ≤ state.lines.length) : InRange state hunk where
  cursor := within
  compared index := by omega
  spliced position found := (((hunkPosition_eq_ok within).mp found).split within).2.le

/-- Behind every hunk the cursor is within the lines. -/
theorem applyLines_within {final : HunkState}
    (within : state.cursor ≤ state.lines.length)
    (ended : applyLines state hunks = .ok final) : final.cursor ≤ final.lines.length := by
  induction hunks generalizing state with
  | nil =>
      cases ended
      exact within
  | cons hunk rest ih =>
      rw [applyLines_cons, Except.bind_eq_ok] at ended
      obtain ⟨position, found, later⟩ := ended
      exact ih
        (HunkState.within_after ((inRange_of_within hunk within).spliced position found)) later

/-- The lines that `apply_hunks` works on. -/
def fileLines (text : String) : List String :=
  splitLines (String.ofList (replaceCrLf text.toList))

/-- The one line terminator of the updated file. -/
def fileNewline (text : String) : String :=
  if containsCrLf text.toList then "\r\n" else "\n"

/-- The file ends with a line terminator. -/
def endsLine (text : String) : Bool :=
  (replaceCrLf text.toList).getLast? = some '\n'

/-- An update of a text is an update of its lines. -/
theorem applyHunks_toUTF8 (text : String) (hunks : List (List PatchLine)) :
    applyHunks text.toUTF8 hunks =
      (applyLines ⟨fileLines text, 0, 0, 0⟩ hunks).map fun state =>
        ((renderLines state.lines (fileNewline text) (endsLine text)).toUTF8, state.added,
          state.removed) := by
  have decoded : String.fromUTF8? text.toUTF8 = some text :=
    dif_pos text.isValidUTF8
  unfold applyHunks
  rw [decoded]
  dsimp only
  change applyLines ⟨fileLines text, 0, 0, 0⟩ hunks >>= _ = _
  cases applyLines ⟨fileLines text, 0, 0, 0⟩ hunks with
  | error error => rfl
  | ok state =>
      unfold endsLine fileNewline
      rw [String.toList_ofList]
      rfl

/-- The loop succeeds exactly when every hunk in order has its one place, with the lines of
the sequential replacement and the counts of the hunks; the replaced blocks do not overlap and
keep their order, the counts account for the lines, and no slice leaves the lines. -/
theorem applyLines_sequential (lines : List String) (hunks : List (List PatchLine)) :
    (∀ final added removed,
      (∃ cursor, applyLines ⟨lines, 0, 0, 0⟩ hunks = .ok ⟨final, cursor, added, removed⟩) ↔
        Replaces lines 0 hunks final ∧ added = addedLines hunks ∧
          removed = removedLines hunks) ∧
      (∀ final, Replaces lines 0 hunks final → Woven lines hunks final ∧
        (final.length : Int) = lines.length + addedLines hunks - removedLines hunks) ∧
      (∀ done hunk later state, hunks = done ++ hunk :: later →
        applyLines ⟨lines, 0, 0, 0⟩ done = .ok state → InRange state hunk) ∧
      ∀ text, applyHunks text.toUTF8 hunks =
        (applyLines ⟨fileLines text, 0, 0, 0⟩ hunks).map fun state =>
          ((renderLines state.lines (fileNewline text) (endsLine text)).toUTF8, state.added,
            state.removed) := by
  refine ⟨fun final added removed => applyLines_start, fun final replaces => ?_,
    fun done hunk later state _ reached => ?_, fun text => applyHunks_toUTF8 text hunks⟩
  · have accounted := replaces.woven_of_start.length
    exact ⟨replaces.woven_of_start, by omega⟩
  · exact inRange_of_within hunk (applyLines_within (Nat.zero_le _) reached)

/-- A file of two lines and a hunk for the second. -/
theorem applyLines_sequential_second :
    Woven ["one", "two"] [[.remove "two", .add "TWO", .add "three"]] ["one", "TWO", "three"] :=
  ((applyLines_sequential ["one", "two"] [[.remove "two", .add "TWO", .add "three"]]).2.1
    ["one", "TWO", "three"]
    (((applyLines_sequential ["one", "two"] [[.remove "two", .add "TWO", .add "three"]]).1
      ["one", "TWO", "three"] 2 1).mp ⟨3, by decide⟩).1).1

end ToolPatch
end YunXi
