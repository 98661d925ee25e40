import YunXi.Persona.Context
import Mathlib.Data.List.Induction

/-!
# The budget of a persona's context

The loop of the renderer leaves out the line of the lowest priority that is still there, the last
one first, until the document fits its budget.
-/

namespace YunXi
namespace Persona

/-- A line with its place in the blocks. -/
structure PlacedLine where
  blockIndex : Nat
  lineIndex : Nat
  line : ContextLine

def placed (blocks : List ContextBlock) : List PlacedLine :=
  blocks.zipIdx.flatMap fun block => block.1.lines.zipIdx.map fun line =>
    ⟨block.2, line.2, line.1⟩

namespace PlacedLine

def Earlier (first second : PlacedLine) : Prop :=
  first.blockIndex < second.blockIndex ∨
    first.blockIndex = second.blockIndex ∧ first.lineIndex < second.lineIndex

/-- The line is left out before another one. -/
def DropsBefore (first second : PlacedLine) : Prop :=
  first.line.dropPriority < second.line.dropPriority ∨
    first.line.dropPriority = second.line.dropPriority ∧ second.Earlier first

def Eligible (placedLine : PlacedLine) : Prop :=
  placedLine.line.included = true ∧ placedLine.line.required = false

instance (first second : PlacedLine) : Decidable (first.DropsBefore second) :=
  inferInstanceAs (Decidable (_ ∨ _ ∧ (_ ∨ _ ∧ _)))

def position (placedLine : PlacedLine) : Nat × Nat × Nat :=
  (placedLine.blockIndex, placedLine.lineIndex, placedLine.line.dropPriority)

end PlacedLine

variable {blocks : List ContextBlock}

theorem mem_placed {placedLine : PlacedLine} :
    placedLine ∈ placed blocks ↔ ∃ block, blocks[placedLine.blockIndex]? = some block ∧
      block.lines[placedLine.lineIndex]? = some placedLine.line := by
  unfold placed
  rw [List.mem_flatMap]
  constructor
  · rintro ⟨⟨block, blockIndex⟩, isBlock, among⟩
    obtain ⟨⟨line, lineIndex⟩, isLine, rfl⟩ := List.mem_map.mp among
    exact ⟨block, List.mem_zipIdx_iff_getElem?.mp isBlock, List.mem_zipIdx_iff_getElem?.mp isLine⟩
  · rintro ⟨block, isBlock, isLine⟩
    exact ⟨(block, placedLine.blockIndex), List.mem_zipIdx_iff_getElem?.mpr isBlock,
      List.mem_map.mpr ⟨(placedLine.line, placedLine.lineIndex),
        List.mem_zipIdx_iff_getElem?.mpr isLine, rfl⟩⟩

theorem pairwise_zipIdx {α : Type} (elements : List α) :
    elements.zipIdx.Pairwise fun first second => first.2 < second.2 := by
  rw [List.pairwise_iff_getElem]
  intro first second inFirst inSecond less
  simpa using less

/-- Lines are placed in the order of the document. -/
theorem pairwise_placed (blocks : List ContextBlock) :
    (placed blocks).Pairwise PlacedLine.Earlier := by
  unfold placed
  rw [List.pairwise_flatMap]
  constructor
  · rintro ⟨block, blockIndex⟩ -
    rw [List.pairwise_map]
    exact (pairwise_zipIdx block.lines).imp fun less => .inr ⟨rfl, less⟩
  · refine (pairwise_zipIdx blocks).imp fun less => ?_
    intro first isFirst second isSecond
    obtain ⟨_, -, rfl⟩ := List.mem_map.mp isFirst
    obtain ⟨_, -, rfl⟩ := List.mem_map.mp isSecond
    exact .inl less

/-- The better of the best line so far and another one. -/
def better (best : Option PlacedLine) (other : PlacedLine) : Option PlacedLine :=
  if other.line.included = true ∧ other.line.required = false ∧
      best.all (fun best => other.line.dropPriority ≤ best.line.dropPriority) = true then
    some other
  else best

theorem map_position_better (best : Option PlacedLine) (other : PlacedLine) :
    (better best other).map PlacedLine.position =
      if other.line.included = true ∧ other.line.required = false ∧
          (best.map PlacedLine.position).all
            (fun best => other.line.dropPriority ≤ best.2.2) = true then
        some other.position
      else best.map PlacedLine.position := by
  unfold better
  rw [apply_ite (Option.map PlacedLine.position), Option.all_map]
  rfl

theorem foldl_lines (blockIndex : Nat) (lines : List (ContextLine × Nat))
    (best : Option PlacedLine) :
    lines.foldl (fun candidate line =>
        if line.1.included = true ∧ line.1.required = false ∧
            candidate.all (fun best => line.1.dropPriority ≤ best.2.2) = true then
          some (blockIndex, line.2, line.1.dropPriority)
        else candidate) (best.map PlacedLine.position) =
      (lines.foldl (fun best line => better best ⟨blockIndex, line.2, line.1⟩) best).map
        PlacedLine.position := by
  induction lines generalizing best with
  | nil => rfl
  | cons line rest ih =>
      rw [List.foldl_cons, List.foldl_cons, ← ih, map_position_better]
      rfl

theorem candidate_eq (blocks : List ContextBlock) :
    candidate blocks = ((placed blocks).foldl better none).map PlacedLine.position := by
  have folds : ∀ (blocks : List (ContextBlock × Nat)) (best : Option PlacedLine),
      blocks.foldl (fun candidate block =>
        block.1.lines.zipIdx.foldl (fun candidate line =>
          if line.1.included = true ∧ line.1.required = false ∧
              candidate.all (fun best => line.1.dropPriority ≤ best.2.2) = true then
            some (block.2, line.2, line.1.dropPriority)
          else candidate) candidate) (best.map PlacedLine.position) =
        ((blocks.flatMap fun block => block.1.lines.zipIdx.map fun line =>
          (⟨block.2, line.2, line.1⟩ : PlacedLine)).foldl better best).map PlacedLine.position := by
    intro blocks best
    induction blocks generalizing best with
    | nil => rfl
    | cons block rest ih =>
        rw [List.foldl_cons, List.flatMap_cons, List.foldl_append, List.foldl_map,
          foldl_lines, ih]
  exact folds blocks.zipIdx none

/-- What is chosen of some lines. -/
def Chosen (lines : List PlacedLine) : Option PlacedLine → Prop
  | none => ∀ other ∈ lines, ¬ other.Eligible
  | some best => best.Eligible ∧ ∃ before after, lines = before ++ best :: after ∧
      (∀ other ∈ before, other.Eligible → best.line.dropPriority ≤ other.line.dropPriority) ∧
      ∀ other ∈ after, other.Eligible → best.line.dropPriority < other.line.dropPriority

theorem chosen_foldl (lines : List PlacedLine) : Chosen lines (lines.foldl better none) := by
  induction lines using List.reverseRecOn with
  | nil => exact List.forall_mem_nil _
  | append_singleton lines last ih =>
      rw [List.foldl_append, List.foldl_cons, List.foldl_nil]
      generalize lines.foldl better none = best at ih ⊢
      unfold better
      split
      · next isBetter =>
          obtain ⟨included, optional, lowest⟩ := isBetter
          refine ⟨⟨included, optional⟩, lines, [], rfl, fun other among eligible => ?_,
            List.forall_mem_nil _⟩
          cases best with
          | none => exact absurd eligible (ih other among)
          | some best =>
              obtain ⟨-, before, after, rfl, first, second⟩ := ih
              have lower : last.line.dropPriority ≤ best.line.dropPriority := by simpa using lowest
              rcases List.mem_append.mp among with isBefore | isBehind
              · exact lower.trans (first other isBefore eligible)
              · rcases List.mem_cons.mp isBehind with rfl | isAfter
                · exact lower
                · exact lower.trans (second other isAfter eligible).le
      · next notBetter =>
          cases best with
          | none =>
              intro other among eligible
              rcases List.mem_append.mp among with earlier | isLast
              · exact ih other earlier eligible
              · rw [List.mem_singleton.mp isLast] at eligible
                exact notBetter ⟨eligible.1, eligible.2, rfl⟩
          | some best =>
              obtain ⟨eligible, before, after, rfl, first, second⟩ := ih
              refine ⟨eligible, before, after ++ [last], by simp, first, fun other among other' => ?_⟩
              rcases List.mem_append.mp among with earlier | isLast
              · exact second other earlier other'
              · rw [List.mem_singleton.mp isLast] at other' ⊢
                by_contra notLess
                exact notBetter ⟨other'.1, other'.2, by simpa using not_lt.mp notLess⟩

variable {blockIndex lineIndex priority : Nat}

/-- The line that is chosen drops before every other that may be left out. -/
theorem candidate_eq_some (found : candidate blocks = some (blockIndex, lineIndex, priority)) :
    ∃ best ∈ placed blocks, best.Eligible ∧ best.blockIndex = blockIndex ∧
      best.lineIndex = lineIndex ∧
      ∀ other ∈ placed blocks, other.Eligible → other = best ∨ best.DropsBefore other := by
  have chosen := chosen_foldl (placed blocks)
  rw [candidate_eq, Option.map_eq_some_iff] at found
  obtain ⟨best, isBest, position⟩ := found
  rw [isBest] at chosen
  obtain ⟨eligible, before, after, lines, first, second⟩ := chosen
  obtain ⟨rfl, same⟩ := Prod.mk.inj position
  obtain ⟨rfl, -⟩ := Prod.mk.inj same
  have sorted := pairwise_placed blocks
  rw [lines] at sorted ⊢
  obtain ⟨-, sortedRest, across⟩ := List.pairwise_append.mp sorted
  refine ⟨best, by simp, eligible, rfl, rfl, fun other among eligible => ?_⟩
  rcases List.mem_append.mp among with isBefore | isBehind
  · right
    have earlier := across other isBefore best List.mem_cons_self
    rcases (first other isBefore eligible).lt_or_eq with less | same
    · exact .inl less
    · exact .inr ⟨same, earlier⟩
  · rcases List.mem_cons.mp isBehind with rfl | isAfter
    · exact .inl rfl
    · exact .inr (.inl (second other isAfter eligible))

theorem candidate_eq_none (none : candidate blocks = none) :
    ∀ other ∈ placed blocks, ¬ other.Eligible := by
  have chosen := chosen_foldl (placed blocks)
  rw [candidate_eq, Option.map_eq_none_iff] at none
  rw [none] at chosen
  exact chosen

theorem countP_modify_lt {α : Type} {test : α → Bool} {change : α → α} {elements : List α}
    {index : Nat} {element : α} (found : elements[index]? = some element)
    (holds : test element = true) (fails : test (change element) = false) :
    (elements.modify index change).countP test < elements.countP test := by
  induction elements generalizing index with
  | nil => simp at found
  | cons first rest ih =>
      cases index with
      | zero =>
          cases found
          rw [List.modify_zero_cons, List.countP_cons_of_pos holds,
            List.countP_cons_of_neg (by rw [fails]; exact Bool.false_ne_true)]
          exact Nat.lt_succ_self _
      | succ index =>
          rw [List.modify_succ_cons, List.countP_cons, List.countP_cons]
          exact Nat.add_lt_add_right (ih found) _

theorem sum_modify_lt {α : Type} {size : α → Nat} {change : α → α} {elements : List α}
    {index : Nat} {element : α} (found : elements[index]? = some element)
    (less : size (change element) < size element) :
    ((elements.modify index change).map size).sum < (elements.map size).sum := by
  induction elements generalizing index with
  | nil => simp at found
  | cons first rest ih =>
      cases index with
      | zero =>
          cases found
          rw [List.modify_zero_cons, List.map_cons, List.map_cons, List.sum_cons, List.sum_cons]
          exact Nat.add_lt_add_right less _
      | succ index =>
          rw [List.modify_succ_cons, List.map_cons, List.map_cons, List.sum_cons, List.sum_cons]
          exact Nat.add_lt_add_left (ih found) _

theorem includedCount_exclude_lt
    (found : candidate blocks = some (blockIndex, lineIndex, priority)) :
    includedCount (exclude blocks blockIndex lineIndex) < includedCount blocks := by
  obtain ⟨best, among, eligible, rfl, rfl, -⟩ := candidate_eq_some found
  obtain ⟨block, isBlock, isLine⟩ := mem_placed.mp among
  exact sum_modify_lt isBlock (countP_modify_lt isLine eligible.1 rfl)

/-- `render_with_budget`: leave out lines until the rest fits or has to stay. -/
def renderWithBudget (rootOpen rootClose : String) (blocks : List ContextBlock) (budget : Nat) :
    String :=
  let content := render rootOpen rootClose blocks
  if content.length ≤ budget then content
  else
    match _ : candidate blocks with
    | none => content
    | some (blockIndex, lineIndex, _) =>
        renderWithBudget rootOpen rootClose (exclude blocks blockIndex lineIndex) budget
termination_by includedCount blocks
decreasing_by exact includedCount_exclude_lt ‹_›

/-- A block without some of its lines. -/
def ContextBlock.mark (block : ContextBlock) (gone : Nat → Bool) : ContextBlock where
  name := block.name
  lines := block.lines.mapIdx fun index line => { line with included := !gone index }

def mark (blocks : List ContextBlock) (gone : Nat → Nat → Bool) : List ContextBlock :=
  blocks.mapIdx fun index block => block.mark (gone index)

theorem getElem?_mark (blocks : List ContextBlock) (gone : Nat → Nat → Bool) (index : Nat) :
    (mark blocks gone)[index]? = blocks[index]?.map fun block => block.mark (gone index) := by
  rw [mark, List.getElem?_mapIdx]

theorem ContextBlock.getElem?_lines_mark (block : ContextBlock) (gone : Nat → Bool) (index : Nat) :
    (block.mark gone).lines[index]? = block.lines[index]?.map fun line =>
      { line with included := !gone index } := by
  rw [mark, List.getElem?_mapIdx]

theorem ContextBlock.mark_congr {block : ContextBlock} {gone gone' : Nat → Bool}
    (same : ∀ index line, block.lines[index]? = some line → gone index = gone' index) :
    block.mark gone = block.mark gone' := by
  refine congrArg (ContextBlock.mk block.name) (List.ext_getElem? fun index => ?_)
  rw [List.getElem?_mapIdx, List.getElem?_mapIdx]
  cases isLine : block.lines[index]? with
  | none => rfl
  | some line => rw [Option.map_some, Option.map_some, same index line isLine]

theorem mem_placed_mark {gone : Nat → Nat → Bool}
    {marked : PlacedLine} :
    marked ∈ placed (mark blocks gone) ↔ ∃ original ∈ placed blocks,
      marked = { original with line := { original.line with
        included := !gone original.blockIndex original.lineIndex } } := by
  obtain ⟨blockIndex, lineIndex, line⟩ := marked
  simp only [mem_placed, getElem?_mark]
  constructor
  · rintro ⟨block, isBlock, isLine⟩
    obtain ⟨original, isOriginal, rfl⟩ := Option.map_eq_some_iff.mp isBlock
    rw [ContextBlock.getElem?_lines_mark] at isLine
    obtain ⟨originalLine, isOriginalLine, rfl⟩ := Option.map_eq_some_iff.mp isLine
    exact ⟨⟨blockIndex, lineIndex, originalLine⟩, ⟨original, isOriginal, isOriginalLine⟩, rfl⟩
  · rintro ⟨⟨_, _, originalLine⟩, ⟨original, isOriginal, isOriginalLine⟩, same⟩
    cases same
    refine ⟨_, Option.map_eq_some_iff.mpr ⟨original, isOriginal, rfl⟩, ?_⟩
    rw [ContextBlock.getElem?_lines_mark, isOriginalLine]
    rfl

/-- Only the places of lines count. -/
theorem mark_congr {gone gone' : Nat → Nat → Bool}
    (same : ∀ line ∈ placed blocks,
      gone line.blockIndex line.lineIndex = gone' line.blockIndex line.lineIndex) :
    mark blocks gone = mark blocks gone' := by
  refine List.ext_getElem? fun blockIndex => ?_
  rw [getElem?_mark, getElem?_mark]
  cases isBlock : blocks[blockIndex]? with
  | none => rfl
  | some block =>
      rw [Option.map_some, Option.map_some]
      refine congrArg some (ContextBlock.mark_congr fun lineIndex line isLine => ?_)
      exact same ⟨blockIndex, lineIndex, line⟩ (mem_placed.mpr ⟨block, isBlock, isLine⟩)

/-- All lines are included at first. -/
def AllIncluded (blocks : List ContextBlock) : Prop :=
  ∀ line ∈ placed blocks, line.line.included = true

theorem mark_nothing (all : AllIncluded blocks) :
    mark blocks (fun _ _ => false) = blocks := by
  refine List.ext_getElem? fun blockIndex => ?_
  rw [getElem?_mark]
  cases isBlock : blocks[blockIndex]? with
  | none => rfl
  | some block =>
      rw [Option.map_some]
      refine congrArg some (congrArg (ContextBlock.mk block.name)
        (List.ext_getElem? fun lineIndex => ?_))
      rw [List.getElem?_mapIdx]
      cases isLine : block.lines[lineIndex]? with
      | none => rfl
      | some line =>
          have included := all ⟨blockIndex, lineIndex, line⟩
            (mem_placed.mpr ⟨block, isBlock, isLine⟩)
          rw [Option.map_some, Bool.not_false, ← included]

theorem exclude_mark (blocks : List ContextBlock) (gone : Nat → Nat → Bool)
    (blockIndex lineIndex : Nat) :
    exclude (mark blocks gone) blockIndex lineIndex = mark blocks fun block line =>
      gone block line || (block == blockIndex && line == lineIndex) := by
  refine List.ext_getElem? fun index => ?_
  rw [exclude, List.getElem?_modify, getElem?_mark, getElem?_mark]
  cases isBlock : blocks[index]? with
  | none => simp
  | some block =>
      rw [Option.map_some, Option.map_some, Option.map_eq_map, Option.map_some]
      refine congrArg some ?_
      by_cases here : blockIndex = index
      · subst here
        rw [if_pos rfl]
        refine congrArg (ContextBlock.mk block.name) (List.ext_getElem? fun line => ?_)
        rw [List.getElem?_modify, List.getElem?_mapIdx, ContextBlock.getElem?_lines_mark]
        cases block.lines[line]? with
        | none => rfl
        | some original =>
            by_cases isLine : lineIndex = line
            · simp [isLine]
            · simp [isLine, Ne.symm isLine]
      · have elsewhere : (index == blockIndex) = false := by simpa using Ne.symm here
        rw [if_neg here]
        simp only [elsewhere, Bool.false_and, Bool.or_false]

namespace PlacedLine

variable {first second : PlacedLine}

theorem not_dropsBefore_self (line : PlacedLine) : ¬ line.DropsBefore line := by
  unfold DropsBefore Earlier
  omega

theorem DropsBefore.asymm (before : first.DropsBefore second) : ¬ second.DropsBefore first := by
  unfold DropsBefore Earlier at *
  omega

/-- Of two places one drops before the other. -/
theorem dropsBefore_or (elsewhere : first.blockIndex ≠ second.blockIndex ∨
    first.lineIndex ≠ second.lineIndex) : first.DropsBefore second ∨ second.DropsBefore first := by
  unfold DropsBefore Earlier
  omega

end PlacedLine

/-- There is one line at a place. -/
theorem eq_of_place {first second : PlacedLine}
    (isFirst : first ∈ placed blocks) (isSecond : second ∈ placed blocks)
    (sameBlock : first.blockIndex = second.blockIndex)
    (sameLine : first.lineIndex = second.lineIndex) : first = second := by
  obtain ⟨firstBlock, isFirstBlock, isFirstLine⟩ := mem_placed.mp isFirst
  obtain ⟨secondBlock, isSecondBlock, isSecondLine⟩ := mem_placed.mp isSecond
  rw [sameBlock, isSecondBlock] at isFirstBlock
  cases isFirstBlock
  rw [sameLine, isSecondLine] at isFirstLine
  obtain ⟨_, _, firstLine⟩ := first
  obtain ⟨_, _, secondLine⟩ := second
  cases sameBlock
  cases sameLine
  cases isFirstLine
  rfl

/-- The optional lines that are left out before a line. -/
def earlierDrops (blocks : List ContextBlock) (line : PlacedLine) (blockIndex lineIndex : Nat) :
    Bool :=
  (placed blocks).any fun other => other.blockIndex == blockIndex && other.lineIndex == lineIndex &&
    !other.line.required && decide (other.DropsBefore line)

theorem earlierDrops_iff {line other : PlacedLine}
    (among : other ∈ placed blocks) :
    earlierDrops blocks line other.blockIndex other.lineIndex = true ↔
      other.line.required = false ∧ other.DropsBefore line := by
  unfold earlierDrops
  rw [List.any_eq_true]
  constructor
  · rintro ⟨same, isSame, holds⟩
    simp only [Bool.and_eq_true, beq_iff_eq, Bool.not_eq_true', decide_eq_true_eq] at holds
    obtain ⟨⟨⟨sameBlock, sameLine⟩, optional⟩, before⟩ := holds
    rw [← eq_of_place isSame among sameBlock sameLine]
    exact ⟨optional, before⟩
  · rintro ⟨optional, before⟩
    exact ⟨other, among, by simpa [optional] using before⟩

variable {rootOpen rootClose : String} {blocks : List ContextBlock} {budget : Nat}
  {gone : Nat → Nat → Bool}

/-- What is left out is optional, takes with it what drops before it, and was left out only when
the text without that was too long. -/
structure InOrder (rootOpen rootClose : String) (blocks : List ContextBlock) (budget : Nat)
    (gone : Nat → Nat → Bool) : Prop where
  optional : ∀ line ∈ placed blocks, gone line.blockIndex line.lineIndex = true →
    line.line.required = false
  closed : ∀ line ∈ placed blocks, gone line.blockIndex line.lineIndex = true →
    ∀ other ∈ placed blocks, other.line.required = false → other.DropsBefore line →
      gone other.blockIndex other.lineIndex = true
  tooLong : ∀ line ∈ placed blocks, gone line.blockIndex line.lineIndex = true →
    budget < (render rootOpen rootClose (mark blocks (earlierDrops blocks line))).length

theorem inOrder_nothing : InOrder rootOpen rootClose blocks budget fun _ _ => false where
  optional := fun _ _ gone => absurd gone Bool.false_ne_true
  closed := fun _ _ gone => absurd gone Bool.false_ne_true
  tooLong := fun _ _ gone => absurd gone Bool.false_ne_true

/-- The line that the loop leaves out next, as it was at first. -/
theorem candidate_mark
    (found : candidate (mark blocks gone) = some (blockIndex, lineIndex, priority)) :
    ∃ best ∈ placed blocks, best.blockIndex = blockIndex ∧ best.lineIndex = lineIndex ∧
      best.line.required = false ∧ gone blockIndex lineIndex = false ∧
      ∀ other ∈ placed blocks, other.line.required = false →
        gone other.blockIndex other.lineIndex = false → other = best ∨ best.DropsBefore other := by
  obtain ⟨marked, isMarked, eligible, rfl, rfl, first⟩ := candidate_eq_some found
  obtain ⟨best, isBest, rfl⟩ := mem_placed_mark.mp isMarked
  refine ⟨best, isBest, rfl, rfl, eligible.2, by simpa using eligible.1,
    fun other among optional remains => ?_⟩
  rcases first _ (mem_placed_mark.mpr ⟨other, among, rfl⟩) ⟨by simpa using remains, optional⟩ with
    same | before
  · have sameBlock := congrArg PlacedLine.blockIndex same
    have sameLine := congrArg PlacedLine.lineIndex same
    exact .inl (eq_of_place among isBest sameBlock sameLine)
  · exact .inr before

/-- At its turn just the lines that drop before it are gone. -/
theorem mark_earlierDrops (inOrder : InOrder rootOpen rootClose blocks budget gone)
    {best : PlacedLine} (isBest : best ∈ placed blocks) (isOptional : best.line.required = false)
    (remains : gone best.blockIndex best.lineIndex = false)
    (first : ∀ other ∈ placed blocks, other.line.required = false →
      gone other.blockIndex other.lineIndex = false → other = best ∨ best.DropsBefore other) :
    mark blocks (earlierDrops blocks best) = mark blocks gone := by
  refine mark_congr fun line among => Bool.eq_iff_iff.mpr ?_
  rw [earlierDrops_iff among]
  constructor
  · rintro ⟨optional, before⟩
    by_contra notGone
    rcases first line among optional (Bool.eq_false_of_not_eq_true notGone) with rfl | later
    · exact line.not_dropsBefore_self before
    · exact before.asymm later
  · intro isGone
    refine ⟨inOrder.optional line among isGone, ?_⟩
    have elsewhere : line.blockIndex ≠ best.blockIndex ∨ line.lineIndex ≠ best.lineIndex := by
      by_contra here
      obtain ⟨sameBlock, sameLine⟩ := not_or.mp here
      rw [not_not.mp sameBlock, not_not.mp sameLine, remains] at isGone
      exact Bool.false_ne_true isGone
    refine (PlacedLine.dropsBefore_or elsewhere).resolve_right fun later => ?_
    rw [inOrder.closed line among isGone best isBest isOptional later] at remains
    exact Bool.false_ne_true remains.symm

/-- One more line is left out, which is the next one. -/
theorem InOrder.exclude (inOrder : InOrder rootOpen rootClose blocks budget gone)
    {best : PlacedLine} (isBest : best ∈ placed blocks) (isOptional : best.line.required = false)
    (turn : mark blocks (earlierDrops blocks best) = mark blocks gone)
    (first : ∀ other ∈ placed blocks, other.line.required = false → other.DropsBefore best →
      gone other.blockIndex other.lineIndex = true)
    (tooLong : budget < (render rootOpen rootClose (mark blocks gone)).length) :
    InOrder rootOpen rootClose blocks budget fun block line =>
      gone block line || (block == best.blockIndex && line == best.lineIndex) := by
  have cases : ∀ line ∈ placed blocks,
      (gone line.blockIndex line.lineIndex ||
        (line.blockIndex == best.blockIndex && line.lineIndex == best.lineIndex)) = true →
      gone line.blockIndex line.lineIndex = true ∨ line = best := by
    intro line among isGone
    rcases (Bool.or_eq_true _ _).mp isGone with before | now
    · exact .inl before
    · obtain ⟨sameBlock, sameLine⟩ := (Bool.and_eq_true _ _).mp now
      exact .inr (eq_of_place among isBest (beq_iff_eq.mp sameBlock) (beq_iff_eq.mp sameLine))
  constructor
  · intro line among isGone
    rcases cases line among isGone with before | rfl
    · exact inOrder.optional line among before
    · exact isOptional
  · intro line among isGone other isOther optional drops
    rw [Bool.or_eq_true]
    left
    rcases cases line among isGone with before | rfl
    · exact inOrder.closed line among before other isOther optional drops
    · exact first other isOther optional drops
  · intro line among isGone
    rcases cases line among isGone with before | rfl
    · exact inOrder.tooLong line among before
    · rwa [turn]

/-- The loop ends when the text fits or every optional line is gone. -/
theorem renderWithBudget_mark (inOrder : InOrder rootOpen rootClose blocks budget gone) :
    ∃ final, InOrder rootOpen rootClose blocks budget final ∧
      renderWithBudget rootOpen rootClose (mark blocks gone) budget =
        render rootOpen rootClose (mark blocks final) ∧
      ((render rootOpen rootClose (mark blocks final)).length ≤ budget ∨
        ∀ line ∈ placed blocks, line.line.required = false →
          final line.blockIndex line.lineIndex = true) := by
  -- Each turn includes one line less.
  induction size : includedCount (mark blocks gone) using Nat.strong_induction_on
    generalizing gone with
  | _ count ih =>
      rw [renderWithBudget]
      by_cases fits : (render rootOpen rootClose (mark blocks gone)).length ≤ budget
      · exact ⟨gone, inOrder, if_pos fits, .inl fits⟩
      rw [if_neg fits]
      split
      · next none =>
          refine ⟨gone, inOrder, rfl, .inr fun line among optional => ?_⟩
          by_contra remains
          exact candidate_eq_none none _ (mem_placed_mark.mpr ⟨line, among, rfl⟩)
            ⟨by simpa using remains, optional⟩
      · next blockIndex lineIndex priority found =>
          obtain ⟨best, isBest, rfl, rfl, isOptional, remains, first⟩ := candidate_mark found
          have turn := mark_earlierDrops inOrder isBest isOptional remains first
          have next := inOrder.exclude isBest isOptional turn
            (fun other isOther optional drops => by
              by_contra notGone
              rcases first other isOther optional (Bool.eq_false_of_not_eq_true notGone) with
                rfl | later
              · exact other.not_dropsBefore_self drops
              · exact drops.asymm later) (not_le.mp fits)
          rw [exclude_mark]
          refine ih _ ?_ next rfl
          rw [← size, ← exclude_mark]
          exact includedCount_exclude_lt found

variable (rootOpen rootClose budget) in
/-- A run of the loop, from blocks of which nothing is left out. -/
theorem renderWithBudget_spec (all : AllIncluded blocks) :
    ∃ final, InOrder rootOpen rootClose blocks budget final ∧
      renderWithBudget rootOpen rootClose blocks budget =
        render rootOpen rootClose (mark blocks final) ∧
      ((render rootOpen rootClose (mark blocks final)).length ≤ budget ∨
        ∀ line ∈ placed blocks, line.line.required = false →
          final line.blockIndex line.lineIndex = true) := by
  have start : InOrder rootOpen rootClose blocks budget fun _ _ => false := inOrder_nothing
  have run := renderWithBudget_mark start
  rwa [mark_nothing all] at run

/-- A block with just the lines that are required. -/
def ContextBlock.stripped (block : ContextBlock) : ContextBlock where
  name := block.name
  lines := block.lines.map fun line => { line with included := line.required }

theorem mark_eq_stripped
    (rest : ∀ line ∈ placed blocks, gone line.blockIndex line.lineIndex = !line.line.required) :
    mark blocks gone = blocks.map ContextBlock.stripped := by
  refine List.ext_getElem? fun blockIndex => ?_
  rw [getElem?_mark, List.getElem?_map]
  cases isBlock : blocks[blockIndex]? with
  | none => rfl
  | some block =>
      rw [Option.map_some, Option.map_some]
      refine congrArg some (congrArg (ContextBlock.mk block.name)
        (List.ext_getElem? fun lineIndex => ?_))
      rw [List.getElem?_mapIdx, List.getElem?_map]
      cases isLine : block.lines[lineIndex]? with
      | none => rfl
      | some line =>
          have isGone := rest ⟨blockIndex, lineIndex, line⟩ (mem_placed.mpr ⟨block, isBlock, isLine⟩)
          dsimp only at isGone
          rw [Option.map_some, Option.map_some, isGone, Bool.not_not]

/-- A text that is too long at the end has nothing left that could go. -/
theorem InOrder.eq_stripped (inOrder : InOrder rootOpen rootClose blocks budget gone)
    (all : ∀ line ∈ placed blocks, line.line.required = false →
      gone line.blockIndex line.lineIndex = true) :
    mark blocks gone = blocks.map ContextBlock.stripped := by
  refine mark_eq_stripped fun line among => ?_
  cases isRequired : line.line.required with
  | false => exact all line among isRequired
  | true =>
      refine Bool.eq_false_iff.mpr fun isGone => ?_
      rw [inOrder.optional line among isGone] at isRequired
      exact Bool.false_ne_true isRequired

end Persona
end YunXi
