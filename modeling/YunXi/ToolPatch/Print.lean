import YunXi.ToolPatch.Parse

/-!
# Printing patches

The printer writes a change list in the format the parser reads.  Where a body line can be
taken for something else, the two do not fit together.
-/

namespace YunXi
namespace ToolPatch

open Strings

def PatchLine.print : PatchLine → String
  | context text => " " ++ text
  | add text => "+" ++ text
  | remove text => "-" ++ text

/-- The lines of all hunks, with `@@` between one hunk and the next. -/
def printHunks (hunks : List (List PatchLine)) : List String :=
  ["@@"].intercalate (hunks.map fun hunk => hunk.map PatchLine.print)

/-- The lines below the header of a section. -/
def ParsedChangeKind.print : ParsedChangeKind → List String
  | add lines => lines.map ("+" ++ ·)
  | delete => []
  | update hunks => printHunks hunks

def ParsedChangeKind.header : ParsedChangeKind → String
  | add _ => addFile
  | delete => deleteFile
  | update _ => updateFile

/-- The lines of a file section. -/
def ParsedChange.print (change : ParsedChange) : List String :=
  (change.kind.header ++ (" " ++ change.path.text)) :: change.kind.print

/-- The `*** Begin Patch` format. -/
def printPatch (changes : List ParsedChange) : String :=
  unlines (beginPatch :: (changes.flatMap ParsedChange.print ++ [endPatch]))

/-- A text without carriage return, line feed and NUL. -/
def IsPlain (text : String) : Prop :=
  IsLine text ∧ Protocol.containsNul text = false

instance (text : String) : Decidable (IsPlain text) :=
  inferInstanceAs (Decidable (_ ∧ _))

/-- The texts below the header of a section. -/
def ParsedChangeKind.texts : ParsedChangeKind → List String
  | add lines => lines
  | delete => []
  | update hunks => hunks.flatten.map PatchLine.text

def ParsedChangeKind.hunks : ParsedChangeKind → List (List PatchLine)
  | add _ | delete => []
  | update hunks => hunks

/-- The change lists a patch may be printed from. -/
structure IsPatch (changes : List ParsedChange) : Prop where
  nonempty : changes ≠ []
  few : changes.length ≤ maxPatchFiles
  distinct : changes.Pairwise fun earlier later =>
    earlier.path.components ≠ later.path.components
  safe : ∀ change ∈ changes, validateRelativePath change.path.text = .ok change.path
  plainPath : ∀ change ∈ changes, IsPlain change.path.text
  plain : ∀ change ∈ changes, ∀ text ∈ change.kind.texts, IsPlain text
  hunked : ∀ change ∈ changes, change.kind ≠ .update [] ∧ [] ∉ change.kind.hunks

theorem trimEndReturns_of_isLine {line : String} (isLine : IsLine line) :
    trimEndReturns line = line := by
  unfold trimEndReturns trimEndMatches
  rw [List.rdropWhile_eq_self_iff.mpr, String.ofList_toList]
  intro nonempty
  simpa using (isLine _ (List.getLast_mem nonempty)).2

theorem isLine_append {first rest : String} (firstIsLine : IsLine first)
    (restIsLine : IsLine rest) : IsLine (first ++ rest) := by
  intro character member
  rw [String.toList_append] at member
  rcases List.mem_append.mp member with inFirst | inRest
  · exact firstIsLine character inFirst
  · exact restIsLine character inRest

theorem not_isSectionHeader {line : String} (isLine : IsLine line)
    (notAdd : startsWith addFile line = false)
    (notDelete : startsWith deleteFile line = false)
    (notUpdate : startsWith updateFile line = false)
    (notEnd : trim line ≠ endPatch) :
    isSectionHeader line = false := by
  unfold isSectionHeader
  rw [trimEndReturns_of_isLine isLine]
  simp [notAdd, notDelete, notUpdate, notEnd]

/-- A text fenced off by something that does not start the marker is not the marker. -/
theorem trim_append_ne {first rest marker : String}
    (nonempty : first.toList ≠ [])
    (startsClean : first.toList.dropWhile Protocol.isWhiteSpace = first.toList)
    (endsClean : first.toList.rdropWhile Protocol.isWhiteSpace = first.toList)
    (differ : startsWith first marker = false) :
    trim (first ++ rest) ≠ marker := by
  unfold trim
  rw [trimMatches_append rest nonempty startsClean endsClean]
  rintro rfl
  rw [startsWith_append] at differ
  cases differ

/-- A context line is read as one unless its text reads as the end of the patch. -/
theorem context_not_header {text : String} (isLine : IsLine text)
    (notEnd : trim text ≠ endPatch) :
    isSectionHeader (" " ++ text) = false := by
  apply not_isSectionHeader (isLine_append (by decide) isLine)
  · exact startsWith_append_of_ne text (by decide) (by decide)
  · exact startsWith_append_of_ne text (by decide) (by decide)
  · exact startsWith_append_of_ne text (by decide) (by decide)
  · have spaceDropped : trim (" " ++ text) = trim text :=
      trimMatches_append_left text (by decide)
    rwa [spaceDropped]

/-- A line behind `+` or `-` is never a section header. -/
theorem marked_not_header {mark text : String} (isMark : mark = "+" ∨ mark = "-")
    (isLine : IsLine text) :
    isSectionHeader (mark ++ text) = false := by
  rcases isMark with rfl | rfl
  all_goals
    apply not_isSectionHeader (isLine_append (by decide) isLine)
    · exact startsWith_append_of_ne text (by decide) (by decide)
    · exact startsWith_append_of_ne text (by decide) (by decide)
    · exact startsWith_append_of_ne text (by decide) (by decide)
    · exact trim_append_ne (by decide) (by decide) (by decide) (by decide)

theorem parseAddBody_print (path : PathBuf) {content lines : List String}
    (areLines : ∀ line ∈ lines, IsLine line) :
    parseAddBody path content (lines.map ("+" ++ ·)) = .ok (content ++ lines) := by
  induction lines generalizing content with
  | nil => simp [parseAddBody]
  | cons line lines ih =>
      obtain ⟨isLine, restAreLines⟩ := List.forall_mem_cons.mp areLines
      have body : trimEndReturns ("+" ++ line) = "+" ++ line :=
        trimEndReturns_of_isLine (isLine_append (by decide) isLine)
      have notEndOfFile : "+" ++ line ≠ endOfFile := ne_of_head (by simp [endOfFile])
      simp only [List.map_cons, parseAddBody, body, if_neg notEndOfFile, stripPrefix_append]
      rw [ih restAreLines, List.append_assoc, List.singleton_append]

theorem PatchLine.print_eq (line : PatchLine) :
    ∃ mark, (mark = " " ∨ mark = "+" ∨ mark = "-") ∧ line.print = mark ++ line.text := by
  cases line with
  | context text => exact ⟨" ", by simp, rfl⟩
  | add text => exact ⟨"+", by simp, rfl⟩
  | remove text => exact ⟨"-", by simp, rfl⟩

theorem PatchLine.isLine_print {line : PatchLine} (isLine : IsLine line.text) :
    IsLine line.print := by
  obtain ⟨mark, isMark, printEq⟩ := line.print_eq
  rw [printEq]
  rcases isMark with rfl | rfl | rfl <;> exact isLine_append (by decide) isLine

/-- A printed hunk line reads as itself. -/
theorem parseHunkLine_print (path : PathBuf) (line : PatchLine) :
    parseHunkLine path line.print = .ok line := by
  unfold parseHunkLine
  cases line with
  | add text => rw [PatchLine.print, stripPrefix_append]
  | remove text =>
      have notAdd : stripPrefix "+" ("-" ++ text) = none :=
        stripPrefix_eq_none.mpr (startsWith_append_of_ne text (by decide) (by decide))
      rw [PatchLine.print, notAdd, stripPrefix_append]
  | context text =>
      have notAdd : stripPrefix "+" (" " ++ text) = none :=
        stripPrefix_eq_none.mpr (startsWith_append_of_ne text (by decide) (by decide))
      have notRemove : stripPrefix "-" (" " ++ text) = none :=
        stripPrefix_eq_none.mpr (startsWith_append_of_ne text (by decide) (by decide))
      rw [PatchLine.print, notAdd, notRemove, stripPrefix_append]

/-- A printed hunk line is none of the lines that have a meaning of their own. -/
theorem PatchLine.print_plain (line : PatchLine) :
    startsWith moveTo line.print = false ∧ startsWith "@@" line.print = false ∧
      line.print ≠ endOfFile := by
  obtain ⟨mark, isMark, printEq⟩ := line.print_eq
  rw [printEq]
  rcases isMark with rfl | rfl | rfl
  all_goals
    refine ⟨startsWith_append_of_ne _ (by decide) (by decide),
      startsWith_append_of_ne _ (by decide) (by decide), ne_of_head ?_⟩
    simp [endOfFile]

variable {hunks : List (List PatchLine)} {rest : List String} {current : List PatchLine}

/-- One printed hunk line joins the open hunk. -/
theorem parseUpdateBody_print_cons (path : PathBuf)
    {line : PatchLine}
    (isLine : IsLine line.text) :
    parseUpdateBody path hunks current (line.print :: rest) =
      parseUpdateBody path hunks (current ++ [line]) rest := by
  obtain ⟨notMove, notMark, notEndOfFile⟩ := line.print_plain
  rw [parseUpdateBody, trimEndReturns_of_isLine (PatchLine.isLine_print isLine)]
  rw [if_neg (by simp [notMove]), if_neg (by simp [notMark]), if_neg notEndOfFile,
    parseHunkLine_print]

theorem parseUpdateBody_print (path : PathBuf)
    {hunk : List PatchLine} (rest : List String)
    (areLines : ∀ line ∈ hunk, IsLine line.text) :
    parseUpdateBody path hunks current (hunk.map PatchLine.print ++ rest) =
      parseUpdateBody path hunks (current ++ hunk) rest := by
  induction hunk generalizing current with
  | nil => simp
  | cons line hunk ih =>
      obtain ⟨isLine, restAreLines⟩ := List.forall_mem_cons.mp areLines
      rw [List.map_cons, List.cons_append, parseUpdateBody_print_cons path isLine,
        ih restAreLines, List.append_assoc, List.singleton_append]

@[simp] theorem printHunks_singleton (hunk : List PatchLine) :
    printHunks [hunk] = hunk.map PatchLine.print := by
  rw [printHunks, List.map_singleton, List.intercalate_singleton]

theorem printHunks_cons_cons (hunk next : List PatchLine) (more : List (List PatchLine)) :
    printHunks (hunk :: next :: more) =
      hunk.map PatchLine.print ++ "@@" :: printHunks (next :: more) := by
  simp [printHunks, List.intercalate]

theorem parseUpdateBody_mark (path : PathBuf) :
    parseUpdateBody path hunks current ("@@" :: rest) =
      parseUpdateBody path (closeHunk hunks current) [] rest := by
  rw [parseUpdateBody, trimEndReturns_of_isLine (by decide)]
  rw [if_neg (by decide), if_pos (by decide)]

/-- The printed hunks of a file read as themselves. -/
theorem parseUpdateBody_printHunks (path : PathBuf) {done : List (List PatchLine)}
    (areLines : ∀ hunk ∈ hunks, ∀ line ∈ hunk, IsLine line.text)
    (noneEmpty : [] ∉ hunks) :
    parseUpdateBody path done [] (printHunks hunks) = .ok (done ++ hunks) := by
  induction hunks generalizing done with
  | nil => simp [printHunks, parseUpdateBody, closeHunk]
  | cons hunk rest ih =>
      obtain ⟨hunkLines, restLines⟩ := List.forall_mem_cons.mp areLines
      rw [List.mem_cons, not_or] at noneEmpty
      have closed : closeHunk done hunk = done ++ [hunk] :=
        if_neg (Ne.symm noneEmpty.1)
      cases rest with
      | nil =>
          have printed : parseUpdateBody path done [] (hunk.map PatchLine.print ++ []) =
              parseUpdateBody path done ([] ++ hunk) [] :=
            parseUpdateBody_print path [] hunkLines
          rw [List.append_nil, List.nil_append] at printed
          rw [printHunks_singleton, printed, parseUpdateBody, closed]
      | cons next more =>
          rw [printHunks_cons_cons, parseUpdateBody_print path _ hunkLines, List.nil_append,
            parseUpdateBody_mark, closed,
            ih restLines noneEmpty.2, List.append_assoc,
            List.singleton_append]

theorem ParsedChangeKind.header_cases (kind : ParsedChangeKind) :
    kind.header = addFile ∨ kind.header = deleteFile ∨ kind.header = updateFile := by
  cases kind <;> simp [ParsedChangeKind.header]

/-- The rest of a patch that starts with a section or ends the patch. -/
def StartsSection (rest : List String) : Prop :=
  ∃ line, rest.head? = some line ∧ isSectionHeader line = true

/-- A body ends where the next section starts. -/
theorem body_append {body : List String}
    (inBody : ∀ line ∈ body, isSectionHeader line = false)
    (starts : StartsSection rest) :
    bodyLines (body ++ rest) = body ∧ afterBody (body ++ rest) = rest := by
  obtain ⟨line, restHead, isHeader⟩ := starts
  obtain ⟨more, rfl⟩ : ∃ more, rest = line :: more := List.head?_eq_some_iff.mp restHead
  have allBody : ∀ line ∈ body, (!isSectionHeader line) = true := by
    simpa using inBody
  unfold bodyLines afterBody
  rw [List.takeWhile_append_of_pos allBody, List.dropWhile_append_of_pos allBody]
  simp [isHeader]

theorem PatchLine.print_not_header {line : PatchLine} (isLine : IsLine line.text)
    (notEnd : ∀ text, line = .context text → trim text ≠ endPatch) :
    isSectionHeader line.print = false := by
  cases line with
  | context text => exact context_not_header isLine (notEnd text rfl)
  | add text => exact marked_not_header (Or.inl rfl) isLine
  | remove text => exact marked_not_header (Or.inr rfl) isLine

theorem mem_printHunks {line : String}
    (member : line ∈ printHunks hunks) :
    line = "@@" ∨ ∃ hunk ∈ hunks, ∃ hunkLine ∈ hunk, line = PatchLine.print hunkLine := by
  induction hunks with
  | nil => simp [printHunks] at member
  | cons hunk rest ih =>
      have ofHunk : line ∈ hunk.map PatchLine.print →
          ∃ hunkLine ∈ hunk, line = PatchLine.print hunkLine := by
        intro printed
        obtain ⟨hunkLine, inHunk, rfl⟩ := List.mem_map.mp printed
        exact ⟨hunkLine, inHunk, rfl⟩
      cases rest with
      | nil =>
          rw [printHunks_singleton] at member
          exact Or.inr ⟨hunk, List.mem_singleton_self hunk, ofHunk member⟩
      | cons next more =>
          rw [printHunks_cons_cons, List.mem_append, List.mem_cons] at member
          rcases member with inHunk | isMark | inRest
          · exact Or.inr ⟨hunk, List.mem_cons_self, ofHunk inHunk⟩
          · exact Or.inl isMark
          · rcases ih inRest with isMark | ⟨other, inRest, printed⟩
            · exact Or.inl isMark
            · exact Or.inr ⟨other, List.mem_cons_of_mem hunk inRest, printed⟩

/-- What makes the printed lines of a section readable. -/
structure ParsedChange.IsReadable (change : ParsedChange) : Prop where
  safe : validateRelativePath change.path.text = .ok change.path
  trimmed : trim change.path.text = change.path.text
  pathIsLine : IsLine change.path.text
  areLines : ∀ text ∈ change.kind.texts, IsLine text
  hunked : change.kind ≠ .update [] ∧ [] ∉ change.kind.hunks
  read : ∀ hunk ∈ change.kind.hunks, ∀ text, .context text ∈ hunk → trim text ≠ endPatch

namespace ParsedChange.IsReadable

/-- The texts of an updated file's hunks are lines. -/
theorem hunkLines {path : PathBuf}
    (readable : IsReadable ⟨path, .update hunks⟩) :
    ∀ hunk ∈ hunks, ∀ line ∈ hunk, IsLine line.text := by
  intro hunk inHunks line inHunk
  exact readable.areLines _ (List.mem_map_of_mem (List.mem_flatten_of_mem inHunks inHunk))

variable {change : ParsedChange}

/-- No line below the header of a section starts another one. -/
theorem inBody (readable : change.IsReadable) :
    ∀ line ∈ change.kind.print, isSectionHeader line = false := by
  obtain ⟨path, kind⟩ := change
  intro line member
  cases kind with
  | add lines =>
      obtain ⟨text, inLines, rfl⟩ := List.mem_map.mp member
      exact marked_not_header (Or.inl rfl) (readable.areLines text inLines)
  | delete => cases member
  | update hunks =>
      rcases mem_printHunks member with rfl | ⟨hunk, inHunks, hunkLine, inHunk, rfl⟩
      · decide
      · apply PatchLine.print_not_header (readable.hunkLines hunk inHunks hunkLine inHunk)
        rintro text rfl
        exact readable.read hunk inHunks text inHunk

theorem path_read (readable : change.IsReadable) :
    validateRelativePath (trim (" " ++ change.path.text)) = .ok change.path := by
  have spaceDropped : trim (" " ++ change.path.text) = trim change.path.text :=
    trimMatches_append_left change.path.text (by decide)
  rw [spaceDropped, readable.trimmed]
  exact readable.safe

/-- The printed section reads as the change. -/
theorem parseSection_print (readable : change.IsReadable)
    (starts : StartsSection rest) :
    parseSection (change.kind.header ++ (" " ++ change.path.text))
      (change.kind.print ++ rest) = .ok (change, rest) := by
  have pathRead := readable.path_read
  obtain ⟨bodyEq, restEq⟩ := body_append readable.inBody starts
  obtain ⟨path, kind⟩ := change
  unfold parseSection
  cases kind with
  | add lines =>
      have contentRead : parseAddBody path [] (lines.map ("+" ++ ·)) = .ok ([] ++ lines) :=
        parseAddBody_print path readable.areLines
      rw [ParsedChangeKind.header, stripPrefix_append]
      refine Except.bind_eq_ok.mpr ⟨path, pathRead, Except.bind_eq_ok.mpr ⟨lines, ?_, ?_⟩⟩
      · rw [bodyEq]
        exact contentRead
      · rw [restEq]
        rfl
  | delete =>
      have notAdd : stripPrefix addFile (deleteFile ++ (" " ++ path.text)) = none :=
        stripPrefix_eq_none.mpr (startsWith_append_of_ne _ (by decide) (by decide))
      rw [ParsedChangeKind.header, notAdd, stripPrefix_append]
      exact Except.bind_eq_ok.mpr ⟨path, pathRead, rfl⟩
  | update hunks =>
      have notAdd : stripPrefix addFile (updateFile ++ (" " ++ path.text)) = none :=
        stripPrefix_eq_none.mpr (startsWith_append_of_ne _ (by decide) (by decide))
      have notDelete : stripPrefix deleteFile (updateFile ++ (" " ++ path.text)) = none :=
        stripPrefix_eq_none.mpr (startsWith_append_of_ne _ (by decide) (by decide))
      have hunksRead : parseUpdateBody path [] [] (printHunks hunks) = .ok ([] ++ hunks) :=
        parseUpdateBody_printHunks path readable.hunkLines readable.hunked.2
      have someHunk : hunks ≠ [] := fun noHunk => readable.hunked.1 (by rw [noHunk])
      rw [ParsedChangeKind.header, notAdd, notDelete, stripPrefix_append]
      refine Except.bind_eq_ok.mpr ⟨path, pathRead, Except.bind_eq_ok.mpr
        ⟨hunks, ?_, Except.bind_eq_ok.mpr ⟨hunks, if_neg someHunk, ?_⟩⟩⟩
      · rw [bodyEq]
        exact hunksRead
      · rw [restEq]
        rfl

theorem isLine_header (readable : change.IsReadable) :
    IsLine (change.kind.header ++ (" " ++ change.path.text)) := by
  have markerIsLine : IsLine change.kind.header := by
    rcases change.kind.header_cases with isMarker | isMarker | isMarker
    all_goals
      rw [isMarker]
      decide
  exact isLine_append markerIsLine (isLine_append (by decide) readable.pathIsLine)

/-- The lines below a header are lines. -/
theorem isLine_body (readable : change.IsReadable) :
    ∀ line ∈ change.kind.print, IsLine line := by
  obtain ⟨path, kind⟩ := change
  intro line member
  cases kind with
  | add lines =>
      obtain ⟨text, inLines, rfl⟩ := List.mem_map.mp member
      exact isLine_append (by decide) (readable.areLines text inLines)
  | delete => cases member
  | update hunks =>
      rcases mem_printHunks member with rfl | ⟨hunk, inHunks, hunkLine, inHunk, rfl⟩
      · decide
      · exact PatchLine.isLine_print (readable.hunkLines hunk inHunks hunkLine inHunk)

/-- A printed section header is one, and nothing else. -/
theorem header_read (readable : change.IsReadable) :
    isSectionHeader (change.kind.header ++ (" " ++ change.path.text)) = true ∧
      trimEndReturns (change.kind.header ++ (" " ++ change.path.text)) =
        change.kind.header ++ (" " ++ change.path.text) ∧
      Protocol.isBlank (change.kind.header ++ (" " ++ change.path.text)) = false ∧
      trim (change.kind.header ++ (" " ++ change.path.text)) ≠ endPatch := by
  have whole := trimEndReturns_of_isLine readable.isLine_header
  rcases change.kind.header_cases with isMarker | isMarker | isMarker
  all_goals
    rw [isMarker] at whole ⊢
    refine ⟨?_, whole, Protocol.isBlank_append_left _ (by decide), ?_⟩
    · unfold isSectionHeader
      rw [whole]
      simp
    · exact trim_append_ne (by decide) (by decide) (by decide) (by decide)

end ParsedChange.IsReadable

variable {changes : List ParsedChange}

/-- What follows a printed section starts a section or ends the patch. -/
theorem startsSection_print (readable : ∀ change ∈ changes, change.IsReadable) :
    StartsSection (changes.flatMap ParsedChange.print ++ [endPatch]) := by
  cases changes with
  | nil => exact ⟨endPatch, rfl, by decide⟩
  | cons change changes =>
      exact ⟨_, rfl, (readable change List.mem_cons_self).header_read.1⟩

/-- The loop over the sections reads printed sections back one after the other. -/
theorem parseSections_print {before : List ParsedChange}
    (readable : ∀ change ∈ changes, change.IsReadable) :
    parseSections before (changes.flatMap ParsedChange.print ++ [endPatch]) =
      .ok (before ++ changes, some []) := by
  induction changes generalizing before with
  | nil =>
      rw [List.flatMap_nil, List.nil_append, parseSections_end (by decide) (by decide),
        List.append_nil]
  | cons change changes ih =>
      obtain ⟨changeReadable, restReadable⟩ := List.forall_mem_cons.mp readable
      obtain ⟨-, whole, notBlank, notEnd⟩ := changeReadable.header_read
      have parsed := changeReadable.parseSection_print (startsSection_print restReadable)
      rw [List.flatMap_cons, ParsedChange.print, List.append_assoc, List.cons_append]
      rw [parseSections_section (by rwa [whole]) (by rwa [whole]) (by rwa [whole]),
        ih restReadable, List.append_assoc, List.singleton_append]

/-- Reading a printed change list gives it back. -/
theorem parsePatch_of_readable (isPatch : IsPatch changes)
    (readable : ∀ change ∈ changes, change.IsReadable)
    (fits : (printPatch changes).utf8ByteSize ≤ maxPatchBytes) :
    parsePatch (printPatch changes) = .ok changes := by
  have areLines : ∀ line ∈ beginPatch :: (changes.flatMap ParsedChange.print ++ [endPatch]),
      IsLine line := by
    simp only [List.mem_cons, List.mem_append, List.mem_flatMap, List.not_mem_nil, or_false]
    rintro line (rfl | ⟨change, member, inPrint⟩ | rfl)
    · decide
    · rcases List.mem_cons.mp inPrint with rfl | inBody
      · exact (readable change member).isLine_header
      · exact (readable change member).isLine_body line inBody
    · decide
  have linesEq : lines (printPatch changes) =
      beginPatch :: (changes.flatMap ParsedChange.print ++ [endPatch]) :=
    lines_unlines areLines
  rw [parsePatch_eq_ok]
  refine ⟨?_, fits, ?_, [], ?_, by simp, isPatch.nonempty, isPatch.few, ?_⟩
  · intro isEmpty
    rw [isEmpty] at linesEq
    cases linesEq
  · rw [linesEq, List.head?_cons, Option.map_some]
    decide
  · rw [linesEq, List.tail_cons]
    exact parseSections_print readable
  · rw [firstDuplicate_eq_none]
    exact ⟨by simp, isPatch.distinct⟩

/-- The changes of a list that may be printed are readable if none is misread. -/
theorem IsPatch.readable (isPatch : IsPatch changes)
    (trimmed : ∀ change ∈ changes, trim change.path.text = change.path.text)
    (read : ∀ change ∈ changes, ∀ hunk ∈ change.kind.hunks, ∀ text,
      .context text ∈ hunk → trim text ≠ endPatch) :
    ∀ change ∈ changes, change.IsReadable :=
  fun change member => {
    safe := isPatch.safe change member
    trimmed := trimmed change member
    pathIsLine := (isPatch.plainPath change member).1
    areLines := fun text inTexts => (isPatch.plain change member text inTexts).1
    hunked := isPatch.hunked change member
    read := read change member }

/-- The parser inverts the printer on patches within the size bound whose paths have no
white space around them and whose context lines do not read as the end of the patch. -/
theorem parsePatch_printPatch (changes : List ParsedChange)
    (isPatch : IsPatch changes)
    (fits : (printPatch changes).utf8ByteSize ≤ maxPatchBytes)
    (trimmed : ∀ change ∈ changes, trim change.path.text = change.path.text)
    (read : ∀ change ∈ changes, ∀ hunk ∈ change.kind.hunks, ∀ text,
      .context text ∈ hunk → trim text ≠ endPatch) :
    parsePatch (printPatch changes) = .ok changes :=
  parsePatch_of_readable isPatch (isPatch.readable trimmed read) fits

/-- A patch with every kind of section whose lines look like markers of the format. -/
def samplePatch : List ParsedChange :=
  [⟨⟨"docs/new.md"⟩, .add ["*** End Patch", "@@", ""]⟩, ⟨⟨"old.txt"⟩, .delete⟩,
    ⟨⟨"src/main.rs"⟩, .update
      [[.context "*** End of File", .remove "*** Add File: x"], [.add "*** End Patch"]]⟩]

theorem parsePatch_printPatch_sample :
    IsPatch samplePatch ∧ parsePatch (printPatch samplePatch) = .ok samplePatch := by
  have isPatch : IsPatch samplePatch := {
    nonempty := by decide
    few := by decide
    distinct := by decide
    safe := by decide
    plainPath := by decide
    plain := by decide
    hunked := by decide }
  refine ⟨isPatch, parsePatch_printPatch samplePatch isPatch ?_ ?_ ?_⟩
  · decide +kernel
  · decide
  · simp [samplePatch, ParsedChangeKind.hunks]
    decide

/-- Only well-formed lists within the size bound come back, and all of those do. -/
theorem parsePatch_printPatch_iff (isPatch : IsPatch changes) :
    parsePatch (printPatch changes) = .ok changes ↔
      (printPatch changes).utf8ByteSize ≤ maxPatchBytes ∧ WellFormed changes := by
  constructor
  · intro parsed
    obtain ⟨-, fits, -, remaining, sections, -, nonempty, few, noDuplicate⟩ :=
      parsePatch_eq_ok.mp parsed
    exact ⟨fits, wellFormed_of_sections sections nonempty few noDuplicate⟩
  · rintro ⟨fits, wellFormed⟩
    apply parsePatch_of_readable isPatch (isPatch.readable _ _) fits
    · exact fun change member => (wellFormed.safe change member).2
    · intro change member hunk inHunks
      have describable := wellFormed.describable change member
      obtain ⟨path, kind⟩ := change
      cases kind with
      | add lines => cases inHunks
      | delete => cases inHunks
      | update hunks => exact (describable.2 hunk inHunks).2

/-- A patch whose context line looks like the end marker of a patch. -/
def markerPatch : List ParsedChange :=
  [⟨⟨"notes.txt"⟩, .update [[.context "*** End Patch", .add "more"]]⟩]

/-- A patch for a file whose name starts with a blank. -/
def blankNamePatch : List ParsedChange :=
  [⟨⟨" notes.txt"⟩, .delete⟩]

/-- A patch that adds a file with one line of a given length. -/
def longLinePatch (length : Nat) : List ParsedChange :=
  [⟨⟨"notes.txt"⟩, .add [String.ofList (List.replicate length 'a')]⟩]

theorem isPatch_longLine (length : Nat) : IsPatch (longLinePatch length) where
  nonempty := by simp [longLinePatch]
  few := by simp [longLinePatch, maxPatchFiles]
  distinct := by simp [longLinePatch]
  safe := by
    have safe : validateRelativePath "notes.txt" = .ok ⟨"notes.txt"⟩ := by decide
    exact List.forall_mem_singleton.mpr safe
  plainPath := by
    have plain : IsPlain "notes.txt" := by decide
    exact List.forall_mem_singleton.mpr plain
  plain := by
    refine List.forall_mem_singleton.mpr (List.forall_mem_singleton.mpr ⟨?_, ?_⟩)
    · intro character member
      rw [String.toList_ofList] at member
      rw [List.eq_of_mem_replicate member]
      decide
    · rw [Protocol.containsNul, String.toList_ofList, List.any_eq_false]
      intro character member
      rw [List.eq_of_mem_replicate member]
      decide
  hunked := by simp [longLinePatch, ParsedChangeKind.hunks]

theorem length_lt_printPatch (length : Nat) :
    length < (printPatch (longLinePatch length)).utf8ByteSize := by
  have line : (String.ofList (List.replicate length 'a')).utf8ByteSize = length :=
    Strings.utf8ByteSize_replicate rfl length
  simp only [printPatch, longLinePatch, unlines, List.flatMap_cons, List.flatMap_nil,
    ParsedChange.print, ParsedChangeKind.print, List.map_cons, List.map_nil,
    List.append_nil, List.cons_append, List.nil_append, String.join_cons,
    String.utf8ByteSize_append, line]
  have lineFeed : "\n".utf8ByteSize = 1 := rfl
  omega

/-- None of the three lists comes back from the parser. -/
theorem printed_patches_misread :
    (IsPatch markerPatch ∧ parsePatch (printPatch markerPatch) ≠ .ok markerPatch) ∧
      (IsPatch blankNamePatch ∧ parsePatch (printPatch blankNamePatch) ≠ .ok blankNamePatch) ∧
      IsPatch (longLinePatch maxPatchBytes) ∧
      parsePatch (printPatch (longLinePatch maxPatchBytes)) ≠
        .ok (longLinePatch maxPatchBytes) := by
  refine ⟨⟨?_, by decide +kernel⟩, ⟨?_, by decide +kernel⟩, isPatch_longLine _, ?_⟩
  · exact {
      nonempty := by decide
      few := by decide
      distinct := by decide
      safe := by decide
      plainPath := by decide
      plain := by decide
      hunked := by decide }
  · exact {
      nonempty := by decide
      few := by decide
      distinct := by decide
      safe := by decide
      plainPath := by decide
      plain := by decide
      hunked := by decide }
  · intro parsed
    have fits := (parsePatch_eq_ok.mp parsed).2.1
    exact absurd fits (Nat.not_le.mpr (length_lt_printPatch maxPatchBytes))

end ToolPatch
end YunXi
