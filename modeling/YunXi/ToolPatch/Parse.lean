import YunXi.Program.Checked
import YunXi.ToolPatch.Patch

/-!
# Parsing patches

The parser walks over the lines of the patch: one loop over the file sections and, inside
an added or updated file, one over its body, which ends where the next section starts.
-/

namespace YunXi
namespace ToolPatch

open Strings

def beginPatch : String := "*** Begin Patch"
def endPatch : String := "*** End Patch"
def endOfFile : String := "*** End of File"
def addFile : String := "*** Add File:"
def deleteFile : String := "*** Delete File:"
def updateFile : String := "*** Update File:"
def moveTo : String := "*** Move to:"

/-- `is_section_header`: the lines that end the body of a file. -/
def isSectionHeader (line : String) : Bool :=
  let line := trimEndReturns line
  startsWith addFile line || startsWith deleteFile line || startsWith updateFile line ||
    trim line == endPatch

/-- The lines up to the next section header. -/
def bodyLines (lines : List String) : List String :=
  lines.takeWhile fun line => !isSectionHeader line

/-- The lines from the next section header on. -/
def afterBody (lines : List String) : List String :=
  lines.dropWhile fun line => !isSectionHeader line

theorem length_afterBody_le (lines : List String) :
    (afterBody lines).length ≤ lines.length :=
  List.length_dropWhile_le _ _

/-- The body of an added file. -/
def parseAddBody (path : PathBuf) : List String → List String → Except PatchError (List String)
  | content, [] => .ok content
  | content, line :: rest =>
      let body := trimEndReturns line
      if body = endOfFile then parseAddBody path content rest
      else
        match stripPrefix "+" body with
        | none => .error (.invalidPatch
            ("add file `" ++ path.text ++ "` contains a line without `+`"))
        | some body => parseAddBody path (content ++ [body]) rest

/-- A finished hunk joins the earlier ones unless it has no lines. -/
def closeHunk (hunks : List (List PatchLine)) (current : List PatchLine) :
    List (List PatchLine) :=
  if current = [] then hunks else hunks ++ [current]

/-- One line of a hunk. -/
def parseHunkLine (path : PathBuf) (body : String) : Except PatchError PatchLine :=
  match stripPrefix "+" body with
  | some value => .ok (.add value)
  | none =>
      match stripPrefix "-" body with
      | some value => .ok (.remove value)
      | none =>
          match stripPrefix " " body with
          | some value => .ok (.context value)
          | none =>
              if body = "" then .ok (.context "")
              else .error (.invalidPatch
                ("update file `" ++ path.text ++ "` contains an invalid line `" ++ body ++
                  "`"))

/-- The body of an updated file. -/
def parseUpdateBody (path : PathBuf) :
    List (List PatchLine) → List PatchLine → List String →
      Except PatchError (List (List PatchLine))
  | hunks, current, [] => .ok (closeHunk hunks current)
  | hunks, current, line :: rest =>
      let body := trimEndReturns line
      if startsWith moveTo body then
        .error (.unsupported "`*** Move to:` is not supported in the first patch baseline")
      else if startsWith "@@" body then
        parseUpdateBody path (closeHunk hunks current) [] rest
      else if body = endOfFile then parseUpdateBody path hunks current rest
      else
        match parseHunkLine path body with
        | .error error => .error error
        | .ok hunkLine => parseUpdateBody path hunks (current ++ [hunkLine]) rest

/-- An updated file has at least one hunk. -/
def requireHunks (path : PathBuf) (hunks : List (List PatchLine)) :
    Except PatchError (List (List PatchLine)) :=
  if hunks = [] then
    .error (.invalidPatch ("update file `" ++ path.text ++ "` has no hunk lines"))
  else .ok hunks

/-- One file section: its change and the lines after it. -/
def parseSection (line : String) (rest : List String) :
    Except PatchError (ParsedChange × List String) :=
  match stripPrefix addFile line with
  | some path => do
      let path ← validateRelativePath (trim path)
      let content ← parseAddBody path [] (bodyLines rest)
      return (⟨path, .add content⟩, afterBody rest)
  | none =>
      match stripPrefix deleteFile line with
      | some path => do
          let path ← validateRelativePath (trim path)
          return (⟨path, .delete⟩, rest)
      | none =>
          match stripPrefix updateFile line with
          | some path => do
              let path ← validateRelativePath (trim path)
              let hunks ← parseUpdateBody path [] [] (bodyLines rest)
              let hunks ← requireHunks path hunks
              return (⟨path, .update hunks⟩, afterBody rest)
          | none => .error (.invalidPatch ("unsupported patch section `" ++ line ++ "`"))

variable {line : String} {rest remaining : List String} {change : ParsedChange}

/-- A section takes nothing but its own lines. -/
theorem parseSection_rest (parsed : parseSection line rest = .ok (change, remaining)) :
    remaining = rest ∨ remaining = afterBody rest := by
  unfold parseSection at parsed
  split at parsed
  case h_1 =>
    simp only [Except.bind_eq_ok, Except.pure_eq_ok, Prod.mk.injEq] at parsed
    obtain ⟨_, -, _, -, -, rfl⟩ := parsed
    exact Or.inr rfl
  case h_2 =>
    split at parsed
    case h_1 =>
      simp only [Except.bind_eq_ok, Except.pure_eq_ok, Prod.mk.injEq] at parsed
      obtain ⟨_, -, -, rfl⟩ := parsed
      exact Or.inl rfl
    case h_2 =>
      split at parsed
      case h_1 =>
        simp only [Except.bind_eq_ok, Except.pure_eq_ok, Prod.mk.injEq] at parsed
        obtain ⟨_, -, _, -, _, -, -, rfl⟩ := parsed
        exact Or.inr rfl
      case h_2 => cases parsed

attribute [local irreducible] parseSection in
/-- The loop over the sections: the changes, and the lines after the end marker if it
was met. -/
def parseSections (changes : List ParsedChange) :
    List String → Except PatchError (List ParsedChange × Option (List String))
  | [] => .ok (changes, none)
  | line :: rest =>
      if Protocol.isBlank (trimEndReturns line) then parseSections changes rest
      else if trim (trimEndReturns line) = endPatch then .ok (changes, some rest)
      else
        match _parsed : parseSection (trimEndReturns line) rest with
        | .error error => .error error
        | .ok (change, remaining) => parseSections (changes ++ [change]) remaining
termination_by lines => lines.length
decreasing_by
  · exact Nat.lt_succ_self _
  · have shorter := length_afterBody_le rest
    rcases parseSection_rest _parsed with rfl | rfl <;> simp only [List.length_cons] <;> omega

/-- The first path that an earlier section has too. -/
def firstDuplicate (seen : List (List Component)) : List ParsedChange → Option PathBuf
  | [] => none
  | change :: rest =>
      if change.path.components ∈ seen then some change.path
      else firstDuplicate (change.path.components :: seen) rest

/-- `parse_patch`. -/
def parsePatch (input : String) : Except PatchError (List ParsedChange) :=
  if input = "" then .error .emptyPatch
  else if input.utf8ByteSize > maxPatchBytes then
    .error (.patchTooLarge input.utf8ByteSize maxPatchBytes)
  else if (lines input).head?.map trim ≠ some beginPatch then
    .error (.invalidPatch "first line must be `*** Begin Patch`")
  else do
    let (changes, remaining) ← parseSections [] (lines input).tail
    match remaining with
    | none => .error (.invalidPatch "patch must end with `*** End Patch`")
    | some remaining =>
        if remaining.any fun line => !Protocol.isBlank line then
          .error (.invalidPatch
            "no non-empty content is allowed after `*** End Patch`")
        else if changes = [] then
          .error (.invalidPatch "patch must contain at least one file section")
        else if changes.length > maxPatchFiles then
          .error (.tooManyFiles changes.length maxPatchFiles)
        else
          match firstDuplicate [] changes with
          | some path => .error (.duplicatePath path)
          | none => .ok changes

/-- A path the parser returns for a text, spelled as the parser keeps it. -/
def PathBuf.IsSafe (path : PathBuf) : Prop :=
  validateRelativePath path.text = .ok path ∧ trim path.text = path.text

/-- A hunk that has lines, none of which reads as the end of the patch. -/
def IsHunk (hunk : List PatchLine) : Prop :=
  hunk ≠ [] ∧ ∀ text, .context text ∈ hunk → trim text ≠ endPatch

/-- Changes of a kind that a section can describe. -/
def ParsedChangeKind.IsDescribable : ParsedChangeKind → Prop
  | add _ => True
  | delete => True
  | update hunks => hunks ≠ [] ∧ ∀ hunk ∈ hunks, IsHunk hunk

/-- The change lists the parser returns. -/
structure WellFormed (changes : List ParsedChange) : Prop where
  nonempty : changes ≠ []
  few : changes.length ≤ maxPatchFiles
  distinct : changes.Pairwise fun earlier later =>
    earlier.path.components ≠ later.path.components
  safe : ∀ change ∈ changes, change.path.IsSafe
  describable : ∀ change ∈ changes, change.kind.IsDescribable

theorem trim_trim (value : String) : trim (trim value) = trim value :=
  trimMatches_trimMatches value

variable {path : PathBuf}

/-- What a valid path is. -/
theorem validateRelativePath_eq_ok {value : String} :
    validateRelativePath value = .ok path ↔
      path = ⟨replaceCharacter '\\' '/' value⟩ ∧ value ≠ "" ∧
        Protocol.containsNul value = false ∧ path.isAbsolute = false ∧
        value.toList.any (· == ':') = false ∧
        ∀ component ∈ path.components, component.isNormal = true := by
  unfold validateRelativePath
  constructor
  · intro valid
    dsimp only at valid
    split at valid
    case isTrue => cases valid
    case isFalse plain =>
      split at valid
      case isTrue => cases valid
      case isFalse relative =>
        split at valid
        case isTrue => cases valid
        case isFalse noColon =>
          split at valid
          case isFalse => cases valid
          case isTrue allNormal =>
            cases valid
            rw [not_or, Bool.not_eq_true] at plain
            rw [Bool.not_eq_true] at relative noColon
            exact ⟨rfl, plain.1, plain.2, relative, noColon, List.all_eq_true.mp allNormal⟩
  · rintro ⟨rfl, nonempty, noNul, relative, noColon, allNormal⟩
    rw [if_neg (by simp [nonempty, noNul]), if_neg (by simp [relative]),
      if_neg (by simp [noColon]), if_pos (List.all_eq_true.mpr allNormal)]

theorem containsNul_replaceSlash (value : String) :
    Protocol.containsNul (replaceCharacter '\\' '/' value) = Protocol.containsNul value :=
  any_replaceCharacter (fun character => character.toNat == 0) value rfl

theorem containsColon_replaceSlash (value : String) :
    (replaceCharacter '\\' '/' value).toList.any (· == ':') =
      value.toList.any (· == ':') :=
  any_replaceCharacter (· == ':') value rfl

theorem trim_replaceSlash (value : String) :
    trim (replaceCharacter '\\' '/' value) = replaceCharacter '\\' '/' (trim value) :=
  trimMatches_replaceCharacter value rfl

/-- A validated path is its own spelling. -/
theorem validateRelativePath_safe {value : String}
    (valid : validateRelativePath (trim value) = .ok path) : path.IsSafe := by
  rw [validateRelativePath_eq_ok] at valid
  obtain ⟨rfl, nonempty, noNul, relative, noColon, plain⟩ := valid
  constructor
  · rw [validateRelativePath_eq_ok]
    refine ⟨?_, ?_, ?_, relative, ?_, plain⟩
    · exact congrArg PathBuf.mk (replaceCharacter_replaceCharacter (trim value)).symm
    · exact mt replaceCharacter_eq_empty.mp nonempty
    · exact (containsNul_replaceSlash (trim value)).trans noNul
    · exact (containsColon_replaceSlash (trim value)).trans noColon
  · exact (trim_replaceSlash (trim value)).trans
      (congrArg (replaceCharacter '\\' '/') (trim_trim value))

theorem not_endPatch_of_body (inBody : isSectionHeader line = false) :
    trim (trimEndReturns line) ≠ endPatch := by
  unfold isSectionHeader at inBody
  simp only [Bool.or_eq_false_iff, beq_eq_false_iff_ne] at inBody
  exact inBody.2

/-- A context line of a body does not read as the end of the patch. -/
theorem parseHunkLine_context {text : String}
    (inBody : isSectionHeader line = false)
    (parsed : parseHunkLine path (trimEndReturns line) = .ok (.context text)) :
    trim text ≠ endPatch := by
  have bodyRead := not_endPatch_of_body inBody
  unfold parseHunkLine at parsed
  split at parsed
  case h_1 => cases parsed
  case h_2 =>
    split at parsed
    case h_1 => cases parsed
    case h_2 =>
      split at parsed
      case h_1 value found =>
        cases parsed
        rw [stripPrefix_eq_some.mp found] at bodyRead
        have spaceDropped : trim (" " ++ text) = trim text :=
          trimMatches_append_left text (by decide)
        rwa [spaceDropped] at bodyRead
      case h_2 =>
        split at parsed
        case isTrue isEmpty =>
          cases parsed
          rwa [isEmpty] at bodyRead
        case isFalse => cases parsed

/-- Every hunk collected so far is one, and the lines of the open hunk fit in one. -/
structure HunksRead (hunks : List (List PatchLine)) (current : List PatchLine) : Prop where
  closed : ∀ hunk ∈ hunks, IsHunk hunk
  opened : ∀ text, .context text ∈ current → trim text ≠ endPatch

namespace HunksRead

variable {hunks : List (List PatchLine)} {current : List PatchLine}

theorem close (read : HunksRead hunks current) :
    ∀ hunk ∈ closeHunk hunks current, IsHunk hunk := by
  unfold closeHunk
  split
  case isTrue => exact read.closed
  case isFalse nonempty =>
    intro hunk member
    rcases List.mem_append.mp member with old | new
    · exact read.closed hunk old
    · rw [List.mem_singleton.mp new]
      exact ⟨nonempty, read.opened⟩

theorem append (read : HunksRead hunks current) {line : PatchLine}
    (lineRead : ∀ text, line = .context text → trim text ≠ endPatch) :
    HunksRead hunks (current ++ [line]) := by
  refine ⟨read.closed, fun text member => ?_⟩
  rcases List.mem_append.mp member with old | new
  · exact read.opened text old
  · exact lineRead text (List.mem_singleton.mp new).symm

end HunksRead

/-- The loop over the body of an updated file collects hunks. -/
theorem parseUpdateBody_isHunk {hunks result : List (List PatchLine)}
    {current : List PatchLine} {lines : List String}
    (inBody : ∀ line ∈ lines, isSectionHeader line = false)
    (read : HunksRead hunks current)
    (parsed : parseUpdateBody path hunks current lines = .ok result) :
    ∀ hunk ∈ result, IsHunk hunk := by
  induction lines generalizing hunks current with
  | nil =>
      cases parsed
      exact read.close
  | cons line lines ih =>
      obtain ⟨lineInBody, restInBody⟩ := List.forall_mem_cons.mp inBody
      unfold parseUpdateBody at parsed
      dsimp only at parsed
      split at parsed
      case isTrue => cases parsed
      case isFalse =>
        split at parsed
        case isTrue =>
          exact ih restInBody ⟨read.close, by simp⟩ parsed
        case isFalse =>
          split at parsed
          case isTrue => exact ih restInBody read parsed
          case isFalse =>
            split at parsed
            case h_1 => cases parsed
            case h_2 hunkLine lineParsed =>
              refine ih restInBody (read.append ?_) parsed
              rintro text rfl
              exact parseHunkLine_context lineInBody lineParsed

theorem inBody_of_mem_bodyLines {lines : List String}
    (member : line ∈ bodyLines lines) : isSectionHeader line = false := by
  have kept := List.mem_takeWhile_imp member
  simpa using kept

/-- A section yields a change with a safe path that a section can describe. -/
theorem parseSection_wellFormed (parsed : parseSection line rest = .ok (change, remaining)) :
    change.path.IsSafe ∧ change.kind.IsDescribable := by
  unfold parseSection at parsed
  split at parsed
  case h_1 =>
    simp only [Except.bind_eq_ok, Except.pure_eq_ok, Prod.mk.injEq] at parsed
    obtain ⟨path, valid, content, -, rfl, -⟩ := parsed
    exact ⟨validateRelativePath_safe valid, trivial⟩
  case h_2 =>
    split at parsed
    case h_1 =>
      simp only [Except.bind_eq_ok, Except.pure_eq_ok, Prod.mk.injEq] at parsed
      obtain ⟨path, valid, rfl, -⟩ := parsed
      exact ⟨validateRelativePath_safe valid, trivial⟩
    case h_2 =>
      split at parsed
      case h_1 =>
        simp only [Except.bind_eq_ok, Except.pure_eq_ok, Prod.mk.injEq] at parsed
        obtain ⟨path, valid, hunks, read, required, nonempty, rfl, -⟩ := parsed
        refine ⟨validateRelativePath_safe valid, ?_⟩
        unfold requireHunks at nonempty
        split at nonempty
        case isTrue => cases nonempty
        case isFalse someHunk =>
          cases nonempty
          exact ⟨someHunk, parseUpdateBody_isHunk
            (fun _ member => inBody_of_mem_bodyLines member) ⟨by simp, by simp⟩ read⟩
      case h_2 => cases parsed

variable {changes : List ParsedChange}

theorem parseSections_blank (blank : Protocol.isBlank (trimEndReturns line) = true) :
    parseSections changes (line :: rest) = parseSections changes rest := by
  rw [parseSections, if_pos blank]

theorem parseSections_end (notBlank : Protocol.isBlank (trimEndReturns line) = false)
    (isEnd : trim (trimEndReturns line) = endPatch) :
    parseSections changes (line :: rest) = .ok (changes, some rest) := by
  rw [parseSections, if_neg (by simp [notBlank]), if_pos isEnd]

theorem parseSections_section (notBlank : Protocol.isBlank (trimEndReturns line) = false)
    (notEnd : trim (trimEndReturns line) ≠ endPatch)
    (parsed : parseSection (trimEndReturns line) rest = .ok (change, remaining)) :
    parseSections changes (line :: rest) = parseSections (changes ++ [change]) remaining := by
  rw [parseSections, if_neg (by simp [notBlank]), if_neg notEnd]
  split
  case h_1 error refused => cases parsed.symm.trans refused
  case h_2 change' remaining' parsed' => cases parsed.symm.trans parsed'; rfl

theorem parseSections_refused {error : PatchError}
    (notBlank : Protocol.isBlank (trimEndReturns line) = false)
    (notEnd : trim (trimEndReturns line) ≠ endPatch)
    (refused : parseSection (trimEndReturns line) rest = .error error) :
    parseSections changes (line :: rest) = .error error := by
  rw [parseSections, if_neg (by simp [notBlank]), if_neg notEnd]
  split
  case h_1 error' refused' => cases refused.symm.trans refused'; rfl
  case h_2 change remaining parsed => cases refused.symm.trans parsed

/-- The loop keeps a property of the changes that every section's change has. -/
theorem parseSections_all {holds : ParsedChange → Prop}
    (ofSection : ∀ line rest change remaining,
      parseSection line rest = .ok (change, remaining) → holds change)
    {result : List ParsedChange} {lines : List String}
    {after : Option (List String)}
    (start : ∀ change ∈ changes, holds change)
    (parsed : parseSections changes lines = .ok (result, after)) :
    ∀ change ∈ result, holds change := by
  induction changes, lines using parseSections.induct with
  | case1 changes =>
      rw [parseSections] at parsed
      cases parsed
      exact start
  | case2 changes line rest blank ih =>
      rw [parseSections_blank blank] at parsed
      exact ih start parsed
  | case3 changes line rest notBlank isEnd =>
      rw [parseSections_end (by simpa using notBlank) isEnd] at parsed
      cases parsed
      exact start
  | case4 changes line rest notBlank notEnd error refused =>
      rw [parseSections_refused (by simpa using notBlank) notEnd refused] at parsed
      cases parsed
  | case5 changes line rest notBlank notEnd change remaining read ih =>
      rw [parseSections_section (by simpa using notBlank) notEnd read] at parsed
      apply ih _ parsed
      rw [List.forall_mem_append]
      exact ⟨start, List.forall_mem_singleton.mpr (ofSection _ _ _ _ read)⟩

theorem firstDuplicate_eq_none {seen : List (List Component)} :
    firstDuplicate seen changes = none ↔
      (∀ change ∈ changes, change.path.components ∉ seen) ∧
        changes.Pairwise fun earlier later =>
          earlier.path.components ≠ later.path.components := by
  induction changes generalizing seen with
  | nil => simp [firstDuplicate]
  | cons change changes ih =>
      unfold firstDuplicate
      by_cases wasSeen : change.path.components ∈ seen
      · simp [wasSeen]
      · rw [if_neg wasSeen, ih, List.pairwise_cons, List.forall_mem_cons]
        simp only [List.mem_cons, not_or, ne_comm (b := change.path.components)]
        constructor
        · rintro ⟨unseen, distinct⟩
          exact ⟨⟨wasSeen, fun later member => (unseen later member).2⟩,
            fun later member => (unseen later member).1, distinct⟩
        · rintro ⟨⟨-, unseen⟩, differs, distinct⟩
          exact ⟨fun later member => ⟨differs later member, unseen later member⟩, distinct⟩

/-- What it takes for a patch to be accepted. -/
theorem parsePatch_eq_ok {input : String} :
    parsePatch input = .ok changes ↔
      input ≠ "" ∧ input.utf8ByteSize ≤ maxPatchBytes ∧
        (lines input).head?.map trim = some beginPatch ∧
        ∃ remaining, parseSections [] (lines input).tail = .ok (changes, some remaining) ∧
          (∀ line ∈ remaining, Protocol.isBlank line = true) ∧ changes ≠ [] ∧
          changes.length ≤ maxPatchFiles ∧ firstDuplicate [] changes = none := by
  unfold parsePatch
  constructor
  · intro parsed
    split at parsed
    case isTrue => cases parsed
    case isFalse nonempty =>
      split at parsed
      case isTrue => cases parsed
      case isFalse fits =>
        split at parsed
        case isTrue => cases parsed
        case isFalse begins =>
          rw [Except.bind_eq_ok] at parsed
          obtain ⟨⟨found, remaining⟩, sections, accepted⟩ := parsed
          refine ⟨nonempty, Nat.le_of_not_gt fits, not_not.mp begins, ?_⟩
          cases remaining with
          | none => cases accepted
          | some remaining =>
              dsimp only at accepted
              split at accepted
              case isTrue => cases accepted
              case isFalse onlyBlank =>
                split at accepted
                case isTrue => cases accepted
                case isFalse someChange =>
                  split at accepted
                  case isTrue => cases accepted
                  case isFalse few =>
                    split at accepted
                    case h_1 => cases accepted
                    case h_2 noDuplicate =>
                      cases accepted
                      exact ⟨remaining, sections, by simpa using onlyBlank, someChange,
                        Nat.le_of_not_gt few, noDuplicate⟩
  · rintro ⟨nonempty, fits, begins, remaining, sections, onlyBlank, someChange, few,
      noDuplicate⟩
    rw [if_neg nonempty, if_neg (Nat.not_lt.mpr fits), if_neg (not_not.mpr begins), sections]
    change (if _ then _ else _) = _
    rw [if_neg (by simpa using onlyBlank), if_neg someChange, if_neg (Nat.not_lt.mpr few),
      noDuplicate]

/-- The sections that are read of a patch are well formed, once they are counted and compared. -/
theorem wellFormed_of_sections {lines : List String}
    (sections : parseSections [] lines = .ok (changes, some remaining))
    (nonempty : changes ≠ []) (few : changes.length ≤ maxPatchFiles)
    (noDuplicate : firstDuplicate [] changes = none) : WellFormed changes := by
  have each := parseSections_all (fun _ _ _ _ read => parseSection_wellFormed read)
    (by simp) sections
  exact {
    nonempty := nonempty
    few := few
    distinct := (firstDuplicate_eq_none.mp noDuplicate).2
    safe := fun change member => (each change member).1
    describable := fun change member => (each change member).2 }

/-- The parser returns well-formed change lists only. -/
theorem parsePatch_wellFormed {input : String}
    (parsed : parsePatch input = .ok changes) : WellFormed changes := by
  obtain ⟨-, -, -, remaining, sections, -, nonempty, few, noDuplicate⟩ :=
    parsePatch_eq_ok.mp parsed
  exact wellFormed_of_sections sections nonempty few noDuplicate

/-- A patch with a change of each kind. -/
def mixedPatch : String :=
  "*** Begin Patch\n*** Add File: new.txt\n+fresh\n*** Update File: notes.txt\n@@\n one\n-two\n" ++
    "+deux\n*** Delete File: old.txt\n*** End Patch\n"

def mixedChanges : List ParsedChange :=
  [⟨⟨"new.txt"⟩, .add ["fresh"]⟩,
    ⟨⟨"notes.txt"⟩, .update [[.context "one", .remove "two", .add "deux"]]⟩,
    ⟨⟨"old.txt"⟩, .delete⟩]

theorem parsePatch_wellFormed_mixed :
    parsePatch mixedPatch = .ok mixedChanges ∧ WellFormed mixedChanges := by
  have parsed : parsePatch mixedPatch = .ok mixedChanges := by decide +kernel
  exact ⟨parsed, parsePatch_wellFormed parsed⟩

end ToolPatch
end YunXi
