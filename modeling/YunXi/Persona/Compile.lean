import Mathlib.Algebra.Order.BigOperators.Group.List
import YunXi.Persona.Document

/-!
# Compiled contexts

A compiled context is a document of fixed elements that fits its budget.  What has to stay is
bounded, since the only texts in it that are not fixed are bounded before they are escaped.
-/

namespace YunXi
namespace Persona

open Memory (MemoryContextRecord)

variable (request : PersonaContextRequest)

def PersonaContextRequest.bootContext : List MemoryContextRecord :=
  if request.includeBootContext = true then request.bootMemories else []

variable (profile : PersonaProfile)

variable (personaEnabled : Bool)

/-- The blocks of `compile_with`. -/
def contextBlocks : List ContextBlock :=
  (if personaEnabled = true then
    [personaBlock profile, boundariesBlock profile, companionRulesBlock profile,
      relationshipBlock (request.bootContext ++ request.dynamicMemories)]
  else []) ++
  (if request.includeBootContext = true then
    [memoryBlock "boot_memory_context" request.bootContext] else []) ++
  [memoryBlock "dynamic_memory_context" request.dynamicMemories]

def contextBudget : Nat :=
  max (if profile.layers.soul.length > largeSoulThresholdChars then
    profile.layers.soul.length + largeSoulHeadroomChars
  else defaultContextBudgetChars) minContextBudgetChars

def contextMode : String :=
  if personaEnabled = true then "persona_with_routed_memory" else "memory_only"

def rootOpen : String :=
  "<yunxi_persona_context version=\"1\" profile_id=\"" ++ escapeXml (boundedText profile.id 96) ++
    "\" profile_version=\"" ++ escapeXml (boundedText profile.version 32) ++ "\" mode=\"" ++
    contextMode personaEnabled ++ "\">"

def rootClose : String := "</yunxi_persona_context>"

def compileWith (warnings : List String) : PersonaContextResult :=
  let memoryCount := request.bootContext.length + request.dynamicMemories.length
  if personaEnabled = false ∧ memoryCount = 0 then
    { content := none
      profileId := profile.id
      displayName := profile.displayName
      memoryCount := 0
      warnings }
  else
    { content := some (renderWithBudget (rootOpen profile personaEnabled) rootClose
        (contextBlocks request profile personaEnabled) (contextBudget profile))
      profileId := profile.id
      displayName := profile.displayName
      memoryCount
      warnings }

/-- `compile_context`, with the settings and the profile that were loaded. -/
def compileContext (warnings : List String) :
    Except PersonaCompileError PersonaContextResult := do
  validateRequest request
  return compileWith request profile personaEnabled warnings

def rootAttributes : List (String × String) :=
  [("version", "1"), ("profile_id", boundedText profile.id 96),
    ("profile_version", boundedText profile.version 32), ("mode", contextMode personaEnabled)]

def contextSections : List DocumentSection :=
  (if personaEnabled = true then
    [personaSection profile, boundariesSection profile, companionRulesSection profile,
      relationshipSection (request.bootContext ++ request.dynamicMemories)]
  else []) ++
  (if request.includeBootContext = true then
    [memorySection "boot_memory_context" request.bootContext] else []) ++
  [memorySection "dynamic_memory_context" request.dynamicMemories]

variable {request : PersonaContextRequest} {profile : PersonaProfile} {personaEnabled : Bool}

theorem map_toBlock_contextSections :
    (contextSections request profile personaEnabled).map DocumentSection.toBlock =
      contextBlocks request profile personaEnabled := by
  unfold contextSections contextBlocks
  rw [List.map_append, List.map_append, List.map_singleton, toBlock_memorySection]
  congr 2
  · split
    · simp only [List.map_cons, List.map_nil, toBlock_personaSection, toBlock_boundariesSection,
        toBlock_companionRulesSection, toBlock_relationshipSection]
    · rfl
  · split
    · rw [List.map_singleton, toBlock_memorySection]
    · rfl

theorem plain_contextSections :
    ∀ part ∈ contextSections request profile personaEnabled, part.Plain := by
  unfold contextSections
  refine List.forall_mem_append.mpr ⟨List.forall_mem_append.mpr ⟨?_, ?_⟩, ?_⟩
  · split
    · simp only [List.forall_mem_cons]
      exact ⟨plain_personaSection profile, plain_boundariesSection profile,
        plain_companionRulesSection profile, plain_relationshipSection _, List.forall_mem_nil _⟩
    · exact List.forall_mem_nil _
  · split
    · exact List.forall_mem_singleton.mpr
        (plain_memorySection (by decide) (escapeXml_ofList (by decide)) _)
    · exact List.forall_mem_nil _
  · exact List.forall_mem_singleton.mpr
      (plain_memorySection (by decide) (escapeXml_ofList (by decide)) _)

theorem plain_rootAttributes :
    ∀ named ∈ rootAttributes profile personaEnabled, PlainName named.1 := by
  unfold rootAttributes
  simp only [List.forall_mem_cons, List.not_mem_nil, false_implies, implies_true, and_true]
  decide

theorem escapeXml_contextMode : escapeXml (contextMode personaEnabled) = contextMode personaEnabled := by
  cases personaEnabled <;> exact escapeXml_ofList (by decide)

theorem rootOpen_eq : rootOpen profile personaEnabled =
      "<yunxi_persona_context" ++ printAttributes (rootAttributes profile personaEnabled) ++ ">" := by
  have opening : "<yunxi_persona_context version=\"1\" profile_id=\"" =
      "<yunxi_persona_context" ++ (" " ++ ("version" ++ ("=\"" ++ ("1" ++ ("\"" ++
        (" " ++ ("profile_id" ++ "=\""))))))) := rfl
  have version : "\" profile_version=\"" = "\"" ++ (" " ++ ("profile_version" ++ "=\"")) := rfl
  have mode : "\" mode=\"" = "\"" ++ (" " ++ ("mode" ++ "=\"")) := rfl
  have closing : "\">" = "\"" ++ ">" := rfl
  have one : escapeXml "1" = "1" := escapeXml_ofList (by decide)
  unfold rootOpen
  rw [opening, version, mode, closing]
  simp only [rootAttributes, printAttributes, one, escapeXml_contextMode, String.append_assoc,
    String.empty_append]

theorem allIncluded_contextBlocks : AllIncluded (contextBlocks request profile personaEnabled) := by
  intro line among
  obtain ⟨block, isBlock, isLine⟩ := mem_placed.mp among
  rw [← map_toBlock_contextSections, List.getElem?_map] at isBlock
  obtain ⟨part, -, rfl⟩ := Option.map_eq_some_iff.mp isBlock
  unfold DocumentSection.toBlock at isLine
  rw [List.getElem?_map] at isLine
  obtain ⟨original, -, same⟩ := Option.map_eq_some_iff.mp isLine
  rw [← same]
  rfl

theorem length_boundedText_le (value : String) {maximum : Nat} (three : 3 ≤ maximum) :
    (boundedText value maximum).length ≤ maximum := by
  unfold boundedText
  split
  · assumption
  · have dots : "...".length = 3 := rfl
    have short := List.length_take_le (maximum - 3) value.toList
    rw [String.length_append, String.length_ofList, dots]
    omega

theorem length_escapeXml_le (value : String) : (escapeXml value).length ≤ 6 * value.length := by
  have shape := Markup.length_escape_le value.toList
  rwa [← toList_escapeXml, String.length_toList, String.length_toList] at shape

theorem length_contextMode_le : (contextMode personaEnabled).length ≤ 26 := by
  cases personaEnabled <;> decide

theorem length_familiarity_le (records : List MemoryContextRecord) :
    (familiarity records).length ≤ 11 := by
  unfold familiarity
  dsimp only
  split_ifs <;> decide

theorem length_rootOpen_le : (rootOpen profile personaEnabled).length ≤ 871 := by
  have id := length_escapeXml_le (boundedText profile.id 96)
  have version := length_escapeXml_le (boundedText profile.version 32)
  have shortId := length_boundedText_le profile.id (show 3 ≤ 96 by decide)
  have shortVersion := length_boundedText_le profile.version (show 3 ≤ 32 by decide)
  have mode : (contextMode personaEnabled).length ≤ 26 := length_contextMode_le
  have opening : "<yunxi_persona_context version=\"1\" profile_id=\"".length = 47 := rfl
  have versionName : "\" profile_version=\"".length = 19 := rfl
  have modeName : "\" mode=\"".length = 8 := rfl
  have closing : "\">".length = 2 := rfl
  unfold rootOpen
  simp only [String.length_append, opening, versionName, modeName, closing]
  omega

section Fixed

set_option maxRecDepth 4000

theorem length_ofList_le {characters : List Char} {count : Nat}
    (short : (characters.length ≤ count)) : (String.ofList characters).length ≤ count := by
  rwa [String.length_ofList]

theorem length_priorityText_le : priorityText.length ≤ 200 := length_ofList_le (by decide +kernel)

theorem length_policyText_le : policyText.length ≤ 200 := length_ofList_le (by decide +kernel)

theorem length_memoryNotice_le : memoryNotice.length ≤ 200 := length_ofList_le (by decide +kernel)

theorem length_memoryPolicy_le : memoryPolicy.length ≤ 200 := length_ofList_le (by decide +kernel)

end Fixed

/-- Characters of lines with their ends. -/
def linesLength (lines : List String) : Nat := (lines.map fun line => line.length + 1).sum

theorem length_printLines (lines : List String) : (printLines lines).length = linesLength lines := by
  induction lines with
  | nil => rfl
  | cons line rest ih =>
      have step : printLines (line :: rest) = line.toList ++ ['\n'] ++ printLines rest := rfl
      rw [step, List.length_append, List.length_append, ih, String.length_toList]
      rfl

theorem linesLength_append (first second : List String) :
    linesLength (first ++ second) = linesLength first + linesLength second := by
  unfold linesLength
  rw [List.map_append, List.sum_append]

theorem length_render (rootOpen rootClose : String) (blocks : List ContextBlock) :
    (render rootOpen rootClose blocks).length =
      rootOpen.length + 1 + (blocks.map fun block => linesLength block.render).sum +
        rootClose.length := by
  have lines : linesLength (blocks.flatMap ContextBlock.render) =
      (blocks.map fun block => linesLength block.render).sum := by
    induction blocks with
    | nil => rfl
    | cons block rest ih =>
        rw [List.flatMap_cons, linesLength_append, ih]
        rfl
  rw [← String.length_toList, toList_render, ← lines, ← length_printLines]
  simp only [List.length_append, List.length_cons, String.length_toList]
  omega

/-- The texts that have to stay. -/
def requiredLines (lines : List ContextLine) : List String :=
  (lines.filter (·.required)).map (·.content)

namespace ContextBlock

/-- What remains of a block at the least. -/
def floorLength (block : ContextBlock) : Nat :=
  3 * block.name.length + 32 + linesLength (requiredLines block.lines)

theorem linesLength_stripped_le (block : ContextBlock) :
    linesLength block.stripped.render ≤ block.floorLength := by
  have required : (block.stripped.lines.filter (·.included)).map (·.content) =
      requiredLines block.lines := by
    unfold stripped requiredLines
    rw [List.filter_map, List.map_map]
    rfl
  have marker (holds : Bool) : linesLength
      (if holds then ["<truncated section=\"" ++ block.name ++ "\" />"] else []) ≤
        block.name.length + 25 := by
    have opening : "<truncated section=\"".length = 20 := rfl
    have closing : "\" />".length = 4 := rfl
    cases holds with
    | false => exact Nat.zero_le _
    | true =>
        simp only [if_true, linesLength, List.map_cons, List.map_nil, List.sum_cons, List.sum_nil,
          String.length_append, opening, closing]
        omega
  have tag (opening : String) : linesLength [opening ++ block.name ++ ">"] =
      opening.length + block.name.length + 2 := by
    have closing : ">".length = 1 := rfl
    simp only [linesLength, List.map_cons, List.map_nil, List.sum_cons, List.sum_nil,
      String.length_append, closing]
    omega
  have name : block.stripped.name = block.name := rfl
  have first : "<".length = 1 := rfl
  have last : "</".length = 2 := rfl
  have marked := marker (block.stripped.lines.any fun line => !line.included)
  unfold render floorLength
  rw [linesLength_append, linesLength_append, linesLength_append, name, tag, tag, required, first,
    last]
  omega

end ContextBlock

theorem requiredLines_append (first second : List ContextLine) :
    requiredLines (first ++ second) = requiredLines first ++ requiredLines second := by
  unfold requiredLines
  rw [List.filter_append, List.map_append]

theorem requiredLines_cons_optional (content : String) (dropPriority : Nat)
    (rest : List ContextLine) :
    requiredLines (.optional content dropPriority :: rest) = requiredLines rest := rfl

theorem requiredLines_cons_always (content : String) (rest : List ContextLine) :
    requiredLines (.always content :: rest) = content :: requiredLines rest := rfl

theorem requiredLines_map_optional {α : Type} (values : List α) (content : α → String)
    (dropPriority : Nat) :
    requiredLines (values.map fun value => .optional (content value) dropPriority) = [] := by
  induction values with
  | nil => rfl
  | cons value rest ih => exact ih

theorem requiredLines_personaBlock : requiredLines (personaBlock profile).lines = [] := by
  unfold personaBlock
  dsimp only
  split <;> rfl

theorem requiredLines_boundariesBlock : requiredLines (boundariesBlock profile).lines =
      ["<priority>" ++ priorityText ++ "</priority>", "<policy>" ++ policyText ++ "</policy>"] := by
  have rules : requiredLines (profile.constraints.map ruleLine) = [] :=
    requiredLines_map_optional _ _ 4
  unfold boundariesBlock
  dsimp only
  rw [requiredLines_append, requiredLines_cons_always, requiredLines_cons_always]
  split
  · rfl
  · rw [optionalElement, requiredLines_cons_optional, rules]
    rfl

theorem requiredLines_companionRulesBlock :
    requiredLines (companionRulesBlock profile).lines = [] := by
  have elements (tag : String) (values : List String) :
      requiredLines (values.map (optionalElement tag · 0)) = [] :=
    requiredLines_map_optional values _ 0
  unfold companionRulesBlock
  dsimp only
  split
  · rfl
  · simp only [requiredLines_append, elements, List.append_nil]
    rfl

theorem requiredLines_relationshipBlock (records : List MemoryContextRecord) :
    requiredLines (relationshipBlock records).lines =
      ["<familiarity>" ++ familiarity records ++ "</familiarity>"] := by
  have elements (tag : String) (values : List MemoryContextRecord) :
      requiredLines (values.map fun record => optionalElement tag record.content 1) = [] :=
    requiredLines_map_optional values _ 1
  unfold relationshipBlock
  dsimp only
  rw [List.cons_append, requiredLines_cons_always, requiredLines_append, elements, elements]
  rfl

theorem requiredLines_memoryBlock (name : String) (memories : List MemoryContextRecord) :
    requiredLines (memoryBlock name memories).lines =
      ["<notice>" ++ memoryNotice ++ "</notice>", "<policy>" ++ memoryPolicy ++ "</policy>"] := by
  have lines : requiredLines (memories.map memoryLine) = [] := requiredLines_map_optional _ _ 5
  unfold memoryBlock
  dsimp only
  rw [requiredLines_append, requiredLines_cons_always, requiredLines_cons_always, lines]
  rfl

theorem floorLength_personaBlock : (personaBlock profile).floorLength = 53 := by
  have name : (personaBlock profile).name.length = 7 := show "persona".length = 7 from rfl
  unfold ContextBlock.floorLength
  rw [requiredLines_personaBlock, name]
  rfl

theorem floorLength_boundariesBlock_le : (boundariesBlock profile).floorLength ≤ 502 := by
  have name : (boundariesBlock profile).name.length = 10 := show "boundaries".length = 10 from rfl
  have priority := length_priorityText_le
  have policy := length_policyText_le
  have tags : "<priority>".length = 10 ∧ "</priority>".length = 11 ∧ "<policy>".length = 8 ∧
      "</policy>".length = 9 := by decide
  unfold ContextBlock.floorLength
  rw [requiredLines_boundariesBlock, name]
  simp only [linesLength, List.map_cons, List.map_nil, List.sum_cons, List.sum_nil,
    String.length_append, tags]
  omega

theorem floorLength_companionRulesBlock : (companionRulesBlock profile).floorLength = 77 := by
  have name : (companionRulesBlock profile).name.length = 15 :=
    show "companion_rules".length = 15 from rfl
  unfold ContextBlock.floorLength
  rw [requiredLines_companionRulesBlock, name]
  rfl

theorem floorLength_relationshipBlock_le (records : List MemoryContextRecord) :
    (relationshipBlock records).floorLength ≤ 107 := by
  have name : (relationshipBlock records).name.length = 12 :=
    show "relationship".length = 12 from rfl
  have text := length_familiarity_le records
  have tags : "<familiarity>".length = 13 ∧ "</familiarity>".length = 14 := by decide
  unfold ContextBlock.floorLength
  rw [requiredLines_relationshipBlock, name]
  simp only [linesLength, List.map_cons, List.map_nil, List.sum_cons, List.sum_nil,
    String.length_append, tags]
  omega

theorem floorLength_memoryBlock_le {name : String} (short : name.length ≤ 22)
    (memories : List MemoryContextRecord) : (memoryBlock name memories).floorLength ≤ 534 := by
  have same : (memoryBlock name memories).name = name := rfl
  have notice := length_memoryNotice_le
  have policy := length_memoryPolicy_le
  have tags : "<notice>".length = 8 ∧ "</notice>".length = 9 ∧ "<policy>".length = 8 ∧
      "</policy>".length = 9 := by decide
  unfold ContextBlock.floorLength
  rw [requiredLines_memoryBlock, same]
  simp only [linesLength, List.map_cons, List.map_nil, List.sum_cons, List.sum_nil,
    String.length_append, tags]
  omega

/-- The lines that have to stay fit into every budget. -/
theorem length_render_stripped_le : (render (rootOpen profile personaEnabled) rootClose
      ((contextBlocks request profile personaEnabled).map ContextBlock.stripped)).length ≤
      contextBudget profile := by
  have sum_le (blocks : List ContextBlock) :
      ((blocks.map ContextBlock.stripped).map fun block => linesLength block.render).sum ≤
        (blocks.map ContextBlock.floorLength).sum := by
    rw [List.map_map]
    exact List.sum_le_sum fun block _ => block.linesLength_stripped_le
  have floors : ((contextBlocks request profile personaEnabled).map
      ContextBlock.floorLength).sum ≤ 1807 := by
    have boot := floorLength_memoryBlock_le (show "boot_memory_context".length ≤ 22 by decide)
      request.bootContext
    have dynamic := floorLength_memoryBlock_le
      (show "dynamic_memory_context".length ≤ 22 by decide) request.dynamicMemories
    have boundaries : (boundariesBlock profile).floorLength ≤ 502 := floorLength_boundariesBlock_le
    have relationship :=
      floorLength_relationshipBlock_le (request.bootContext ++ request.dynamicMemories)
    unfold contextBlocks
    split_ifs <;>
      simp only [List.map_append, List.map_cons, List.map_nil, List.sum_append, List.sum_cons,
        List.sum_nil, floorLength_personaBlock, floorLength_companionRulesBlock] <;>
      omega
  have opening : (rootOpen profile personaEnabled).length ≤ 871 := length_rootOpen_le
  have closing : rootClose.length = 24 := rfl
  have budget : 3200 ≤ contextBudget profile := by
    unfold contextBudget
    split
    · next large =>
        unfold largeSoulThresholdChars at large
        omega
    · exact Nat.le_max_left _ _
  rw [length_render, closing]
  have blocks := (sum_le _).trans floors
  omega

/-- A context without the lines that are gone. -/
structure WellFormed (request : PersonaContextRequest) (profile : PersonaProfile)
    (personaEnabled : Bool) (content : String) (gone : Nat → Nat → Bool) : Prop where
  text : content = render (rootOpen profile personaEnabled) rootClose
    (mark (contextBlocks request profile personaEnabled) gone)
  fits : content.length ≤ contextBudget profile
  inOrder : InOrder (rootOpen profile personaEnabled) rootClose
    (contextBlocks request profile personaEnabled) (contextBudget profile) gone
  reads : Markup.read content.toList = some (document (rootAttributes profile personaEnabled)
    (contextSections request profile personaEnabled) gone)
  truncated : ∀ part ∈ (contextSections request profile personaEnabled).zipIdx,
    truncationPiece part.1.name ∈ part.1.pieces (gone part.2) ↔
      ∃ line ∈ part.1.lines.zipIdx, gone part.2 line.2 = true

theorem renderWithBudget_wellFormed (request : PersonaContextRequest) (profile : PersonaProfile)
    (personaEnabled : Bool) :
    ∃ gone, WellFormed request profile personaEnabled
      (renderWithBudget (rootOpen profile personaEnabled) rootClose
        (contextBlocks request profile personaEnabled) (contextBudget profile)) gone := by
  have all : AllIncluded (contextBlocks request profile personaEnabled) :=
    allIncluded_contextBlocks
  obtain ⟨gone, inOrder, rendered, ends⟩ :=
    renderWithBudget_spec (rootOpen profile personaEnabled) rootClose (contextBudget profile) all
  refine ⟨gone, rendered, ?_, inOrder, ?_, fun part among => ?_⟩
  · rw [rendered]
    rcases ends with fits | all
    · exact fits
    · rw [inOrder.eq_stripped all]
      exact length_render_stripped_le
  · rw [rendered, rootOpen_eq, ← map_toBlock_contextSections]
    exact read_render_mark plain_rootAttributes plain_contextSections gone
  · have plain := plain_contextSections part.1 (List.fst_mem_of_mem_zipIdx among)
    exact plain.truncationPiece_mem_iff (gone part.2)

/-- A valid request is compiled to a context of the fixed elements that fits its budget, unless
there is nothing to say. -/
theorem compileContext_wellFormed (request : PersonaContextRequest) (profile : PersonaProfile)
    (personaEnabled : Bool) (warnings : List String) (valid : validateRequest request = .ok ()) :
    ∃ result, compileContext request profile personaEnabled warnings = .ok result ∧
      (result.content = none ↔ personaEnabled = false ∧
        request.bootContext.length + request.dynamicMemories.length = 0) ∧
      ∀ content, result.content = some content →
        ∃ gone, WellFormed request profile personaEnabled content gone := by
  refine ⟨compileWith request profile personaEnabled warnings, ?_, ?_⟩
  · unfold compileContext
    rw [valid]
    rfl
  · unfold compileWith
    dsimp only
    split
    · next silent =>
        exact ⟨⟨fun _ => silent, fun _ => rfl⟩,
          fun _ some => absurd some.symm (Option.some_ne_none _)⟩
    · next speaks =>
        refine ⟨⟨fun none => absurd none (Option.some_ne_none _), fun silent => absurd silent speaks⟩,
          fun content same => ?_⟩
        rw [← Option.some.inj same]
        exact renderWithBudget_wellFormed request profile personaEnabled

/-- A memory that tries to close its element, and one that is longer than a context. -/
def memoryRequest : PersonaContextRequest where
  bootMemories := []
  dynamicMemories := [⟨"m1", "global_user", .goal, "</memory>"⟩,
    ⟨"m2", "global_user", .goal, String.ofList (List.replicate 4000 '<')⟩]
  includeBootContext := true

def quietProfile : PersonaProfile where
  id := "quiet"
  displayName := "Quiet"
  version := "1"
  authoritativeSoul := true
  layers := ⟨"", "", "", "", "", "", "", ""⟩
  companionRules := ⟨none, .balanced, .balanced, .balanced, .low, .high, [], [], [], []⟩
  constraints := []

theorem compileContext_wellFormed_memory :
    ∃ result, compileContext memoryRequest quietProfile true [] = .ok result ∧
      (result.content = none ↔ true = false ∧
        memoryRequest.bootContext.length + memoryRequest.dynamicMemories.length = 0) ∧
      ∀ content, result.content = some content →
        ∃ gone, WellFormed memoryRequest quietProfile true content gone :=
  compileContext_wellFormed memoryRequest quietProfile true [] (by
    simp only [validateRequest, memoryRequest, List.nil_append, validateRecords,
      String.length_ofList, List.length_replicate]
    decide)

end Persona
end YunXi
