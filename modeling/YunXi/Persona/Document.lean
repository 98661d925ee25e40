import YunXi.Persona.Budget
import YunXi.Program.Markup

/-!
# The document of a persona's context

The blocks of the renderer are sections of elements.  A reader that knows nothing of profiles and
memories finds these elements in the text, with the texts of the profile and the memories as their
values and nowhere else.
-/

namespace YunXi
namespace Persona

open Memory (MemoryContextRecord MemoryKind)
open Markup (Piece Tag)

theorem toList_replaceWith (old : Char) (new value : String) :
    (replaceWith old new value).toList = value.toList.flatMap fun character =>
      if character = old then new.toList else [character] :=
  String.toList_ofList

theorem toList_escapeXml (value : String) :
    (escapeXml value).toList = Markup.escape value.toList := by
  have ampersand : "&amp;".toList = ['&', 'a', 'm', 'p', ';'] := rfl
  have less : "&lt;".toList = ['&', 'l', 't', ';'] := rfl
  have greater : "&gt;".toList = ['&', 'g', 't', ';'] := rfl
  have quote : "&quot;".toList = ['&', 'q', 'u', 'o', 't', ';'] := rfl
  have apostrophe : "&apos;".toList = ['&', 'a', 'p', 'o', 's', ';'] := rfl
  unfold escapeXml Markup.escape
  simp only [toList_replaceWith, List.flatMap_assoc, ampersand, less, greater, quote, apostrophe]
  congr 1
  funext character
  by_cases isAmpersand : character = '&'
  · subst isAmpersand
    rfl
  by_cases isLess : character = '<'
  · subst isLess
    rfl
  by_cases isGreater : character = '>'
  · subst isGreater
    rfl
  by_cases isQuote : character = '\"'
  · subst isQuote
    rfl
  by_cases isApostrophe : character = '\''
  · subst isApostrophe
    rfl
  have plain : Markup.isMarkup character = false := by
    simp [Markup.isMarkup, isLess, isGreater, isQuote]
  rw [Markup.escapeCharacter_of_plain plain isAmpersand isApostrophe]
  simp only [if_neg isAmpersand, if_neg isLess, if_neg isGreater, if_neg isQuote,
    if_neg isApostrophe, List.flatMap_singleton]

/-- Texts without a character that is escaped. -/
theorem escapeXml_ofList {characters : List Char}
    (plain : (characters.all fun character => !Markup.isMarkup character && character != '&' &&
      character != '\'') = true) : escapeXml (String.ofList characters) = String.ofList characters := by
  rw [← String.toList_inj, toList_escapeXml, String.toList_ofList]
  rw [List.all_eq_true] at plain
  unfold Markup.escape
  conv_rhs => rw [← List.flatMap_singleton' characters]
  refine List.flatMap_congr fun character among => ?_
  have holds := plain character among
  simp only [Bool.and_eq_true, Bool.not_eq_true', bne_iff_ne] at holds
  exact Markup.escapeCharacter_of_plain holds.1.1 holds.1.2 holds.2

section Fixed

set_option maxRecDepth 4000

theorem escapeXml_priorityText : escapeXml priorityText = priorityText :=
  escapeXml_ofList (by decide +kernel)

theorem escapeXml_policyText : escapeXml policyText = policyText :=
  escapeXml_ofList (by decide +kernel)

theorem escapeXml_soulNotice : escapeXml soulNotice = soulNotice :=
  escapeXml_ofList (by decide +kernel)

theorem escapeXml_rulesNotice : escapeXml rulesNotice = rulesNotice :=
  escapeXml_ofList (by decide +kernel)

theorem escapeXml_memoryNotice : escapeXml memoryNotice = memoryNotice :=
  escapeXml_ofList (by decide +kernel)

theorem escapeXml_memoryPolicy : escapeXml memoryPolicy = memoryPolicy :=
  escapeXml_ofList (by decide +kernel)

end Fixed

theorem escapeXml_level (level : PersonaRuleLevel) : escapeXml level.label = level.label := by
  cases level <;> exact escapeXml_ofList (by decide)

theorem escapeXml_kind (kind : MemoryKind) : escapeXml kind.storageKey = kind.storageKey := by
  cases kind <;> exact escapeXml_ofList (by decide)

theorem escapeXml_familiarity (records : List MemoryContextRecord) :
    escapeXml (familiarity records) = familiarity records := by
  unfold familiarity
  dsimp only
  split_ifs <;> exact escapeXml_ofList (by decide)

/-- An element with its attributes, and a text unless it is closed at once. -/
structure Element where
  name : String
  attributes : List (String × String)
  text : Option String
  deriving DecidableEq, Repr

/-- What stands behind a name or a value: the next attribute or the end of the tag. -/
def lead : List (String × String) → String → String
  | [], ending => ending
  | (name, _) :: _, _ => " " ++ name ++ "="

def attributeValues : List (String × String) → String → List (List Char × List Char)
  | [], _ => []
  | (_, value) :: rest, ending =>
      (value.toList, (lead rest ending).toList) :: attributeValues rest ending

variable (name : String)

variable (attributes : List (String × String))

def tagOf (ending : String) : Tag :=
  ⟨(name ++ lead attributes ending).toList, attributeValues attributes ending⟩

def printAttributes : List (String × String) → String
  | [] => ""
  | (name, value) :: rest =>
      " " ++ name ++ "=\"" ++ escapeXml value ++ "\"" ++ printAttributes rest

theorem toList_printAttributes (ending : String) :
    (lead attributes ending).toList ++ Markup.printValues (attributeValues attributes ending) =
      (printAttributes attributes).toList ++ ending.toList := by
  induction attributes with
  | nil => simp [lead, attributeValues, Markup.printValues, printAttributes]
  | cons named rest ih =>
      obtain ⟨name, value⟩ := named
      have step : Markup.printValues (attributeValues ((name, value) :: rest) ending) =
          '\"' :: Markup.escape value.toList ++ '\"' :: ((lead rest ending).toList ++
            Markup.printValues (attributeValues rest ending)) := by
        simp [attributeValues, Markup.printValues]
      rw [step, ih]
      simp [lead, printAttributes, toList_escapeXml]

theorem print_tagOf (ending : String) :
    (tagOf name attributes ending).print =
      name.toList ++ (printAttributes attributes).toList ++ ending.toList := by
  unfold Tag.print tagOf
  rw [String.toList_append, List.append_assoc, toList_printAttributes, List.append_assoc]

variable (element : Element)

namespace Element

def print : String :=
  match element.text with
  | none => "<" ++ element.name ++ printAttributes element.attributes ++ " />"
  | some text =>
      "<" ++ element.name ++ printAttributes element.attributes ++ ">" ++ escapeXml text ++
        "</" ++ element.name ++ ">"

/-- An element on a line of its own. -/
def pieces : List Piece :=
  match element.text with
  | none => [⟨tagOf element.name element.attributes " /", ['\n']⟩]
  | some text =>
      [⟨tagOf element.name element.attributes "", text.toList⟩,
        ⟨tagOf ("/" ++ element.name) [] "", ['\n']⟩]

theorem print_pieces : Markup.print element.pieces = element.print.toList ++ ['\n'] := by
  unfold pieces print
  cases element.text with
  | none =>
      simp [Markup.print, Piece.print, Piece.body, print_tagOf, Markup.escape,
        Markup.escapeCharacter]
  | some text =>
      simp [Markup.print, Piece.print, Piece.body, print_tagOf, toList_escapeXml, printAttributes,
        Markup.escape, Markup.escapeCharacter]

/-- A text in which nothing is escaped. -/
theorem print_fixed {tag text opening closing : String} (same : escapeXml text = text)
    (isOpening : opening = "<" ++ (tag ++ ">")) (isClosing : closing = "</" ++ (tag ++ ">")) :
    print ⟨tag, [], some text⟩ = opening ++ text ++ closing := by
  subst isOpening isClosing
  simp only [print, printAttributes, same, String.append_assoc, String.empty_append]

end Element

structure SectionLine where
  element : Element
  required : Bool
  dropPriority : Nat
  deriving DecidableEq, Repr

namespace SectionLine

def kept : SectionLine := ⟨element, true, 255⟩

def droppable (dropPriority : Nat) : SectionLine :=
  ⟨element, false, dropPriority⟩

/-- An optional element with nothing but a text. -/
def plain (tag value : String) (dropPriority : Nat) : SectionLine :=
  droppable ⟨tag, [], some value⟩ dropPriority

def toLine (line : SectionLine) : ContextLine :=
  ⟨line.element.print, line.required, line.dropPriority, true⟩

theorem toLine_plain (tag value : String) (dropPriority : Nat) :
    (plain tag value dropPriority).toLine = optionalElement tag value dropPriority := by
  simp [plain, droppable, toLine, optionalElement, ContextLine.optional, Element.print,
    printAttributes]

theorem toLine_kept : (kept element).toLine = ContextLine.always element.print := rfl

theorem toLine_droppable (dropPriority : Nat) :
    (droppable element dropPriority).toLine = ContextLine.optional element.print dropPriority := rfl

end SectionLine

structure DocumentSection where
  name : String
  lines : List SectionLine
  deriving DecidableEq, Repr

def DocumentSection.toBlock (part : DocumentSection) : ContextBlock :=
  ⟨part.name, part.lines.map SectionLine.toLine⟩

open SectionLine

variable (profile : PersonaProfile)

def personaSection : DocumentSection where
  name := "persona"
  lines := plain "display_name" profile.displayName 3 ::
    if profile.authoritativeSoul = true then [plain "soul" profile.layers.soul 3]
    else
      [plain "identity" profile.layers.identity 3, plain "soul" profile.layers.soul 3,
        plain "values" profile.layers.values 3, plain "voice" profile.layers.voice 3,
        plain "companion_style" profile.layers.companionStyle 3,
        plain "work_style" profile.layers.workStyle 3,
        plain "addressing" profile.layers.addressing 3]

theorem toBlock_personaSection : (personaSection profile).toBlock = personaBlock profile := by
  unfold DocumentSection.toBlock personaSection personaBlock
  split <;> simp [toLine_plain]

def ruleElement (constraint : PersonaConstraint) : Element :=
  ⟨"rule", [("id", boundedText constraint.id 96)], some constraint.content⟩

theorem toLine_ruleElement (constraint : PersonaConstraint) :
    (droppable (ruleElement constraint) 4).toLine = ruleLine constraint := by
  have opening : "<rule id=\"" = "<" ++ ("rule" ++ (" " ++ ("id" ++ "=\""))) := rfl
  have inside : "\">" = "\"" ++ ">" := rfl
  have closing : "</rule>" = "</" ++ ("rule" ++ ">") := rfl
  unfold ruleLine
  rw [opening, inside, closing]
  simp only [toLine, droppable, ruleElement, Element.print, printAttributes, ContextLine.optional,
    String.append_assoc, String.empty_append]

def boundariesSection : DocumentSection where
  name := "boundaries"
  lines :=
    [kept ⟨"priority", [], some priorityText⟩, kept ⟨"policy", [], some policyText⟩] ++
    if profile.authoritativeSoul = true then []
    else plain "boundary" profile.layers.boundaries 4 ::
      profile.constraints.map fun constraint => droppable (ruleElement constraint) 4

theorem toBlock_boundariesSection :
    (boundariesSection profile).toBlock = boundariesBlock profile := by
  have priority : (kept ⟨"priority", [], some priorityText⟩).toLine =
      .always ("<priority>" ++ priorityText ++ "</priority>") := by
    rw [toLine_kept]
    exact congrArg ContextLine.always (Element.print_fixed escapeXml_priorityText rfl rfl)
  have policy : (kept ⟨"policy", [], some policyText⟩).toLine =
      .always ("<policy>" ++ policyText ++ "</policy>") := by
    rw [toLine_kept]
    exact congrArg ContextLine.always (Element.print_fixed escapeXml_policyText rfl rfl)
  have required : List.map toLine
      [kept ⟨"priority", [], some priorityText⟩, kept ⟨"policy", [], some policyText⟩] =
      [.always ("<priority>" ++ priorityText ++ "</priority>"),
        .always ("<policy>" ++ policyText ++ "</policy>")] := by
    rw [List.map_cons, List.map_singleton, priority, policy]
  unfold DocumentSection.toBlock boundariesSection boundariesBlock
  rw [List.map_append, required]
  split
  · rfl
  · rw [List.map_cons, toLine_plain, List.map_map, Function.comp_def,
      funext toLine_ruleElement]

def styleElement (rules : PersonaCompanionRules) : Element :=
  ⟨"style", [("warmth", rules.warmth.label), ("directness", rules.directness.label),
    ("initiative", rules.initiative.label), ("humor", rules.humor.label),
    ("emotional_attunement", rules.emotionalAttunement.label)], none⟩

theorem toLine_styleElement (rules : PersonaCompanionRules) :
    (droppable (styleElement rules) 0).toLine = styleLine rules := by
  have opening : "<style warmth=\"" = "<" ++ ("style" ++ (" " ++ ("warmth" ++ "=\""))) := rfl
  have directness : "\" directness=\"" = "\"" ++ (" " ++ ("directness" ++ "=\"")) := rfl
  have initiative : "\" initiative=\"" = "\"" ++ (" " ++ ("initiative" ++ "=\"")) := rfl
  have humor : "\" humor=\"" = "\"" ++ (" " ++ ("humor" ++ "=\"")) := rfl
  have attunement : "\" emotional_attunement=\"" =
      "\"" ++ (" " ++ ("emotional_attunement" ++ "=\"")) := rfl
  have closing : "\" />" = "\"" ++ " />" := rfl
  unfold styleLine
  rw [opening, directness, initiative, humor, attunement, closing]
  simp only [toLine, droppable, styleElement, Element.print, printAttributes, ContextLine.optional,
    escapeXml_level, String.append_assoc, String.empty_append]

def companionRulesSection : DocumentSection where
  name := "companion_rules"
  lines :=
    if profile.authoritativeSoul = true then [plain "notice" soulNotice 0]
    else
      let rules := profile.companionRules
      [plain "notice" rulesNotice 0, droppable (styleElement rules) 0] ++
      rules.soulSignature.toList.map (plain "soul_signature" · 0) ++
      rules.replyRules.map (plain "reply_rule" · 0) ++
      rules.memoryUseRules.map (plain "memory_use_rule" · 0) ++
      rules.relationshipRules.map (plain "relationship_rule" · 0) ++
      rules.forbiddenStyles.map (plain "forbidden_style" · 0)

theorem toBlock_companionRulesSection :
    (companionRulesSection profile).toBlock = companionRulesBlock profile := by
  have soul : (plain "notice" soulNotice 0).toLine =
      .optional ("<notice>" ++ soulNotice ++ "</notice>") 0 := by
    rw [plain, toLine_droppable]
    exact congrArg (ContextLine.optional · 0) (Element.print_fixed escapeXml_soulNotice rfl rfl)
  have rules : (plain "notice" rulesNotice 0).toLine =
      .optional ("<notice>" ++ rulesNotice ++ "</notice>") 0 := by
    rw [plain, toLine_droppable]
    exact congrArg (ContextLine.optional · 0) (Element.print_fixed escapeXml_rulesNotice rfl rfl)
  have elements (tag : String) :
      (SectionLine.toLine ∘ (plain tag · 0)) = (optionalElement tag · 0) :=
    funext fun value => toLine_plain tag value 0
  unfold DocumentSection.toBlock companionRulesSection companionRulesBlock
  dsimp only
  split
  · rw [List.map_singleton, soul]
  · simp only [List.map_append, List.map_cons, List.map_nil, List.map_map, rules,
      toLine_styleElement, elements]

def relationshipSection (records : List MemoryContextRecord) : DocumentSection where
  name := "relationship"
  lines :=
    kept ⟨"familiarity", [], some (familiarity records)⟩ ::
    (((records.filter fun record => isTrustNote record.kind).take 4).map fun record =>
      plain "trust_note" record.content 1) ++
    (records.find? fun record => isEmotional record.kind).toList.map fun record =>
      plain "recent_emotional_context" record.content 1

theorem toBlock_relationshipSection (records : List MemoryContextRecord) :
    (relationshipSection records).toBlock = relationshipBlock records := by
  have first : (kept ⟨"familiarity", [], some (familiarity records)⟩).toLine =
      .always ("<familiarity>" ++ familiarity records ++ "</familiarity>") := by
    rw [toLine_kept]
    exact congrArg ContextLine.always (Element.print_fixed (escapeXml_familiarity records) rfl rfl)
  unfold DocumentSection.toBlock relationshipSection relationshipBlock
  simp only [List.map_append, List.map_cons, List.map_map, first, Function.comp_def, toLine_plain]

def memoryElement (memory : MemoryContextRecord) : Element :=
  ⟨"memory", [("id", boundedText memory.id 96), ("scope", memory.scope),
    ("kind", memory.kind.storageKey)], some memory.content⟩

theorem toLine_memoryElement (memory : MemoryContextRecord) :
    (droppable (memoryElement memory) 5).toLine = memoryLine memory := by
  have opening : "<memory id=\"" = "<" ++ ("memory" ++ (" " ++ ("id" ++ "=\""))) := rfl
  have scope : "\" scope=\"" = "\"" ++ (" " ++ ("scope" ++ "=\"")) := rfl
  have kind : "\" kind=\"" = "\"" ++ (" " ++ ("kind" ++ "=\"")) := rfl
  have inside : "\">" = "\"" ++ ">" := rfl
  have closing : "</memory>" = "</" ++ ("memory" ++ ">") := rfl
  unfold memoryLine
  rw [opening, scope, kind, inside, closing]
  simp only [toLine, droppable, memoryElement, Element.print, printAttributes, ContextLine.optional,
    escapeXml_kind, String.append_assoc, String.empty_append]

def memorySection (memories : List MemoryContextRecord) : DocumentSection where
  name := name
  lines :=
    [kept ⟨"notice", [], some memoryNotice⟩, kept ⟨"policy", [], some memoryPolicy⟩] ++
    memories.map fun memory => droppable (memoryElement memory) 5

theorem toBlock_memorySection (memories : List MemoryContextRecord) :
    (memorySection name memories).toBlock = memoryBlock name memories := by
  have notice : (kept ⟨"notice", [], some memoryNotice⟩).toLine =
      .always ("<notice>" ++ memoryNotice ++ "</notice>") := by
    rw [toLine_kept]
    exact congrArg ContextLine.always (Element.print_fixed escapeXml_memoryNotice rfl rfl)
  have policy : (kept ⟨"policy", [], some memoryPolicy⟩).toLine =
      .always ("<policy>" ++ memoryPolicy ++ "</policy>") := by
    rw [toLine_kept]
    exact congrArg ContextLine.always (Element.print_fixed escapeXml_memoryPolicy rfl rfl)
  unfold DocumentSection.toBlock memorySection memoryBlock
  simp only [List.map_append, List.map_cons, List.map_nil, List.map_map, notice, policy,
    Function.comp_def, toLine_memoryElement]

/-- The mark of a section that lost a line. -/
def truncation : Element := ⟨"truncated", [("section", name)], none⟩

/-- A section without the lines that are gone. -/
def DocumentSection.pieces (part : DocumentSection) (gone : Nat → Bool) : List Piece :=
  [⟨tagOf part.name [] "", ['\n']⟩] ++
  ((part.lines.zipIdx.filter fun line => !gone line.2).flatMap fun line =>
    line.1.element.pieces) ++
  (if part.lines.zipIdx.any fun line => gone line.2 then (truncation part.name).pieces else []) ++
  [⟨tagOf ("/" ++ part.name) [] "", ['\n']⟩]

def document (parts : List DocumentSection)
    (gone : Nat → Nat → Bool) : List Piece :=
  [⟨tagOf "yunxi_persona_context" attributes "", ['\n']⟩] ++
  (parts.zipIdx.flatMap fun part => part.1.pieces (gone part.2)) ++
  [⟨tagOf "/yunxi_persona_context" [] "", []⟩]

/-- Lines with their ends. -/
def printLines (lines : List String) : List Char := lines.flatMap fun line => line.toList ++ ['\n']

theorem toList_intercalate_append (lines : List String) (last : String) :
    ("\n".intercalate (lines ++ [last])).toList = printLines lines ++ last.toList := by
  induction lines with
  | nil => rfl
  | cons line rest ih =>
      have filled : rest ++ [last] ≠ [] := by simp
      rw [List.cons_append, String.intercalate_cons_of_ne_nil filled, String.toList_append,
        String.toList_append, ih]
      simp [printLines]

theorem toList_render (rootOpen rootClose : String) (blocks : List ContextBlock) :
    (render rootOpen rootClose blocks).toList =
      rootOpen.toList ++ '\n' :: printLines (blocks.flatMap ContextBlock.render) ++
        rootClose.toList := by
  rw [render, toList_intercalate_append]
  simp [printLines]

theorem printLines_append (first second : List String) :
    printLines (first ++ second) = printLines first ++ printLines second :=
  List.flatMap_append

theorem print_append (first second : List Piece) :
    Markup.print (first ++ second) = Markup.print first ++ Markup.print second :=
  List.flatMap_append

theorem print_lineTag :
    Markup.print [⟨tagOf name [] "", ['\n']⟩] = ("<" ++ name ++ ">").toList ++ ['\n'] := by
  simp [Markup.print, Piece.print, Piece.body, print_tagOf, printAttributes, Markup.escape,
    Markup.escapeCharacter]

theorem print_truncated {name : String} (named : escapeXml name = name) :
    (truncation name).print =
      "<truncated section=\"" ++ name ++ "\" />" := by
  have opening : "<truncated section=\"" =
      "<" ++ ("truncated" ++ (" " ++ ("section" ++ "=\""))) := rfl
  have closing : "\" />" = "\"" ++ " />" := rfl
  rw [opening, closing]
  simp only [truncation, Element.print, printAttributes, named, String.append_assoc,
    String.empty_append]

variable {part : DocumentSection}

/-- A section is printed as the renderer writes its block. -/
theorem print_pieces (named : escapeXml part.name = part.name)
    (gone : Nat → Bool) :
    Markup.print (part.pieces gone) = printLines (part.toBlock.mark gone).render := by
  have lines : (part.toBlock.mark gone).lines =
      part.lines.zipIdx.map fun line => { line.1.toLine with included := !gone line.2 } := by
    unfold ContextBlock.mark DocumentSection.toBlock
    dsimp only
    rw [List.mapIdx_eq_zipIdx_map, List.zipIdx_map, List.map_map]
    rfl
  have elements : Markup.print
      ((part.lines.zipIdx.filter fun line => !gone line.2).flatMap fun line =>
        line.1.element.pieces) =
      printLines (((part.toBlock.mark gone).lines.filter (·.included)).map (·.content)) := by
    rw [lines, List.filter_map, List.map_map, Markup.print, printLines, List.flatMap_assoc,
      List.flatMap_map]
    congr 1
    funext line
    exact line.1.element.print_pieces
  have truncated : ((part.toBlock.mark gone).lines.any fun line => !line.included) =
      part.lines.zipIdx.any fun line => gone line.2 := by
    rw [lines, List.any_map]
    congr 1
    funext line
    exact Bool.not_not _
  have marker (holds : Bool) : Markup.print
      (if holds then (truncation part.name).pieces else []) =
      printLines (if holds then ["<truncated section=\"" ++ part.name ++ "\" />"] else []) := by
    cases holds with
    | false => rfl
    | true =>
        rw [if_pos rfl, if_pos rfl, Element.print_pieces, print_truncated named]
        exact (List.flatMap_singleton ..).symm
  have closing : "</" ++ part.name ++ ">" = "<" ++ ("/" ++ part.name) ++ ">" := by
    rw [← String.append_assoc]
    rfl
  have name : (part.toBlock.mark gone).name = part.name := rfl
  unfold DocumentSection.pieces ContextBlock.render
  rw [print_append, print_append, print_append, print_lineTag, print_lineTag, elements, marker,
    truncated, name, closing, printLines_append, printLines_append, printLines_append]
  simp only [printLines, List.flatMap_singleton]

variable {attributes : List (String × String)} {parts : List DocumentSection}

/-- The text of the renderer is the printed document. -/
theorem toList_render_mark
    (named : ∀ part ∈ parts, escapeXml part.name = part.name) (gone : Nat → Nat → Bool) :
    (render ("<yunxi_persona_context" ++ printAttributes attributes ++ ">")
      "</yunxi_persona_context>" (mark (parts.map DocumentSection.toBlock) gone)).toList =
      Markup.print (document attributes parts gone) := by
  have blocks : mark (parts.map DocumentSection.toBlock) gone =
      parts.zipIdx.map fun part => part.1.toBlock.mark (gone part.2) := by
    unfold mark
    rw [List.mapIdx_eq_zipIdx_map, List.zipIdx_map, List.map_map]
    rfl
  have sections : Markup.print (parts.zipIdx.flatMap fun part => part.1.pieces (gone part.2)) =
      printLines ((mark (parts.map DocumentSection.toBlock) gone).flatMap ContextBlock.render) := by
    rw [blocks, Markup.print, printLines, List.flatMap_assoc, List.flatMap_assoc, List.flatMap_map]
    refine List.flatMap_congr fun part among => ?_
    exact print_pieces (named part.1 (List.fst_mem_of_mem_zipIdx among)) (gone part.2)
  unfold document
  rw [toList_render, print_append, print_append, sections]
  simp [Markup.print, Piece.print, Piece.body, print_tagOf, printAttributes, Markup.escape,
    Markup.escapeCharacter]

/-- A name that can stand in a tag. -/
def PlainName : Prop :=
  (name.toList.all fun character => !Markup.isMarkup character) = true

instance (name : String) : Decidable (PlainName name) := inferInstanceAs (Decidable (_ = _))

theorem PlainName.not_isMarkup {name : String} (plain : PlainName name) :
    ∀ character ∈ name.toList, Markup.isMarkup character = false := fun character among => by
  simpa using List.all_eq_true.mp plain character among

theorem PlainName.append {first second : String} (plainFirst : PlainName first)
    (plainSecond : PlainName second) : PlainName (first ++ second) := by
  unfold PlainName at *
  rw [String.toList_append, List.all_append, plainFirst, plainSecond]
  rfl

section Tags

variable {name ending : String} {attributes : List (String × String)}

theorem plainName_lead (plainAttributes : ∀ named ∈ attributes, PlainName named.1)
    (plainEnding : PlainName ending) : PlainName (lead attributes ending) := by
  cases attributes with
  | nil => exact plainEnding
  | cons first rest =>
      have plainFirst := plainAttributes first List.mem_cons_self
      exact (PlainName.append (by decide) plainFirst).append (by decide)

theorem plain_attributeValues (plainAttributes : ∀ named ∈ attributes, PlainName named.1)
    (plainEnding : PlainName ending) :
    ∀ value ∈ attributeValues attributes ending, ∀ character ∈ value.2,
      Markup.isMarkup character = false := by
  induction attributes with
  | nil => exact List.forall_mem_nil _
  | cons first rest ih =>
      obtain ⟨-, plainRest⟩ := List.forall_mem_cons.mp plainAttributes
      exact List.forall_mem_cons.mpr
        ⟨(plainName_lead plainRest plainEnding).not_isMarkup, ih plainRest⟩

theorem plain_tagOf (plainName : PlainName name)
    (plainAttributes : ∀ named ∈ attributes, PlainName named.1) (plainEnding : PlainName ending) :
    (tagOf name attributes ending).Plain :=
  ⟨(plainName.append (plainName_lead plainAttributes plainEnding)).not_isMarkup,
    plain_attributeValues plainAttributes plainEnding⟩

end Tags

/-- Names of an element that can stand in a tag, and are not those of a truncation. -/
structure Element.Plain : Prop where
  name : PlainName element.name
  attributes : ∀ named ∈ element.attributes, PlainName named.1
  notTruncation : element.text = none → element.attributes.length ≠ 1

/-- The names of an element, and of a truncation. -/
theorem plain_pieces {element : Element} (plainName : PlainName element.name)
    (plainAttributes : ∀ named ∈ element.attributes, PlainName named.1) :
    ∀ piece ∈ element.pieces, piece.tag.Plain := by
  unfold Element.pieces
  split
  · exact List.forall_mem_singleton.mpr (plain_tagOf plainName plainAttributes (by decide))
  · exact List.forall_mem_cons.mpr ⟨plain_tagOf plainName plainAttributes (by decide),
      List.forall_mem_singleton.mpr
        (plain_tagOf (PlainName.append (by decide) plainName) (List.forall_mem_nil _) (by decide))⟩

structure DocumentSection.Plain (part : DocumentSection) : Prop where
  name : PlainName part.name
  escaped : escapeXml part.name = part.name
  elements : ∀ line ∈ part.lines, line.element.Plain

theorem DocumentSection.Plain.pieces (plain : part.Plain)
    (gone : Nat → Bool) : ∀ piece ∈ part.pieces gone, piece.tag.Plain := by
  unfold DocumentSection.pieces
  simp only [List.forall_mem_append, List.forall_mem_singleton]
  refine ⟨⟨⟨plain_tagOf plain.name (List.forall_mem_nil _) (by decide), ?_⟩, ?_⟩,
    plain_tagOf (PlainName.append (by decide) plain.name) (List.forall_mem_nil _) (by decide)⟩
  · intro piece among
    obtain ⟨line, isLine, inside⟩ := List.mem_flatMap.mp among
    have isOriginal := List.fst_mem_of_mem_zipIdx (List.mem_of_mem_filter isLine)
    have plainElement := plain.elements line.1 isOriginal
    exact plain_pieces plainElement.name plainElement.attributes piece inside
  · split
    · exact plain_pieces (show PlainName "truncated" by decide)
        (List.forall_mem_singleton.mpr (show PlainName "section" by decide))
    · exact List.forall_mem_nil _

theorem plain_document (plainAttributes : ∀ named ∈ attributes, PlainName named.1)
    (plainParts : ∀ part ∈ parts, part.Plain) (gone : Nat → Nat → Bool) :
    ∀ piece ∈ document attributes parts gone, piece.tag.Plain := by
  unfold document
  simp only [List.forall_mem_append, List.forall_mem_singleton]
  refine ⟨⟨plain_tagOf (by decide) plainAttributes (by decide), ?_⟩,
    plain_tagOf (by decide) (List.forall_mem_nil _) (by decide)⟩
  intro piece among
  obtain ⟨part, isPart, inside⟩ := List.mem_flatMap.mp among
  exact (plainParts part.1 (List.fst_mem_of_mem_zipIdx isPart)).pieces _ piece inside

theorem attributeValues_ne (attributes : List (String × String)) (value : List Char) :
    attributeValues attributes "" ≠ [(value, " /".toList)] := by
  cases attributes with
  | nil => exact (List.cons_ne_nil _ _).symm
  | cons first rest =>
      cases rest with
      | nil =>
          intro same
          have ending : "".toList = " /".toList := congrArg Prod.snd (List.cons.inj same).1
          exact absurd ending (by decide)
      | cons second rest => exact fun same => absurd (List.cons.inj same).2 (List.cons_ne_nil _ _)

theorem length_attributeValues (attributes : List (String × String)) (ending : String) :
    (attributeValues attributes ending).length = attributes.length := by
  induction attributes with
  | nil => rfl
  | cons first rest ih => exact congrArg Nat.succ ih

/-- The piece of a truncation. -/
def truncationPiece : Piece :=
  ⟨tagOf "truncated" [("section", name)] " /", ['\n']⟩

theorem Element.Plain.truncationPiece_notMem {element : Element} (plain : element.Plain)
    (name : String) : truncationPiece name ∉ element.pieces := by
  have textTag (opening : String) (attributes : List (String × String)) (text : List Char) :
      truncationPiece name ≠ ⟨tagOf opening attributes "", text⟩ := fun same =>
    attributeValues_ne attributes _ (congrArg (·.tag.values) same).symm
  unfold Element.pieces
  cases isText : element.text with
  | none =>
      rw [List.mem_singleton]
      intro same
      have count := congrArg (·.tag.values.length) same
      dsimp only [truncationPiece, tagOf] at count
      rw [length_attributeValues, length_attributeValues] at count
      exact plain.notTruncation isText count.symm
  | some text =>
      rw [List.mem_cons, List.mem_singleton, not_or]
      exact ⟨textTag _ _ _, textTag _ _ _⟩

/-- A section is marked just when one of its lines is gone. -/
theorem DocumentSection.Plain.truncationPiece_mem_iff (plain : part.Plain)
    (gone : Nat → Bool) :
    truncationPiece part.name ∈ part.pieces gone ↔ ∃ line ∈ part.lines.zipIdx, gone line.2 = true := by
  have textTag (opening : String) :
      truncationPiece part.name ≠ ⟨tagOf opening [] "", ['\n']⟩ := fun same =>
    attributeValues_ne [] _ (congrArg (·.tag.values) same).symm
  unfold DocumentSection.pieces
  rw [← List.any_eq_true]
  constructor
  · intro among
    simp only [List.mem_append, List.mem_singleton] at among
    rcases among with ((opening | inside) | marker) | closing
    · exact absurd opening (textTag _)
    · obtain ⟨line, isLine, among⟩ := List.mem_flatMap.mp inside
      have isOriginal := List.fst_mem_of_mem_zipIdx (List.mem_of_mem_filter isLine)
      exact absurd among ((plain.elements line.1 isOriginal).truncationPiece_notMem _)
    · by_contra notAny
      rw [if_neg notAny] at marker
      exact List.not_mem_nil marker
    · exact absurd closing (textTag _)
  · intro any
    rw [if_pos any]
    simp [truncation, Element.pieces, truncationPiece]

/-- A reader of markup finds the document in the text. -/
theorem read_render_mark (plainAttributes : ∀ named ∈ attributes, PlainName named.1)
    (plainParts : ∀ part ∈ parts, part.Plain) (gone : Nat → Nat → Bool) :
    Markup.read (render ("<yunxi_persona_context" ++ printAttributes attributes ++ ">")
      "</yunxi_persona_context>" (mark (parts.map DocumentSection.toBlock) gone)).toList =
      some (document attributes parts gone) := by
  rw [toList_render_mark (fun part among => (plainParts part among).escaped) gone]
  exact Markup.read_print (plain_document plainAttributes plainParts gone)

theorem plain_text_iff (tag value : String) :
    Element.Plain ⟨tag, [], some value⟩ ↔ PlainName tag :=
  ⟨Element.Plain.name, fun plainTag =>
    ⟨plainTag, List.forall_mem_nil _, fun none => absurd none (Option.some_ne_none _)⟩⟩

theorem plain_plain_iff (tag value : String) (dropPriority : Nat) :
    (plain tag value dropPriority).element.Plain ↔ PlainName tag :=
  plain_text_iff tag value

theorem plain_kept_iff (tag value : String) :
    (kept ⟨tag, [], some value⟩).element.Plain ↔ PlainName tag :=
  plain_text_iff tag value

theorem plain_map_plain {tag : String} (plainTag : PlainName tag) (values : List String)
    (dropPriority : Nat) :
    ∀ line ∈ values.map (plain tag · dropPriority), line.element.Plain :=
  List.forall_mem_map.mpr fun value _ => (plain_plain_iff tag value dropPriority).mpr plainTag

theorem plain_ruleElement (constraint : PersonaConstraint) : (ruleElement constraint).Plain :=
  ⟨show PlainName "rule" by decide,
    List.forall_mem_singleton.mpr (show PlainName "id" by decide),
    fun none => absurd none (Option.some_ne_none _)⟩

theorem plain_styleElement (rules : PersonaCompanionRules) : (styleElement rules).Plain := by
  refine ⟨show PlainName "style" by decide, ?_, fun _ single => ?_⟩
  · simp only [styleElement, List.forall_mem_cons, List.not_mem_nil, false_implies, implies_true,
      and_true]
    decide
  · have five : (styleElement rules).attributes.length = 5 := rfl
    rw [five] at single
    omega

theorem plain_memoryElement (memory : MemoryContextRecord) : (memoryElement memory).Plain := by
  refine ⟨show PlainName "memory" by decide, ?_,
    fun none => absurd none (Option.some_ne_none _)⟩
  simp only [memoryElement, List.forall_mem_cons, List.not_mem_nil, false_implies, implies_true,
    and_true]
  decide

theorem plain_personaSection : (personaSection profile).Plain where
  name := show PlainName "persona" by decide
  escaped := escapeXml_ofList (by decide)
  elements := by
    unfold personaSection
    dsimp only
    split
    all_goals simp only [List.forall_mem_cons, plain_plain_iff, List.not_mem_nil,
      false_implies, implies_true, and_true]
    all_goals decide

theorem plain_boundariesSection : (boundariesSection profile).Plain where
  name := show PlainName "boundaries" by decide
  escaped := escapeXml_ofList (by decide)
  elements := by
    have required : ∀ line ∈ [kept ⟨"priority", [], some priorityText⟩,
        kept ⟨"policy", [], some policyText⟩], line.element.Plain := by
      simp only [List.forall_mem_cons, plain_kept_iff, List.not_mem_nil, false_implies,
        implies_true, and_true]
      decide
    refine List.forall_mem_append.mpr ⟨required, ?_⟩
    split
    · exact List.forall_mem_nil _
    · refine List.forall_mem_cons.mpr ⟨(plain_plain_iff ..).mpr (by decide), ?_⟩
      exact List.forall_mem_map.mpr fun constraint _ => plain_ruleElement constraint

theorem plain_companionRulesSection : (companionRulesSection profile).Plain where
  name := show PlainName "companion_rules" by decide
  escaped := escapeXml_ofList (by decide)
  elements := by
    unfold companionRulesSection
    dsimp only
    split
    · exact List.forall_mem_singleton.mpr ((plain_plain_iff ..).mpr (by decide))
    · have first : ∀ line ∈ [plain "notice" rulesNotice 0,
          droppable (styleElement profile.companionRules) 0], line.element.Plain :=
        List.forall_mem_cons.mpr ⟨(plain_plain_iff ..).mpr (by decide),
          List.forall_mem_singleton.mpr (plain_styleElement _)⟩
      simp only [List.forall_mem_append]
      exact ⟨⟨⟨⟨⟨first, plain_map_plain (by decide) _ _⟩, plain_map_plain (by decide) _ _⟩,
        plain_map_plain (by decide) _ _⟩, plain_map_plain (by decide) _ _⟩,
        plain_map_plain (by decide) _ _⟩

theorem plain_relationshipSection (records : List MemoryContextRecord) :
    (relationshipSection records).Plain where
  name := show PlainName "relationship" by decide
  escaped := escapeXml_ofList (by decide)
  elements := by
    refine List.forall_mem_append.mpr ⟨List.forall_mem_cons.mpr
      ⟨(plain_kept_iff ..).mpr (by decide), ?_⟩, ?_⟩
    · exact List.forall_mem_map.mpr fun record _ => (plain_plain_iff ..).mpr (by decide)
    · exact List.forall_mem_map.mpr fun record _ => (plain_plain_iff ..).mpr (by decide)

theorem plain_memorySection {name : String} (plainName : PlainName name)
    (escaped : escapeXml name = name) (memories : List MemoryContextRecord) :
    (memorySection name memories).Plain where
  name := plainName
  escaped := escaped
  elements := by
    have required : ∀ line ∈ [kept ⟨"notice", [], some memoryNotice⟩,
        kept ⟨"policy", [], some memoryPolicy⟩], line.element.Plain := by
      simp only [List.forall_mem_cons, plain_kept_iff, List.not_mem_nil, false_implies,
        implies_true, and_true]
      decide
    exact List.forall_mem_append.mpr
      ⟨required, List.forall_mem_map.mpr fun memory _ => plain_memoryElement memory⟩

end Persona
end YunXi
