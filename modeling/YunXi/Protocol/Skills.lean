import YunXi.Program.Checked
import YunXi.Protocol.Authority
import YunXi.Protocol.Serde

/-!
# Skills and their results

What is known of a skill, the tools it declares, and the answers of the skills plugin.  Each of
them is checked when it is built: identifiers are short and of lower case, other texts are bounded
and without control characters, and nothing repeats.
-/

namespace YunXi
namespace Protocol

open Value (StructShape)

def maxSkillIdBytes : Nat := 96
def maxSkillNameBytes : Nat := 128
def maxSkillDescriptionBytes : Nat := 2 * 1024
def maxSkillPathBytes : Nat := 512
def maxSkillInstructionBytes : Nat := 32 * 1024
def maxSkillContextBytes : Nat := 128 * 1024
def maxSkillMetadata : Nat := 64
def maxSkillToolDeclarations : Nat := 64
def maxSkillToolNameBytes : Nat := 64
def maxSkillToolDescriptionBytes : Nat := 1024
def maxSkillToolSchemaBytes : Nat := 32 * 1024
def maxSkillStatusErrorBytes : Nat := 2 * 1024
def maxSkillWarnings : Nat := 32
def maxSkillWarningBytes : Nat := 1024

inductive SkillProtocolError
  | emptyField (field : String)
  | textTooLarge (field : String) (size maximum : Nat)
  | controlCharacter (field : String)
  | invalidIdentifier (field value : String)
  | invalidRelativePath (value : String)
  | instructionTooLarge (size maximum : Nat)
  | contextTooLarge (size maximum : Nat)
  | schemaMustBeObject
  | schemaTooLarge (size maximum : Nat)
  | executableMetadata (field : String)
  | tooManySkills (count maximum : Nat)
  | tooManyTools (count maximum : Nat)
  | tooManyWarnings (count maximum : Nat)
  | duplicateSkill (id : String)
  | duplicateTool (name : String)
  deriving DecidableEq, Repr

/-- `fmt::Display for SkillProtocolError`. -/
def SkillProtocolError.display : SkillProtocolError → String
  | emptyField field => field ++ " cannot be empty"
  | textTooLarge field size maximum =>
      field ++ " is " ++ toString size ++ " bytes; maximum is " ++ toString maximum
  | controlCharacter field => field ++ " contains a control character"
  | invalidIdentifier field value =>
      field ++ " `" ++ value ++ "` is not a stable lowercase identifier"
  | invalidRelativePath value =>
      "Skill relative path `" ++ value ++ "` is outside the allowed form"
  | instructionTooLarge size maximum =>
      "Skill instruction body is " ++ toString size ++ " bytes; maximum is " ++ toString maximum
  | contextTooLarge size maximum =>
      "Skill context is " ++ toString size ++ " bytes; maximum is " ++ toString maximum
  | schemaMustBeObject => "Skill input schema must be a JSON object"
  | schemaTooLarge size maximum =>
      "Skill input schema is " ++ toString size ++ " bytes; maximum is " ++ toString maximum
  | executableMetadata field =>
      "Skill tool metadata cannot contain executable field `" ++ field ++ "`"
  | tooManySkills count maximum =>
      "Skill list has " ++ toString count ++ " entries; maximum is " ++ toString maximum
  | tooManyTools count maximum =>
      "Skill tool declarations have " ++ toString count ++ " entries; maximum is " ++
        toString maximum
  | tooManyWarnings count maximum =>
      "Skill response has " ++ toString count ++ " warnings; maximum is " ++ toString maximum
  | duplicateSkill id => "Skill id `" ++ id ++ "` is duplicated"
  | duplicateTool name => "Skill tool `" ++ name ++ "` is duplicated"

/-- `validate_text`. -/
def validateSkillText (field value : String) (maximum : Nat) (allowEmpty : Bool) :
    Except SkillProtocolError Unit := do
  refuseIf (allowEmpty = false ∧ isBlank value = true) (.emptyField field)
  refuseIf (value.utf8ByteSize > maximum) (.textTooLarge field value.utf8ByteSize maximum)
  refuseIf (value.toList.any isControlCharacter = true) (.controlCharacter field)

/-- Control characters that no text of several lines has. -/
def isRefusedInLines (character : Char) : Bool :=
  isControlCharacter character && character != '\n' && character != '\r' && character != '\t'

/-- `validate_multiline_text`. -/
def validateMultilineText (field value : String) (maximum : Nat) (allowEmpty : Bool) :
    Except SkillProtocolError Unit := do
  refuseIf (allowEmpty = false ∧ isBlank value = true) (.emptyField field)
  refuseIf (value.utf8ByteSize > maximum) (.textTooLarge field value.utf8ByteSize maximum)
  refuseIf (value.toList.any isRefusedInLines = true) (.controlCharacter field)

def identifierCharacter (character : Char) : Bool :=
  isAsciiLowercase character || isAsciiDigit character || character == '-' || character == '_'

/-- `validate_identifier`. -/
def validateIdentifier (field value : String) (maximum : Nat) :
    Except SkillProtocolError Unit := do
  validateSkillText field value maximum false
  refuseIf (value.toList.head?.any isAsciiLowercase = false) (.invalidIdentifier field value)
  refuseIf (value.toList.getLast? = some '-' ∨ value.toList.getLast? = some '_')
    (.invalidIdentifier field value)
  refuseIf (value.toList.all identifierCharacter = false) (.invalidIdentifier field value)

/-- `validate_relative_path`. -/
def validateSkillPath (value : String) : Except SkillProtocolError Unit := do
  validateSkillText "Skill relative path" value maxSkillPathBytes false
  refuseIf (value.toList.head? = some '/' ∨ '\\' ∈ value.toList ∨ ':' ∈ value.toList)
    (.invalidRelativePath value)
  refuseIf (∃ segment ∈ value.toList.splitOn '/', segment = [] ∨ segment = ['.'] ∨
    segment = ['.', '.']) (.invalidRelativePath value)

/-- Members of a schema that would make it executable. -/
def isExecutableKey (key : String) : Bool :=
  ["command", "commands", "executable", "program", "shell", "env", "environment", "network",
    "provider_credential"].contains key ||
      Strings.startsWith "x-yunxi" key || Strings.startsWith "x_yunxi" key

/-- `reject_executable_metadata`. -/
def rejectExecutableMetadata (value : Value) : Except SkillProtocolError Unit :=
  match value.asObject.bind (List.find? fun member => isExecutableKey member.1) with
  | some member => .error (.executableMetadata member.1)
  | none => .ok ()

/-- `SkillToolDescriptor::validate`. -/
def validateSkillTool (name description : String) (inputSchema : Value) :
    Except SkillProtocolError Unit := do
  validateIdentifier "Skill tool name" name maxSkillToolNameBytes
  validateSkillText "Skill tool description" description maxSkillToolDescriptionBytes true
  refuseIf (inputSchema.isObject = false) .schemaMustBeObject
  refuseIf (inputSchema.encodedSize > maxSkillToolSchemaBytes)
    (.schemaTooLarge inputSchema.encodedSize maxSkillToolSchemaBytes)
  rejectExecutableMetadata inputSchema

structure SkillToolDescriptor where
  name : String
  description : String
  inputSchema : Value
  valid : validateSkillTool name description inputSchema = .ok ()

namespace SkillToolDescriptor

def new (name description : String) (inputSchema : Value) :
    Except SkillProtocolError SkillToolDescriptor :=
  construct (validateSkillTool name description inputSchema) fun valid =>
    ⟨name, description, inputSchema, valid⟩

/-- `WireDescriptor`. -/
def shape : StructShape := ⟨["name", "description", "input_schema"], 3, true⟩

/-- A descriptor that is read also passes its check. -/
def fromJson (value : Value) : Option SkillToolDescriptor := do
  let field ← value.fields shape
  let name ← (field "name").bind Value.asStr
  let description ← (field "description").elim (some "") Value.asStr
  let inputSchema ← field "input_schema"
  (SkillToolDescriptor.new name description inputSchema).toOption

end SkillToolDescriptor

/-- Refuse the first name that repeats. -/
def validateToolNames : List String → List SkillToolDescriptor → Except SkillProtocolError Unit
  | _, [] => .ok ()
  | seen, tool :: rest => do
      refuseIf (tool.name ∈ seen) (.duplicateTool tool.name)
      validateToolNames (tool.name :: seen) rest

/-- `SkillMetadata::validate`; every tool passes its own check. -/
def validateSkill (id name description relativePath : String) (instructionBytes : Nat)
    (tools : List SkillToolDescriptor) : Except SkillProtocolError Unit := do
  validateIdentifier "Skill id" id maxSkillIdBytes
  validateSkillText "Skill name" name maxSkillNameBytes false
  validateSkillText "Skill description" description maxSkillDescriptionBytes true
  validateSkillPath relativePath
  refuseIf (instructionBytes > maxSkillInstructionBytes)
    (.instructionTooLarge instructionBytes maxSkillInstructionBytes)
  refuseIf (tools.length > maxSkillToolDeclarations)
    (.tooManyTools tools.length maxSkillToolDeclarations)
  validateToolNames [] tools

structure SkillMetadata where
  id : String
  name : String
  description : String
  relativePath : String
  instructionBytes : Nat
  tools : List SkillToolDescriptor
  valid : validateSkill id name description relativePath instructionBytes tools = .ok ()

def SkillMetadata.new (id name description relativePath : String) (instructionBytes : Nat)
    (tools : List SkillToolDescriptor) : Except SkillProtocolError SkillMetadata :=
  construct (validateSkill id name description relativePath instructionBytes tools) fun valid =>
    ⟨id, name, description, relativePath, instructionBytes, tools, valid⟩

/-- Add the tools of a skill to the tools that were declared, and refuse one that was. -/
def insertTools (id : String) :
    List String → List SkillToolDescriptor → Except SkillProtocolError (List String)
  | tools, [] => .ok tools
  | tools, tool :: rest => do
      refuseIf (id ++ "." ++ tool.name ∈ tools) (.duplicateTool (id ++ "." ++ tool.name))
      insertTools id ((id ++ "." ++ tool.name) :: tools) rest

/-- The loop of `validate_metadata`; every skill passes its own check. -/
def validateEachSkill :
    List String → List String → List SkillMetadata → Except SkillProtocolError (List String)
  | _, tools, [] => .ok tools
  | ids, tools, skill :: rest => do
      refuseIf (skill.id ∈ ids) (.duplicateSkill skill.id)
      let tools ← insertTools skill.id tools skill.tools
      validateEachSkill (skill.id :: ids) tools rest

/-- `validate_metadata`. -/
def validateMetadata (skills : List SkillMetadata) : Except SkillProtocolError Unit := do
  refuseIf (skills.length > maxSkillMetadata) (.tooManySkills skills.length maxSkillMetadata)
  let tools ← validateEachSkill [] [] skills
  refuseIf (tools.length > maxSkillToolDeclarations)
    (.tooManyTools tools.length maxSkillToolDeclarations)

/-- `validate_warnings`. -/
def validateWarnings (warnings : List String) : Except SkillProtocolError Unit := do
  refuseIf (warnings.length > maxSkillWarnings) (.tooManyWarnings warnings.length maxSkillWarnings)
  checkAll (validateSkillText "Skill warning" · maxSkillWarningBytes false) warnings

/-- `SkillListResult::validate`. -/
def validateSkillList (root : String) (skills : List SkillMetadata) (warnings : List String) :
    Except SkillProtocolError Unit := do
  validateSkillText "Skill root" root maxSkillPathBytes false
  validateMetadata skills
  validateWarnings warnings

structure SkillListResult where
  root : String
  skills : List SkillMetadata
  warnings : List String
  truncated : Bool
  valid : validateSkillList root skills warnings = .ok ()

def SkillListResult.new (root : String) (skills : List SkillMetadata) (warnings : List String)
    (truncated : Bool) : Except SkillProtocolError SkillListResult :=
  construct (validateSkillList root skills warnings) fun valid =>
    ⟨root, skills, warnings, truncated, valid⟩

/-- The loop of `SkillContextRequest::validate`. -/
def validateSkillIds : List String → List String → Except SkillProtocolError Unit
  | _, [] => .ok ()
  | seen, id :: rest => do
      validateIdentifier "Skill id" id maxSkillIdBytes
      refuseIf (id ∈ seen) (.duplicateSkill id)
      validateSkillIds (id :: seen) rest

/-- `SkillContextRequest::validate`. -/
def validateContextRequest (skillIds : List String) : Except SkillProtocolError Unit := do
  refuseIf (skillIds.length > maxSkillMetadata) (.tooManySkills skillIds.length maxSkillMetadata)
  validateSkillIds [] skillIds

structure SkillContextRequest where
  skillIds : List String
  valid : validateContextRequest skillIds = .ok ()

/-- `SkillContextBlock::validate`. -/
def validateContextBlock (skillId instructions : String) : Except SkillProtocolError Unit := do
  validateIdentifier "Skill id" skillId maxSkillIdBytes
  validateMultilineText "Skill instructions" instructions maxSkillInstructionBytes true

structure SkillContextBlock where
  skillId : String
  instructions : String
  valid : validateContextBlock skillId instructions = .ok ()

def SkillContextBlock.new (skillId instructions : String) :
    Except SkillProtocolError SkillContextBlock :=
  construct (validateContextBlock skillId instructions) fun valid => ⟨skillId, instructions, valid⟩

/-- The loop of `SkillContextResult::validate`, with the size of the instructions; every block
passes its own check. -/
def validateBlocks : List String → Nat → List SkillContextBlock → Except SkillProtocolError Nat
  | _, total, [] => .ok total
  | seen, total, block :: rest => do
      refuseIf (block.skillId ∈ seen) (.duplicateSkill block.skillId)
      validateBlocks (block.skillId :: seen) (total + block.instructions.utf8ByteSize) rest

/-- `SkillContextResult::validate`. -/
def validateContextResult (blocks : List SkillContextBlock) (warnings : List String) :
    Except SkillProtocolError Unit := do
  let total ← validateBlocks [] 0 blocks
  refuseIf (total > maxSkillContextBytes) (.contextTooLarge total maxSkillContextBytes)
  validateWarnings warnings

structure SkillContextResult where
  blocks : List SkillContextBlock
  warnings : List String
  truncated : Bool
  valid : validateContextResult blocks warnings = .ok ()

def SkillContextResult.new (blocks : List SkillContextBlock) (warnings : List String)
    (truncated : Bool) : Except SkillProtocolError SkillContextResult :=
  construct (validateContextResult blocks warnings) fun valid =>
    ⟨blocks, warnings, truncated, valid⟩

inductive SkillRuntimeState
  | ready
  | failed
  | stopped
  deriving DecidableEq, Repr

/-- `SkillStatusResult::validate`. -/
def validateSkillStatus (root : String) (skillCount toolCount : Nat) (lastError : Option String) :
    Except SkillProtocolError Unit := do
  validateSkillText "Skill root" root maxSkillPathBytes false
  refuseIf (skillCount > maxSkillMetadata) (.tooManySkills skillCount maxSkillMetadata)
  refuseIf (toolCount > maxSkillToolDeclarations) (.tooManyTools toolCount maxSkillToolDeclarations)
  lastError.elim (.ok ()) (validateSkillText "Skill status error" · maxSkillStatusErrorBytes true)

structure SkillStatusResult where
  root : String
  state : SkillRuntimeState
  skillCount : Nat
  toolCount : Nat
  lastError : Option String
  valid : validateSkillStatus root skillCount toolCount lastError = .ok ()

def SkillStatusResult.new (root : String) (state : SkillRuntimeState) (skillCount toolCount : Nat)
    (lastError : Option String) : Except SkillProtocolError SkillStatusResult :=
  construct (validateSkillStatus root skillCount toolCount lastError) fun valid =>
    ⟨root, state, skillCount, toolCount, lastError, valid⟩

theorem validateSkillText_eq_ok {field value : String} {maximum : Nat} {allowEmpty : Bool} :
    validateSkillText field value maximum allowEmpty = .ok () ↔
      (allowEmpty = true ∨ isBlank value = false) ∧ value.utf8ByteSize ≤ maximum ∧
        value.toList.any isControlCharacter = false := by
  unfold validateSkillText
  rw [Except.check_bind_eq_ok, Except.check_bind_eq_ok, refuseIf_eq_ok, refuseIf_eq_ok,
    refuseIf_eq_ok, not_lt, Bool.not_eq_true, not_and_or, Bool.not_eq_false, Bool.not_eq_true]

/-- What is known of an identifier. -/
structure IsIdentifier (value : String) (maximum : Nat) : Prop where
  said : isBlank value = false
  short : value.utf8ByteSize ≤ maximum
  characters : value.toList.all identifierCharacter = true

theorem isIdentifier_of_validate {field value : String} {maximum : Nat}
    (valid : validateIdentifier field value maximum = .ok ()) : IsIdentifier value maximum := by
  unfold validateIdentifier at valid
  rw [Except.check_bind_eq_ok, Except.check_bind_eq_ok, Except.check_bind_eq_ok,
    refuseIf_eq_ok, refuseIf_eq_ok, refuseIf_eq_ok, validateSkillText_eq_ok,
    Bool.not_eq_false] at valid
  obtain ⟨⟨said, short, -⟩, -, -, characters⟩ := valid
  exact ⟨said.resolve_left Bool.false_ne_true, short, by simpa using characters⟩

theorem SkillMetadata.isIdentifier (skill : SkillMetadata) :
    IsIdentifier skill.id maxSkillIdBytes := by
  have valid := skill.valid
  unfold validateSkill at valid
  exact isIdentifier_of_validate (Except.check_bind_eq_ok.mp valid).1

theorem isIdentifier_of_mem_request {request : SkillContextRequest} {id : String}
    (asked : id ∈ request.skillIds) : IsIdentifier id maxSkillIdBytes := by
  have each : ∀ {seen ids}, validateSkillIds seen ids = .ok () →
      ∀ id ∈ ids, IsIdentifier id maxSkillIdBytes := by
    intro seen ids valid
    induction ids generalizing seen with
    | nil => exact List.forall_mem_nil _
    | cons id rest ih =>
        rw [validateSkillIds, Except.check_bind_eq_ok, Except.check_bind_eq_ok] at valid
        obtain ⟨identifier, -, later⟩ := valid
        exact List.forall_mem_cons.mpr ⟨isIdentifier_of_validate identifier,
          ih later⟩
  have valid := request.valid
  unfold validateContextRequest at valid
  exact each (Except.check_bind_eq_ok.mp valid).2 id asked

theorem nodup_skillIds (request : SkillContextRequest) : request.skillIds.Nodup := by
  have each : ∀ {seen ids}, validateSkillIds seen ids = .ok () →
      (∀ id ∈ ids, id ∉ seen) ∧ ids.Nodup := by
    intro seen ids valid
    induction ids generalizing seen with
    | nil => exact ⟨List.forall_mem_nil _, List.nodup_nil⟩
    | cons id rest ih =>
        rw [validateSkillIds, Except.check_bind_eq_ok, Except.check_bind_eq_ok,
          refuseIf_eq_ok] at valid
        obtain ⟨-, unseen, later⟩ := valid
        obtain ⟨fresh, distinct⟩ := ih later
        refine ⟨List.forall_mem_cons.mpr ⟨unseen, fun other among =>
          List.not_mem_of_not_mem_cons (fresh other among)⟩, List.nodup_cons.mpr ⟨?_, distinct⟩⟩
        exact fun among => fresh id among List.mem_cons_self
  have valid := request.valid
  unfold validateContextRequest at valid
  exact (each (Except.check_bind_eq_ok.mp valid).2).2

theorem nodup_toolNames (skill : SkillMetadata) : (skill.tools.map (·.name)).Nodup := by
  have each : ∀ {seen tools}, validateToolNames seen tools = .ok () →
      (∀ name ∈ tools.map (·.name), name ∉ seen) ∧ (tools.map (·.name)).Nodup := by
    intro seen tools valid
    induction tools generalizing seen with
    | nil => exact ⟨List.forall_mem_nil _, List.nodup_nil⟩
    | cons tool rest ih =>
        rw [validateToolNames, Except.check_bind_eq_ok, refuseIf_eq_ok] at valid
        obtain ⟨unseen, later⟩ := valid
        obtain ⟨fresh, distinct⟩ := ih later
        refine ⟨List.forall_mem_cons.mpr ⟨unseen, fun other among =>
          List.not_mem_of_not_mem_cons (fresh other among)⟩, List.nodup_cons.mpr ⟨?_, distinct⟩⟩
        exact fun among => fresh tool.name among List.mem_cons_self
  have valid := skill.valid
  unfold validateSkill at valid
  simp only [Except.check_bind_eq_ok] at valid
  exact (each valid.2.2.2.2.2.2).2

/-- No dot stands in an identifier, so it ends where the first dot stands. -/
theorem eq_of_append_dot {first second rest rest' : String}
    (isFirst : first.toList.all identifierCharacter = true)
    (isSecond : second.toList.all identifierCharacter = true)
    (same : first ++ "." ++ rest = second ++ "." ++ rest') : first = second ∧ rest = rest' := by
  have undotted : ∀ {text : String}, text.toList.all identifierCharacter = true →
      '.' ∉ text.toList := fun all among => absurd (List.all_eq_true.mp all _ among) (by decide)
  have lists := congrArg String.toList same
  simp only [String.toList_append, List.append_assoc] at lists
  have split := splitOnce_append (undotted isFirst) rest.toList
  change splitOnce ['.'] (first.toList ++ ([('.' : Char)] ++ rest.toList)) = _ at split
  change first.toList ++ ([('.' : Char)] ++ rest.toList) =
    second.toList ++ ([('.' : Char)] ++ rest'.toList) at lists
  rw [lists] at split
  have split' := splitOnce_append (undotted isSecond) rest'.toList
  change splitOnce ['.'] (second.toList ++ ([('.' : Char)] ++ rest'.toList)) = _ at split'
  rw [split', Option.some_inj, Prod.mk.injEq] at split
  exact ⟨String.toList_inj.mp split.1.symm, String.toList_inj.mp split.2.symm⟩

/-- Tools of one skill are added if none of them was added before. -/
theorem insertTools_eq_ok {id : String} (identifier : id.toList.all identifierCharacter = true)
    {seen : List String} {tools : List SkillToolDescriptor} (names : (tools.map (·.name)).Nodup)
    (fresh : ∀ tool ∈ tools, id ++ "." ++ tool.name ∉ seen) :
    ∃ keys, insertTools id seen tools = .ok keys ∧ keys.length = seen.length + tools.length ∧
      ∀ key ∈ keys, key ∈ seen ∨ ∃ name, key = id ++ "." ++ name := by
  induction tools generalizing seen with
  | nil => exact ⟨seen, rfl, rfl, fun _ => .inl⟩
  | cons tool rest ih =>
      obtain ⟨isFresh, later⟩ := List.forall_mem_cons.mp fresh
      obtain ⟨unnamed, names⟩ := List.nodup_cons.mp names
      have stillFresh : ∀ other ∈ rest,
          id ++ "." ++ other.name ∉ (id ++ "." ++ tool.name) :: seen := by
        intro other among repeated
        rcases List.mem_cons.mp repeated with same | repeated
        · have isSame := (eq_of_append_dot identifier identifier same).2
          exact unnamed (List.mem_map.mpr ⟨other, among, isSame⟩)
        · exact later other among repeated
      obtain ⟨keys, inserted, length, known⟩ := ih names stillFresh
      refine ⟨keys, ?_, ?_, ?_⟩
      · rw [insertTools, Except.check_bind_eq_ok, refuseIf_eq_ok]
        exact ⟨isFresh, inserted⟩
      · rw [length, List.length_cons, List.length_cons]
        omega
      · intro key among
        rcases known key among with isKnown | named
        · rcases List.mem_cons.mp isKnown with rfl | isKnown
          · exact .inr ⟨tool.name, rfl⟩
          · exact .inl isKnown
        · exact .inr named

theorem validateEachSkill_eq_ok {skills : List SkillMetadata} {ids tools : List String}
    (distinct : (skills.map (·.id)).Nodup) (unseen : ∀ skill ∈ skills, skill.id ∉ ids)
    (keyed : ∀ key ∈ tools, ∃ id ∈ ids, id.toList.all identifierCharacter = true ∧
      ∃ name, key = id ++ "." ++ name) :
    ∃ keys, validateEachSkill ids tools skills = .ok keys ∧
      keys.length = tools.length + (skills.map (·.tools.length)).sum := by
  induction skills generalizing ids tools with
  | nil => exact ⟨tools, rfl, rfl⟩
  | cons skill rest ih =>
      obtain ⟨isUnseen, later⟩ := List.forall_mem_cons.mp unseen
      obtain ⟨unnamed, distinct⟩ := List.nodup_cons.mp distinct
      have identifier := skill.isIdentifier.characters
      have fresh : ∀ tool ∈ skill.tools, skill.id ++ "." ++ tool.name ∉ tools := by
        intro tool _ repeated
        obtain ⟨id, known, isIdentifier, name, same⟩ := keyed _ repeated
        rw [(eq_of_append_dot identifier isIdentifier same).1] at isUnseen
        exact isUnseen known
      obtain ⟨keys, inserted, length, known⟩ :=
        insertTools_eq_ok identifier (nodup_toolNames skill) fresh
      have stillUnseen : ∀ other ∈ rest, other.id ∉ skill.id :: ids := by
        intro other among repeated
        rcases List.mem_cons.mp repeated with same | repeated
        · exact unnamed (List.mem_map.mpr ⟨other, among, same⟩)
        · exact later other among repeated
      have stillKeyed : ∀ key ∈ keys, ∃ id ∈ skill.id :: ids,
          id.toList.all identifierCharacter = true ∧ ∃ name, key = id ++ "." ++ name := by
        intro key among
        rcases known key among with isKnown | named
        · obtain ⟨id, isId, parts⟩ := keyed key isKnown
          exact ⟨id, List.mem_cons_of_mem _ isId, parts⟩
        · exact ⟨skill.id, List.mem_cons_self, identifier, named⟩
      obtain ⟨all, validated, count⟩ := ih distinct stillUnseen stillKeyed
      refine ⟨all, ?_, ?_⟩
      · rw [validateEachSkill, Except.check_bind_eq_ok, refuseIf_eq_ok]
        refine ⟨isUnseen, ?_⟩
        rw [inserted]
        exact validated
      · rw [count, length, List.map_cons, List.sum_cons, Nat.add_assoc]

/-- Skills with different identifiers, and few of them and of their tools, are a list. -/
theorem validateMetadata_eq_ok {skills : List SkillMetadata}
    (distinct : (skills.map (·.id)).Nodup) (few : skills.length ≤ maxSkillMetadata)
    (fewTools : (skills.map (·.tools.length)).sum ≤ maxSkillToolDeclarations) :
    validateMetadata skills = .ok () := by
  obtain ⟨keys, validated, count⟩ := @validateEachSkill_eq_ok skills [] [] distinct
    (fun _ _ => List.not_mem_nil) (List.forall_mem_nil _)
  rw [List.length_nil, Nat.zero_add] at count
  unfold validateMetadata
  rw [Except.check_bind_eq_ok, refuseIf_eq_ok]
  refine ⟨not_lt.mpr few, ?_⟩
  rw [validated]
  exact refuseIf_eq_ok.mpr (not_lt.mpr (count ▸ fewTools))

/-- A warning that every answer may have. -/
structure IsWarning (warning : String) : Prop where
  said : isBlank warning = false
  short : warning.utf8ByteSize ≤ maxSkillWarningBytes
  plain : warning.toList.any isControlCharacter = false

theorem validateWarnings_eq_ok {warnings : List String} (few : warnings.length ≤ maxSkillWarnings)
    (each : ∀ warning ∈ warnings, IsWarning warning) : validateWarnings warnings = .ok () := by
  unfold validateWarnings
  rw [Except.check_bind_eq_ok, refuseIf_eq_ok, checkAll_eq_ok]
  refine ⟨not_lt.mpr few, fun warning among => validateSkillText_eq_ok.mpr ?_⟩
  have isWarning := each warning among
  exact ⟨.inr isWarning.said, isWarning.short, isWarning.plain⟩

theorem validateBlocks_eq_ok {blocks : List SkillContextBlock} {seen : List String} (total : Nat)
    (distinct : (blocks.map (·.skillId)).Nodup) (unseen : ∀ block ∈ blocks, block.skillId ∉ seen) :
    validateBlocks seen total blocks =
      .ok (total + (blocks.map (·.instructions.utf8ByteSize)).sum) := by
  induction blocks generalizing seen total with
  | nil => rfl
  | cons block rest ih =>
      obtain ⟨isUnseen, later⟩ := List.forall_mem_cons.mp unseen
      obtain ⟨unnamed, distinct⟩ := List.nodup_cons.mp distinct
      rw [validateBlocks, Except.check_bind_eq_ok, refuseIf_eq_ok, List.map_cons, List.sum_cons,
        ← Nat.add_assoc]
      refine ⟨isUnseen, ih _ distinct fun other among repeated => ?_⟩
      rcases List.mem_cons.mp repeated with same | repeated
      · exact unnamed (List.mem_map.mpr ⟨other, among, same⟩)
      · exact later other among repeated

end Protocol
end YunXi
