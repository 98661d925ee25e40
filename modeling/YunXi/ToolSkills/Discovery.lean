import YunXi.Program.FileChange
import YunXi.Program.Utf8
import YunXi.Protocol.Skills

/-!
# Discovery of skills

A skill is a directory below the root with a `SKILL.md`, and maybe a `tools.json`.  A directory that
is no skill is left out with a warning.  A skill that is disabled, that repeats an identifier or
that comes when there are enough skills or tools is left out too.
-/

namespace YunXi
namespace ToolSkills

open FileTree (stepsTo)
open Protocol
open Strings (trimMatches)

/-- The bytes of a file name. -/
abbrev FileName := List UInt8

def skillFileName : FileName := Utf8.encode "SKILL.md".toList
def toolsFileName : FileName := Utf8.encode "tools.json".toList
def maxSkillFileBytes : Nat := maxSkillInstructionBytes + 8 * 1024
def maxToolsFileBytes : Nat := maxSkillToolSchemaBytes
def maxDiscoveryWarnings : Nat := 32
def maxDiscoveryWarningBytes : Nat := 1024
def maxRootBytes : Nat := 512

/-- What a discovery uses of the machine: the files and their names in order, how many links a path
may go through, how names and errors are shown as text, and how JSON is read. -/
structure Machine where
  files : FileTree FileName (List UInt8)
  names : List FileName → List FileName
  listed : ∀ place name, name ∈ names place ↔ files.node (place ++ [name]) ≠ none
  sorted : ∀ place, (names place).Pairwise (· < ·)
  links : Nat
  lossy : FileName → String
  describe : FileError → String
  parseJson : List UInt8 → Except String Value
  refusal : Value → String

abbrev Path := List (PathStep FileName)

namespace Machine

variable (machine : Machine)

/-- `fs::canonicalize` of a path from the root of the file system. -/
def canonicalize (path : Path) : Except FileError (List FileName) :=
  machine.files.canonicalize machine.links [] path

/-- `path.is_file()`. -/
def isFile (path : Path) : Bool :=
  (machine.canonicalize path).toOption.any machine.files.isFile

/-- Open the file that a path leads to, and read it. -/
def readFile (path : Path) : Except FileError (List UInt8) := do
  let place ← machine.canonicalize path
  match machine.files.node place with
  | some (.file content) => .ok content
  | some .directory => .error .isADirectory
  | _ => .error .notFound

end Machine

inductive SkillsConfigError
  | emptyRoot
  | rootTooLong (length maximum : Nat)
  | rootControlCharacter
  | invalidSkillId (id : String)
  deriving DecidableEq, Repr

/-- `validate_root`, of the text of a root. -/
def validateRoot (root : String) : Except SkillsConfigError Unit := do
  refuseIf (isBlank root = true) .emptyRoot
  refuseIf (root.utf8ByteSize > maxRootBytes) (.rootTooLong root.utf8ByteSize maxRootBytes)
  refuseIf (root.toList.any isControlCharacter = true) .rootControlCharacter

/-- `validate_skill_id`. -/
def validateSkillId (id : String) : Except SkillsConfigError Unit :=
  refuseIf (id = "" ∨ id.toList.head?.any isAsciiLowercase = false ∨
    id.toList.getLast? = some '-' ∨ id.toList.getLast? = some '_' ∨
    id.toList.all identifierCharacter = false) (.invalidSkillId id)

/-- `SkillsConfig::new`, as far as it refuses a configuration. -/
def validateConfig (rootText : String) (disabled : List String) :
    Except SkillsConfigError Unit := do
  validateRoot rootText
  checkAll validateSkillId disabled

/-- `SkillsConfig`, with the text that its root is shown as. -/
structure SkillsConfig where
  root : Path
  rootText : String
  disabled : List String
  valid : validateConfig rootText disabled = .ok ()

def SkillsConfig.isDisabled (config : SkillsConfig) (id : String) : Bool :=
  config.disabled.contains id

/-- What the lines between the markers say. -/
structure Frontmatter where
  name : Option String
  description : Option String
  deriving DecidableEq

def trim (text : String) : String := trimMatches isWhiteSpace text

/-- A line between the markers; a later one replaces an earlier one. -/
def readField (values : Frontmatter) (line : String) : Frontmatter :=
  match splitOnce [':'] line.toList with
  | none => values
  | some (key, value) =>
      let key := toAsciiLowercase (trim (String.ofList key))
      let value := trimMatches (· == '\'')
        (trimMatches (· == '\"') (trim (String.ofList value)))
      if key = "name" then { values with name := some value }
      else if key = "description" then { values with description := some value }
      else values

/-- `split_document`. -/
def splitDocument (content : String) : Frontmatter × String :=
  match Strings.lines content with
  | [] => (⟨none, none⟩, content)
  | first :: rest =>
      if trim first ≠ "---" then (⟨none, none⟩, content)
      else
        match rest.findIdx? fun line => trim line = "---" with
        | none => (⟨none, none⟩, content)
        | some index =>
            ((rest.take index).foldl readField ⟨none, none⟩,
              "\n".intercalate (rest.drop (index + 1)))

structure DiscoveredSkill where
  metadata : SkillMetadata
  instructions : String

inductive SkillLoadError
  | io (path : String) (source : FileError)
  | tooLarge (path : String) (size maximum : Nat)
  | notUtf8
  | invalidDirectoryName
  | pathEscape
  | json (path message : String)
  | protocol (error : SkillProtocolError)
  deriving DecidableEq

/-- `fmt::Display for SkillLoadError`. -/
def SkillLoadError.display (machine : Machine) : SkillLoadError → String
  | io path source => "cannot read " ++ path ++ ": " ++ machine.describe source
  | tooLarge path size maximum =>
      path ++ " is " ++ toString size ++ " bytes; maximum is " ++ toString maximum
  | notUtf8 => "SKILL.md is not valid UTF-8"
  | invalidDirectoryName => "Skill directory name is not valid UTF-8"
  | pathEscape => "Skill path escaped the configured root"
  | json path message => "invalid " ++ path ++ ": " ++ message
  | protocol error => error.display

section Loading

variable (machine : Machine) (config : SkillsConfig)

/-- The text of a path below the root. -/
def pathText (names : List FileName) : String :=
  names.foldl (fun text name => text ++ "/" ++ machine.lossy name) config.rootText

/-- `read_bounded`. -/
def readBounded (path : Path) (text : String) (maximum : Nat) :
    Except SkillLoadError (List UInt8) := do
  let file ← (machine.readFile path).mapError (.io text)
  let bytes := file.take (maximum + 1)
  refuseIf (bytes.length > maximum) (.tooLarge text bytes.length maximum)
  return bytes

/-- `load_tools`. -/
def loadTools (canonicalRoot : List FileName) (directory : FileName) :
    Except SkillLoadError (List SkillToolDescriptor) :=
  let path := config.root ++ [.down directory, .down toolsFileName]
  let text := pathText machine config [directory, toolsFileName]
  if machine.isFile path = false then .ok []
  else do
    let canonicalPath ← (machine.canonicalize path).mapError (.io text)
    refuseIf (¬ canonicalRoot <+: canonicalPath) .pathEscape
    let bytes ← readBounded machine path text maxToolsFileBytes
    let value ← (machine.parseJson bytes).mapError (.json text)
    match value.asArray.bind (List.mapM SkillToolDescriptor.fromJson) with
    | none => .error (.json text (machine.refusal value))
    | some tools => .ok tools

/-- `load_skill`. -/
def loadSkill (canonicalRoot : List FileName) (directory : FileName) :
    Except SkillLoadError DiscoveredSkill := do
  let bytes ← readBounded machine (config.root ++ [.down directory, .down skillFileName])
    (pathText machine config [directory, skillFileName]) maxSkillFileBytes
  let content ← (Utf8.decode bytes).elim (.error .notUtf8) .ok
  let instructions := (splitDocument content).2
  let directoryName ← (Utf8.decode directory).elim (.error .invalidDirectoryName) .ok
  let id := toAsciiLowercase directoryName
  let name := (splitDocument content).1.name.getD directoryName
  let description := (splitDocument content).1.description.getD ("Instructions for " ++ name)
  let relativePath := "/".intercalate ([directory, skillFileName].map machine.lossy)
  let _ ← (SkillContextBlock.new id instructions).mapError .protocol
  let tools ← loadTools machine config canonicalRoot directory
  let metadata ← (SkillMetadata.new id name description relativePath instructions.utf8ByteSize
    tools).mapError .protocol
  return { metadata, instructions }

/-- What becomes of an entry of the root. -/
inductive Inspected
  | ignored
  | warned (warning : String)
  | loaded (skill : DiscoveredSkill)

/-- One entry of the root, up to its skill. -/
def inspectEntry (canonicalRoot : List FileName) (directory : FileName) : Inspected :=
  let path := pathText machine config [directory]
  let file := pathText machine config [directory, skillFileName]
  let skillFile := config.root ++ [.down directory, .down skillFileName]
  -- a link to a directory is no directory here
  if machine.files.isDirectory (canonicalRoot ++ [directory]) = false then .ignored
  else
    match machine.canonicalize (config.root ++ [.down directory]) with
    | .error error =>
        .warned ("ignored Skill directory " ++ path ++ ": " ++ machine.describe error)
    | .ok canonicalSkillDir =>
        if ¬ canonicalRoot <+: canonicalSkillDir then
          .warned ("ignored Skill directory outside configured root: " ++ path)
        else if machine.isFile skillFile = false then .ignored
        else
          match machine.canonicalize skillFile with
          | .error error =>
              .warned ("ignored Skill file " ++ file ++ ": " ++ machine.describe error)
          | .ok canonicalSkillFile =>
              if ¬ canonicalRoot <+: canonicalSkillFile then
                .warned ("ignored Skill file outside configured root: " ++ file)
              else
                match loadSkill machine config canonicalRoot directory with
                | .ok skill => .loaded skill
                | .error error =>
                    .warned ("ignored Skill " ++ path ++ ": " ++ error.display machine)

end Loading

structure Discovery where
  skills : List DiscoveredSkill
  warnings : List String
  truncated : Bool
  skillIds : List String
  toolCount : Nat

def Discovery.start : Discovery where
  skills := []
  warnings := []
  truncated := false
  skillIds := []
  toolCount := 0

/-- A skill that was loaded. -/
def Discovery.offer (config : SkillsConfig) (state : Discovery) (skill : DiscoveredSkill) :
    Discovery :=
  let id := skill.metadata.id
  let count := skill.metadata.tools.length
  if state.skills.length ≥ maxSkillMetadata then { state with truncated := true }
  else if config.isDisabled id = true then state
  else if id ∈ state.skillIds then
    { state with warnings := state.warnings ++ ["ignored duplicate Skill id `" ++ id ++ "`"] }
  else
    let state := { state with skillIds := id :: state.skillIds }
    if state.toolCount + count > maxSkillToolDeclarations then { state with truncated := true }
    else
      { state with
        toolCount := state.toolCount + count
        skills := state.skills ++ [skill] }

/-- One entry of the root. -/
def Discovery.visit (machine : Machine) (config : SkillsConfig) (canonicalRoot : List FileName)
    (state : Discovery) (directory : FileName) : Discovery :=
  match inspectEntry machine config canonicalRoot directory with
  | .ignored => state
  | .warned warning => { state with warnings := state.warnings ++ [warning] }
  | .loaded skill => state.offer config skill

/-- A warning without control characters and not too long. -/
def boundWarning (warning : String) : String :=
  truncate (String.ofList (warning.toList.map fun character =>
    if isControlCharacter character then ' ' else character)) maxDiscoveryWarningBytes

/-- `bound_warnings`. -/
def boundWarnings (warnings : List String) : List String :=
  (warnings.take maxDiscoveryWarnings).map boundWarning

structure DiscoverySnapshot where
  root : String
  skills : List DiscoveredSkill
  warnings : List String
  truncated : Bool

inductive DiscoveryError
  | rootTooLong (length maximum : Nat)
  | rootNotDirectory (path : String)
  deriving DecidableEq, Repr

/-- `discover`. -/
def discover (machine : Machine) (config : SkillsConfig) :
    Except DiscoveryError DiscoverySnapshot := do
  let root := config.rootText
  refuseIf (root.utf8ByteSize > maxSkillPathBytes)
    (.rootTooLong root.utf8ByteSize maxSkillPathBytes)
  match machine.canonicalize config.root with
  | .error _ =>
      return { root, skills := [], warnings := ["Skills root does not exist: " ++ root]
               truncated := false }
  | .ok canonicalRoot =>
      refuseIf (machine.files.isDirectory canonicalRoot = false) (.rootNotDirectory root)
      let state := (machine.names canonicalRoot).foldl
        (Discovery.visit machine config canonicalRoot) .start
      return { root, skills := state.skills, warnings := boundWarnings state.warnings
               truncated := state.truncated }

end ToolSkills
end YunXi
