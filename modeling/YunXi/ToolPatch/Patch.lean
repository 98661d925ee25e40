import YunXi.Program.Strings
import YunXi.Protocol.Text

/-!
# Patches

A patch lists file sections: files to add, to delete and to update by hunks.  Paths are
relative, have only plain components and are compared by components.
-/

namespace YunXi
namespace ToolPatch

open Strings

def maxPatchBytes : Nat := 2 * 1024 * 1024
def maxPatchFiles : Nat := 128

/-- One component of a path. -/
inductive Component
  | rootDir
  | curDir
  | parentDir
  | normal (name : String)
  deriving DecidableEq, Repr

/-- `matches!(component, Component::Normal(_))`. -/
def Component.isNormal : Component → Bool
  | normal _ => true
  | _ => false

/-- `PathBuf`: a path as it was written. -/
structure PathBuf where
  text : String
  deriving DecidableEq, Repr

namespace PathBuf

/-- The parts of the text between slashes. -/
def segments (path : PathBuf) : List String :=
  (path.text.toList.splitOn '/').map String.ofList

def isAbsolute (path : PathBuf) : Bool :=
  startsWith "/" path.text

/-- A part that is neither empty nor a single dot. -/
def componentOf (segment : String) : Option Component :=
  if segment = "" ∨ segment = "." then none
  else if segment = ".." then some .parentDir
  else some (.normal segment)

/-- `Path::components`: doubled slashes and dots inside the path do not count. -/
def components (path : PathBuf) : List Component :=
  (if path.isAbsolute then [.rootDir]
    else if path.segments.head? = some "." then [.curDir]
    else []) ++ path.segments.filterMap componentOf

end PathBuf

/-- A line of a hunk. -/
inductive PatchLine
  | context (text : String)
  | add (text : String)
  | remove (text : String)
  deriving DecidableEq, Repr

namespace PatchLine

def text : PatchLine → String
  | context text | add text | remove text => text

/-- The line as the old file has it. -/
def old : PatchLine → Option String
  | context text | remove text => some text
  | add _ => none

/-- The line as the new file has it. -/
def new : PatchLine → Option String
  | context text | add text => some text
  | remove _ => none

def isAdd : PatchLine → Bool
  | add _ => true
  | _ => false

def isRemove : PatchLine → Bool
  | remove _ => true
  | _ => false

end PatchLine

/-- What a section does to its file. -/
inductive ParsedChangeKind
  | add (lines : List String)
  | delete
  | update (hunks : List (List PatchLine))
  deriving DecidableEq, Repr

/-- A file section of a patch. -/
structure ParsedChange where
  path : PathBuf
  kind : ParsedChangeKind
  deriving DecidableEq, Repr

/-- Why an action grant is not usable. -/
inductive ActionGrantError
  | emptyWorkspaceRoot
  | emptyWorkingDirectory
  | approvalRequired
  | emptyApprovalTicket
  | invalidTimeout (value maximum : Nat)
  | invalidOutputLimit (value maximum : Nat)
  | workspaceWriteNotGranted
  | invalidNetworkGrant (message : String)
  | invalidSecretGrant (message : String)
  | networkGrantNotEnabled
  deriving DecidableEq, Repr

/-- Why a patch is refused or rolled back. -/
inductive PatchError
  | invalidGrant (error : ActionGrantError)
  | readNotGranted
  | writeNotGranted
  | emptyPatch
  | patchTooLarge (length maximum : Nat)
  | tooManyFiles (count maximum : Nat)
  | invalidPatch (message : String)
  | unsupported (message : String)
  | invalidPath (path : String)
  | duplicatePath (path : PathBuf)
  | alreadyExists (path : String)
  | workspace (path : PathBuf) (message : String)
  | outsideWorkspace (path root : PathBuf)
  | fileTooLarge (path : PathBuf) (maximum : Nat)
  | invalidUtf8 (message : String)
  | hunkContextNotFound
  | ambiguousHunk
  | transaction (message : String)
  deriving DecidableEq, Repr

/-- `validate_relative_path`: a path of plain components only. -/
def validateRelativePath (value : String) : Except PatchError PathBuf :=
  let path : PathBuf := ⟨replaceCharacter '\\' '/' value⟩
  if value = "" ∨ Protocol.containsNul value then .error (.invalidPath value)
  else if path.isAbsolute then .error (.invalidPath value)
  else if value.toList.any (· == ':') then .error (.invalidPath value)
  else if path.components.all Component.isNormal then .ok path
  else .error (.invalidPath value)

/-- `value.trim()`. -/
def trim (value : String) : String :=
  trimMatches Protocol.isWhiteSpace value

/-- `line.trim_end_matches('\r')`. -/
def trimEndReturns (line : String) : String :=
  trimEndMatches (· == '\r') line

end ToolPatch
end YunXi
