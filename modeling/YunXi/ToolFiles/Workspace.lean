import YunXi.Program.FileChange
import YunXi.Program.Strings
import Mathlib.Data.List.Infix

/-!
# Files of a workspace

The file tools read below a granted root.  They resolve a path to its real place first, and refuse
places that are not below the real place of the root.
-/

namespace YunXi
namespace ToolFiles

open FileTree (stepsTo)

variable {ν : Type}

/-- A path: from the root of the file system or not, and its steps. -/
structure FilePath (ν : Type) where
  absolute : Bool
  steps : List (PathStep ν)
  deriving DecidableEq

namespace FilePath

/-- `path.as_os_str().is_empty()`. -/
def isEmpty (path : FilePath ν) : Bool := !path.absolute && path.steps = []

def ofPlace (place : List ν) : FilePath ν := ⟨true, stepsTo place⟩

/-- `root.join(path)`, which is the path itself when it is absolute. -/
def join (root : List ν) (path : FilePath ν) : FilePath ν :=
  if path.absolute then path else ⟨true, stepsTo root ++ path.steps⟩

end FilePath

/-- `WorkspaceGrant`, as far as the file tools look at it. -/
structure WorkspaceGrant (ν : Type) where
  root : FilePath ν
  legacyRead : Bool
  deriving DecidableEq

inductive FileToolError (ν : Type)
  | read (path : FilePath ν) (cause : FileError)
  | path (path : FilePath ν) (cause : FileError)
  | outsideWorkspace (place : List ν)
  | notUtf8 (place : List ν)
  | emptyQuery
  | queryTooLong (length maximum : Nat)
  | invalidLimit
  | invalidGrant
  | readNotGranted
  deriving DecidableEq

/-- `ensure_read_grant`. -/
def ensureReadGrant (grant : WorkspaceGrant ν) : Except (FileToolError ν) Unit := do
  refuseIf (grant.root.isEmpty = true) .invalidGrant
  refuseIf (grant.legacyRead = false) .readNotGranted

theorem ensureReadGrant_eq_ok {grant : WorkspaceGrant ν} :
    ensureReadGrant grant = .ok () ↔ grant.root.isEmpty = false ∧ grant.legacyRead = true := by
  unfold ensureReadGrant
  rw [Except.check_bind_eq_ok, refuseIf_eq_ok, refuseIf_eq_ok, Bool.not_eq_true,
    Bool.not_eq_false]

/-- What the tools see of the machine: the files, the current directory, how many links a path may
go through, and how a name is shown as text. -/
structure Machine (ν : Type) where
  files : FileTree ν (List UInt8)
  currentDirectory : List ν
  links : Nat
  lossy : ν → String

namespace Machine

variable [DecidableEq ν] (machine : Machine ν)

/-- `fs::canonicalize`. -/
def canonicalize (path : FilePath ν) : Except (FileToolError ν) (List ν) :=
  (machine.files.canonicalize machine.links
    (if path.absolute then [] else machine.currentDirectory) path.steps).mapError (.path path)

/-- `resolve_directory`. -/
def resolveDirectory (root : List ν) (requested : FilePath ν) :
    Except (FileToolError ν) (List ν) := do
  let root ← machine.canonicalize (.ofPlace root)
  let requested ← machine.canonicalize (requested.join root)
  refuseIf (¬ root <+: requested ∨ machine.files.isDirectory requested = false)
    (.outsideWorkspace requested)
  return requested

/-- `resolve_file`. -/
def resolveFile (root : List ν) (requested : FilePath ν) :
    Except (FileToolError ν) (List ν) := do
  let target ← machine.canonicalize (requested.join root)
  refuseIf (¬ root <+: target ∨ machine.files.isFile target = false) (.outsideWorkspace target)
  return target

/-- `relative_path`. -/
def relativePath (root place : List ν) : String :=
  Strings.replaceCharacter '\\' '/'
    (if root <+: place then "/".intercalate ((place.drop root.length).map machine.lossy)
    else "/" ++ "/".intercalate (place.map machine.lossy))

end Machine

variable [DecidableEq ν]

theorem resolveFile_eq_ok {machine : Machine ν} {root target : List ν}
    {requested : FilePath ν} :
    machine.resolveFile root requested = .ok target ↔
      machine.canonicalize (requested.join root) = .ok target ∧ root <+: target ∧
        machine.files.isFile target = true := by
  unfold Machine.resolveFile
  rw [Except.bind_eq_ok]
  simp only [Except.check_bind_eq_ok, refuseIf_eq_ok, not_or, not_not, Bool.not_eq_false,
    Except.pure_eq_ok]
  constructor
  · rintro ⟨place, canonical, ⟨below, isFile⟩, rfl⟩
    exact ⟨canonical, below, isFile⟩
  · rintro ⟨canonical, below, isFile⟩
    exact ⟨target, canonical, ⟨below, isFile⟩, rfl⟩

end ToolFiles
end YunXi
