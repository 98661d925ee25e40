import YunXi.Program.Fallible
import YunXi.Program.FileChange
import YunXi.ToolPatch.Hunks
import YunXi.ToolPatch.Parse

/-!
# Applying patches

All changes of a patch are planned on the workspace as it is.  Then they are made one
after the other: new content goes to a temporary file that is renamed over the target.
When a file-system call fails, the changes made so far are rolled back.
-/

namespace YunXi
namespace ToolPatch

open Strings

def maxFileBytes : Nat := 8 * 1024 * 1024
def maxActionTimeoutMillis : Nat := 600000
def maxActionOutputBytes : Nat := 1024 * 1024

/-- A place in the file system, by its names from the root. -/
abbrev Place := List String

abbrev Files := FileTree String ByteArray

local instance bytesDecidableEq : DecidableEq ByteArray := ByteArray.instDecidableEq

/-- What the program sees of the machine: the files, its current directory, how many links
a path may go through, and a clock of which each reading draws the next stamp. -/
structure Disk where
  files : Files
  currentDirectory : Place
  links : Nat
  clock : Nat → Nat
  readings : Nat

inductive ActionApproval
  | denied (reason : String)
  | approved (ticket : String)
  deriving DecidableEq, Repr

structure WorkspaceGrant where
  root : PathBuf
  legacyRead : Bool
  workspaceWrite : Bool
  deriving DecidableEq, Repr

/-- An action grant.  Of its network and secret grants it shows whether they are empty and
what their own validation says. -/
structure ActionGrant where
  workspace : WorkspaceGrant
  workingDirectory : PathBuf
  approval : ActionApproval
  allowWrite : Bool
  allowNetwork : Bool
  networkIsEmpty : Bool
  networkCheck : Except String Unit
  secretCheck : Except String Unit
  timeoutMillis : Nat
  maxOutputBytes : Nat

/-- `ActionGrant::validate`. -/
def ActionGrant.validate (grant : ActionGrant) : Except ActionGrantError Unit := do
  refuseIf (grant.workspace.root.text = "") .emptyWorkspaceRoot
  refuseIf (grant.workingDirectory.text = "") .emptyWorkingDirectory
  match grant.approval with
  | .denied _ => .error .approvalRequired
  | .approved ticket => refuseIf (Protocol.isBlank ticket) .emptyApprovalTicket
  refuseIf (grant.timeoutMillis = 0 ∨ grant.timeoutMillis > maxActionTimeoutMillis)
    (.invalidTimeout grant.timeoutMillis maxActionTimeoutMillis)
  refuseIf (grant.maxOutputBytes = 0 ∨ grant.maxOutputBytes > maxActionOutputBytes)
    (.invalidOutputLimit grant.maxOutputBytes maxActionOutputBytes)
  refuseIf (grant.allowWrite ∧ !grant.workspace.workspaceWrite) .workspaceWriteNotGranted
  grant.networkCheck.mapError .invalidNetworkGrant
  grant.secretCheck.mapError .invalidSecretGrant
  refuseIf (!grant.allowNetwork ∧ !grant.networkIsEmpty) .networkGrantNotEnabled

structure PatchApplyRequest where
  grant : ActionGrant
  patch : String

inductive PatchChangeKind
  | added
  | updated
  | deleted
  deriving DecidableEq, Repr

structure PatchFileChange where
  path : String
  kind : PatchChangeKind
  addedLines : Nat
  removedLines : Nat
  deriving DecidableEq, Repr

namespace PathBuf

/-- The steps of a path; a slash at the end steps nowhere but needs a directory. -/
def steps (path : PathBuf) : List (PathStep String) :=
  path.segments.map fun segment =>
    if segment = "" ∨ segment = "." then .stay
    else if segment = ".." then .up
    else .down segment

/-- A place as a path. -/
def ofPlace (place : Place) : PathBuf :=
  ⟨"/" ++ "/".intercalate place⟩

/-- `Path::join` with a relative path. -/
def join (root : Place) (relative : PathBuf) : PathBuf :=
  if root = [] then ⟨"/" ++ relative.text⟩
  else ⟨(ofPlace root).text ++ "/" ++ relative.text⟩

end PathBuf

/-- The step a component stands for. -/
def Component.step : Component → PathStep String
  | .rootDir | .curDir => .stay
  | .parentDir => .up
  | .normal name => .down name

def Component.name? : Component → Option String
  | .normal name => some name
  | _ => none

/-- The text of an error of the operating system. -/
def displayError : FileError → String
  | .notFound => "No such file or directory (os error 2)"
  | .notADirectory => "Not a directory (os error 20)"
  | .isADirectory => "Is a directory (os error 21)"
  | .tooManyLinks => "Too many levels of symbolic links (os error 40)"
  | .other message => message

namespace Disk

variable (disk : Disk)

/-- `fs::canonicalize` of a path from the grant. -/
def canonicalizePath (path : PathBuf) : Except PatchError Place :=
  (disk.files.canonicalize disk.links
    (if path.isAbsolute then [] else disk.currentDirectory) path.steps).mapError fun error =>
      .workspace path (displayError error)

end Disk

structure PlannedChange where
  target : Place
  relative : String
  kind : PatchChangeKind
  content : Option ByteArray
  original : Option ByteArray
  addedLines : Nat
  removedLines : Nat
  deriving DecidableEq

section Planning

variable (disk : Disk) (root : Place)

/-- The canonical place of a file that has to exist below the root. -/
def resolveExisting (relative : PathBuf) : Except PatchError Place := do
  let target ← (disk.files.canonicalize disk.links []
    (FileTree.stepsTo root ++ relative.steps)).mapError fun error =>
      .workspace (PathBuf.join root relative) (displayError error)
  refuseIf (¬ root <+: target ∨ ¬ disk.files.isFile target)
    (.outsideWorkspace (.ofPlace target) (.ofPlace root))
  return target

/-- The place of a new file: its name in the canonical place of its directory. -/
def resolveNew (relative : PathBuf) : Except PatchError Place := do
  refuseIf (root = [] ∧ relative.components = []) (.invalidPath relative.text)
  let parentSteps :=
    (FileTree.stepsTo root ++ relative.components.map Component.step).dropLast
  let parentPath := PathBuf.ofPlace
    (root ++ relative.components.dropLast.filterMap Component.name?)
  let parent ← (disk.files.canonicalize disk.links [] parentSteps).mapError fun error =>
    .workspace parentPath (displayError error)
  refuseIf (¬ root <+: parent) (.outsideWorkspace (.ofPlace parent) (.ofPlace root))
  match relative.components.getLast? with
  | some (.normal name) => return parent ++ [name]
  | _ => throw (.invalidPath relative.text)

/-- `resolve_target`. -/
def resolveTarget (relative : PathBuf) (mustExist : Bool) : Except PatchError Place :=
  if mustExist then resolveExisting disk root relative else resolveNew disk root relative

/-- `read_bounded_file`. -/
def readBoundedFile (place : Place) : Except PatchError ByteArray := do
  let content ← (disk.files.read disk.links place).mapError fun error =>
    .workspace (.ofPlace place) (displayError error)
  refuseIf (content.size > maxFileBytes) (.fileTooLarge (.ofPlace place) maxFileBytes)
  return content

/-- One plan of `build_plans`. -/
def buildPlan (change : ParsedChange) : Except PatchError PlannedChange :=
  let relative := replaceCharacter '\\' '/' change.path.text
  match change.kind with
  | .add lines => do
      let target ← resolveTarget disk root change.path false
      refuseIf (disk.files.pathExists disk.links target) (.alreadyExists relative)
      return {
        target
        relative
        kind := .added
        content := some (renderLines lines "\n" true).toUTF8
        original := none
        addedLines := lines.length
        removedLines := 0 }
  | .delete => do
      let target ← resolveTarget disk root change.path true
      let original ← readBoundedFile disk target
      return {
        target
        relative
        kind := .deleted
        content := none
        original := some original
        addedLines := 0
        removedLines := countLines original }
  | .update hunks => do
      let target ← resolveTarget disk root change.path true
      let original ← readBoundedFile disk target
      let (content, addedLines, removedLines) ← applyHunks original hunks
      return {
        target
        relative
        kind := .updated
        content := some content
        original := some original
        addedLines
        removedLines }

/-- `build_plans`. -/
def buildPlans (changes : List ParsedChange) : Except PatchError (List PlannedChange) :=
  changes.mapM (buildPlan disk root)

end Planning

/-- The file-system calls that a change is made of. -/
inductive ApplyStep
  | writeTemporary
  | removeOld
  | rename
  | delete
  deriving DecidableEq, Repr

/-- One call that fails: which call of which change, its error, and what a failed write of
a temporary file leaves on the disk. -/
structure Fault where
  target : Place
  step : ApplyStep
  error : FileError
  left : Option ByteArray
  deriving DecidableEq

def Fault.strikes (fault : Fault) (target : Place) (step : ApplyStep) : Prop :=
  fault.target = target ∧ fault.step = step

instance (fault : Fault) (target : Place) (step : ApplyStep) :
    Decidable (fault.strikes target step) :=
  inferInstanceAs (Decidable (_ ∧ _))

/-- A file-system call that nothing disturbs. -/
def call (operation : Nat → Files → Except FileError Files) :
    Fallible Disk FileError Unit :=
  .ofFunction fun disk =>
    match operation disk.links disk.files with
    | .ok files => (.ok (), { disk with files })
    | .error error => (.error error, disk)

variable (fault : Option Fault)

/-- A file-system call of a change, which fails if the fault strikes it. -/
def stepCall (target : Place) (step : ApplyStep)
    (damage : Option ByteArray → Files → Files)
    (operation : Nat → Files → Except FileError Files) : Fallible Disk FileError Unit :=
  match fault with
  | some fault =>
      if fault.strikes target step then do
        modify fun disk => { disk with files := damage fault.left disk.files }
        throw fault.error
      else call operation
  | none => call operation

/-- Read the clock. -/
def now : Fallible Disk FileError Nat := do
  let disk ← get
  modify fun disk => { disk with readings := disk.readings + 1 }
  return disk.clock disk.readings

def temporaryName (stamp : Nat) : String :=
  ".yunxi-next-patch-" ++ toString stamp ++ ".tmp"

/-- `temporary_path`. -/
def temporaryPath (target : Place) (stamp : Nat) : Place :=
  target.dropLast ++ [temporaryName stamp]

/-- What a failed write leaves of a temporary file. -/
def leaveTemporary (temporary : Place) (left : Option ByteArray) (files : Files) : Files :=
  match left with
  | some content => files.put temporary (some (.file content))
  | none => files

/-- Remove the old target if there is one. -/
def removeOldTarget (target : Place) : Fallible Disk FileError Unit := do
  let disk ← get
  if disk.files.pathExists disk.links target then
    stepCall fault target .removeOld (fun _ files => files)
      fun links files => files.removeFile links target

/-- Rename the temporary file over the target, or remove it when that fails. -/
def renameTemporary (target temporary : Place) :
    Fallible Disk FileError Unit := do
  let renamed ← Fallible.attempt id (fun disk _ => disk) <|
    stepCall fault target .rename (fun _ files => files)
      fun links files => files.rename links temporary target
  match renamed with
  | .ok () => pure ()
  | .error error => do
      let _ignored ← Fallible.attempt id (fun disk _ => disk) <|
        call fun links files => files.removeFile links temporary
      throw error

/-- `apply_one`. -/
def applyOne (plan : PlannedChange) : Fallible Disk FileError Unit :=
  match plan.content with
  | some content => do
      let stamp ← now
      let temporary := temporaryPath plan.target stamp
      stepCall fault plan.target .writeTemporary (leaveTemporary temporary)
        fun links files => files.write links temporary content
      removeOldTarget fault plan.target
      renameTemporary fault plan.target temporary
  | none =>
      stepCall fault plan.target .delete (fun _ files => files)
        fun links files => files.removeFile links plan.target

/-- One step of `rollback`; its own errors are ignored. -/
def rollbackOne (links : Nat) (plan : PlannedChange) (files : Files) : Files :=
  match plan.original with
  | some original => (files.write links plan.target original).toOption.getD files
  | none => (files.removeFile links plan.target).toOption.getD files

/-- `rollback`: undo the applied changes, the last one first. -/
def rollback (links : Nat) (applied : List PlannedChange) (files : Files) : Files :=
  applied.foldr (rollbackOne links) files

/-- The loop of `apply_plans` after some changes have been applied. -/
def applyLoop (fault : Option Fault) :
    List PlannedChange → List PlannedChange → Fallible Disk PatchError Unit
  | _, [] => pure ()
  | applied, plan :: rest => do
      match ← Fallible.attempt id (fun disk _ => disk) (applyOne fault plan) with
      | .ok () => applyLoop fault (applied ++ [plan]) rest
      | .error error => do
          modify fun disk => { disk with files := rollback disk.links applied disk.files }
          throw (.transaction (displayError error))

/-- The report on a change that was made. -/
def PlannedChange.report (plan : PlannedChange) : PatchFileChange :=
  ⟨plan.relative, plan.kind, plan.addedLines, plan.removedLines⟩

/-- `apply_plans`. -/
def applyPlans (plans : List PlannedChange) :
    Fallible Disk PatchError (List PatchFileChange) := do
  applyLoop fault [] plans
  return plans.map PlannedChange.report

/-- The part of `apply_patch` before any file is touched: the canonical root of the
workspace, the parsed changes and their plans. -/
def planPatch (disk : Disk) (request : PatchApplyRequest) :
    Except PatchError (Place × List ParsedChange × List PlannedChange) := do
  request.grant.validate.mapError .invalidGrant
  refuseIf (!request.grant.workspace.legacyRead) .readNotGranted
  refuseIf (!request.grant.allowWrite) .writeNotGranted
  let root ← disk.canonicalizePath request.grant.workspace.root
  let workingDirectory ← disk.canonicalizePath request.grant.workingDirectory
  refuseIf (¬ root <+: workingDirectory)
    (.outsideWorkspace (.ofPlace workingDirectory) (.ofPlace root))
  let changes ← parsePatch request.patch
  let plans ← buildPlans disk root changes
  return (root, changes, plans)

/-- `apply_patch`. -/
def applyPatch (request : PatchApplyRequest) :
    Fallible Disk PatchError (List PatchFileChange) := do
  let disk ← get
  let (_, _, plans) ← Fallible.ofExcept (planPatch disk request)
  applyPlans fault plans

end ToolPatch
end YunXi
