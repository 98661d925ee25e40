import YunXi.Program.FileTree
import Mathlib.Logic.Function.Basic

/-!
# Changing files in a tree

Files and links come and go in directories that stay.  Writing follows a link; removing
and renaming do not.
-/

namespace YunXi
namespace FileTree

variable {ν κ : Type} (tree : FileTree ν κ)

/-- Places that can be given or lose a file: they hang in a directory and are none. -/
def Settable (place : List ν) : Prop :=
  tree.isDirectory place.dropLast = true ∧ tree.isDirectory place = false

instance (place : List ν) : Decidable (tree.Settable place) :=
  inferInstanceAs (Decidable (_ ∧ _))

theorem Settable.ne_nil {tree : FileTree ν κ} {place : List ν}
    (settable : tree.Settable place) : place ≠ [] := by
  rintro rfl
  exact isDirectory_eq_false.mp settable.2 tree.node_root

section Places

variable {tree} {links : Nat} {place : List ν}

/-- A settable place is a name in a directory. -/
theorem Settable.split (settable : tree.Settable place) :
    ∃ directory name, place = directory ++ [name] ∧ tree.isDirectory directory = true := by
  rcases List.eq_nil_or_concat' place with rfl | ⟨directory, name, rfl⟩
  · exact absurd rfl settable.ne_nil
  · have isDirectory := settable.1
    rw [List.dropLast_concat] at isDirectory
    exact ⟨directory, name, rfl, isDirectory⟩

/-- From a directory, the steps to a name in it are that name. -/
theorem leads_stepsTo_name {directory target : List ν} {name : ν}
    (isDirectory : tree.isDirectory directory = true) :
    Leads tree links [] (stepsTo (directory ++ [name])) target ↔
      Leads tree links directory [.down name] target := by
  have down : Leads tree links [] (stepsTo directory ++ [.down name]) target ↔
      Leads tree links ([] ++ directory) [.down name] target :=
    Leads.stepsTo_append isDirectory
  rwa [List.nil_append, ← show stepsTo (directory ++ [name]) = stepsTo directory ++
    [PathStep.down name] by simp [stepsTo]] at down

theorem entry_of_settable (settable : tree.Settable place) :
    tree.entry links place = .ok place := by
  obtain ⟨directory, name, rfl, isDirectory⟩ := settable.split
  have canonical : tree.canonicalize links [] (stepsTo directory) = .ok directory := by
    rw [canonicalize_eq_ok, isDirectory_eq_true.mp isDirectory]
    exact ⟨.of_isDirectory isDirectory, by simp⟩
  unfold entry
  rw [List.getLast?_concat, List.dropLast_concat, canonical]
  exact if_pos isDirectory

/-- A path to a file, or to nothing, ends there. -/
theorem leads_of_settable (settable : tree.Settable place)
    (notWay : ∀ node, tree.node place = some node → node.isWay = false) :
    Leads tree links [] (stepsTo place) place := by
  obtain ⟨directory, name, rfl, isDirectory⟩ := settable.split
  exact (leads_stepsTo_name isDirectory).mpr (.last notWay)

variable {content : κ}

theorem settable_of_file (isFile : tree.node place = some (.file content)) :
    tree.Settable place := by
  have notRoot : place ≠ [] := by
    rintro rfl
    cases tree.node_root.symm.trans isFile
  refine ⟨isDirectory_eq_true.mpr (tree.node_parent place notRoot (by rw [isFile]; simp)), ?_⟩
  rw [isDirectory_eq_false, isFile]
  simp

theorem canonicalize_of_file (isFile : tree.node place = some (.file content)) :
    tree.canonicalize links [] (stepsTo place) = .ok place := by
  rw [canonicalize_eq_ok, isFile]
  refine ⟨leads_of_settable (settable_of_file isFile) ?_, by simp⟩
  rw [isFile]
  rintro _ ⟨⟩
  rfl

theorem pathExists_of_file (isFile : tree.node place = some (.file content)) :
    tree.pathExists links place = true := by
  unfold pathExists
  rw [canonicalize_of_file isFile]
  rfl

/-- A file is read where it stands. -/
theorem read_of_file (isFile : tree.node place = some (.file content)) :
    tree.read links place = .ok content := by
  unfold read
  rw [canonicalize_of_file isFile, Except.bind_eq_ok]
  refine ⟨place, rfl, ?_⟩
  rw [isFile]

end Places

variable [DecidableEq ν]

/-- The tree in which a settable place holds something else. -/
def set (place : List ν) (node : Option (Node ν κ)) (settable : tree.Settable place) :
    FileTree ν κ where
  node := Function.update tree.node place node
  node_root := by
    rw [Function.update_of_ne settable.ne_nil.symm, tree.node_root]
  node_parent := by
    intro other notRoot occupied
    have notPlace : tree.node other.dropLast = some .directory → other.dropLast ≠ place := by
      rintro isDirectory rfl
      exact isDirectory_eq_false.mp settable.2 isDirectory
    by_cases same : other = place
    · subst same
      have parent := isDirectory_eq_true.mp settable.1
      rw [Function.update_of_ne (notPlace parent), parent]
    · rw [Function.update_of_ne same] at occupied
      have parent := tree.node_parent other notRoot occupied
      rw [Function.update_of_ne (notPlace parent), parent]

/-- Give a settable place a file or a link, or leave it empty. -/
def put (place : List ν) (node : Option (Node ν κ)) : FileTree ν κ :=
  if settable : tree.Settable place then tree.set place node settable else tree

variable (links : Nat)

/-- Write a file, where a link leads or where there is none yet. -/
def write (place : List ν) (content : κ) : Except FileError (FileTree ν κ) := do
  let target ← tree.resolve links [] (stepsTo place)
  if tree.Settable target then .ok (tree.put target (some (.file content)))
  else .error .isADirectory

/-- Remove a file or a link. -/
def removeFile (place : List ν) : Except FileError (FileTree ν κ) := do
  let target ← tree.entry links place
  if tree.node target = none then .error .notFound
  else if tree.Settable target then .ok (tree.put target none)
  else .error .isADirectory

/-- Move a file or a link, replacing a file or a link that is in its way. -/
def rename (source target : List ν) : Except FileError (FileTree ν κ) := do
  let source ← tree.entry links source
  let target ← tree.entry links target
  if tree.node source = none then .error .notFound
  else if source = target then .ok tree
  else if tree.Settable source ∧ tree.Settable target then
    .ok ((tree.put source none).put target (tree.node source))
  else .error .isADirectory

variable {tree links} {place other : List ν} {node : Option (Node ν κ)}

@[simp] theorem node_put_self (settable : tree.Settable place) :
    (tree.put place node).node place = node := by
  rw [put, dif_pos settable]
  exact Function.update_self place node tree.node

@[simp] theorem node_put_of_ne (differ : other ≠ place) :
    (tree.put place node).node other = tree.node other := by
  unfold put
  split
  case isTrue => exact Function.update_of_ne differ node tree.node
  case isFalse => rfl

/-- Files and links come and go, directories stay. -/
theorem isDirectory_put (leaf : node ≠ some .directory) :
    (tree.put place node).isDirectory other = tree.isDirectory other := by
  by_cases settable : tree.Settable place
  · by_cases same : other = place
    · subst same
      rw [settable.2, isDirectory_eq_false, node_put_self settable]
      exact leaf
    · rw [isDirectory, node_put_of_ne same, isDirectory]
  · rw [put, dif_neg settable]

theorem settable_put (leaf : node ≠ some .directory) :
    (tree.put place node).Settable other ↔ tree.Settable other := by
  unfold Settable
  rw [isDirectory_put leaf, isDirectory_put leaf]

/-- Where a tree has no way, putting a file or nothing somewhere makes none. -/
theorem notWay_put (leaf : ∀ found, node = some found → found.isWay = false)
    (notWay : ∀ found, tree.node other = some found → found.isWay = false) :
    ∀ found, (tree.put place node).node other = some found → found.isWay = false := by
  by_cases settable : tree.Settable place
  · by_cases same : other = place
    · rw [same, node_put_self settable]
      exact leaf
    · rw [node_put_of_ne same]
      exact notWay
  · rw [put, dif_neg settable]
    exact notWay

theorem write_of_settable (settable : tree.Settable place)
    (notWay : ∀ node, tree.node place = some node → node.isWay = false) (content : κ) :
    tree.write links place content = .ok (tree.put place (some (.file content))) := by
  unfold write
  rw [resolve_eq_ok.mpr (leads_of_settable settable notWay)]
  exact if_pos settable

theorem removeFile_of_settable (settable : tree.Settable place)
    (occupied : tree.node place ≠ none) :
    tree.removeFile links place = .ok (tree.put place none) := by
  unfold removeFile
  rw [entry_of_settable settable]
  exact (if_neg occupied).trans (if_pos settable)

theorem rename_of_settable {source : List ν} (sourceSettable : tree.Settable source)
    (settable : tree.Settable place) (occupied : tree.node source ≠ none)
    (differ : source ≠ place) :
    tree.rename links source place =
      .ok ((tree.put source none).put place (tree.node source)) := by
  unfold rename
  rw [entry_of_settable sourceSettable, entry_of_settable settable]
  exact (if_neg occupied).trans
    ((if_neg differ).trans (if_pos ⟨sourceSettable, settable⟩))

/-- Nothing can be written below a file or below nothing. -/
theorem write_below_leaf (settable : tree.Settable place)
    (notWay : ∀ node, tree.node place = some node → node.isWay = false)
    (name : ν) (content : κ) :
    ∃ error, tree.write links (place ++ [name]) content = .error error := by
  obtain ⟨directory, file, rfl, isDirectory⟩ := settable.split
  unfold write
  cases resolved : tree.resolve links [] (stepsTo ((directory ++ [file]) ++ [name])) with
  | error error => exact ⟨error, rfl⟩
  | ok target =>
      exfalso
      have down : Leads tree links [] (stepsTo directory ++ [.down file, .down name]) target ↔
          Leads tree links ([] ++ directory) [.down file, .down name] target :=
        Leads.stepsTo_append isDirectory
      have leads := leads_of_resolve resolved
      rw [show stepsTo ((directory ++ [file]) ++ [name]) =
        stepsTo directory ++ [.down file, .down name] by simp [stepsTo], down] at leads
      cases leads with
      | into isDirectory _ => cases notWay _ isDirectory
      | follow isLink _ => cases notWay _ isLink

end FileTree
end YunXi
