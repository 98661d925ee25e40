import YunXi.Program.Checked
import Mathlib.Data.List.Induction

/-!
# File trees with symbolic links

A place is the list of names from the root to a node.  A path is a list of steps that is
walked from a place, and walking follows symbolic links.  Every node of a tree hangs in a
directory, so a file or a link never has anything below it.
-/

namespace YunXi

/-- One step of a path; a slash at the end of a path is a step that stays. -/
inductive PathStep (ν : Type)
  | stay
  | up
  | down (name : ν)
  deriving DecidableEq, Repr

/-- What a place can hold. -/
inductive Node (ν κ : Type)
  | directory
  | file (content : κ)
  | link (fromRoot : Bool) (steps : List (PathStep ν))
  deriving DecidableEq, Repr

namespace Node

variable {ν κ : Type}

def isDirectory : Node ν κ → Bool
  | directory => true
  | _ => false

def isFile : Node ν κ → Bool
  | file _ => true
  | _ => false

/-- Nodes that a walk goes on behind. -/
def isWay : Node ν κ → Bool
  | directory | link _ _ => true
  | file _ => false

end Node

/-- Why a file operation fails. -/
inductive FileError
  | notFound
  | notADirectory
  | isADirectory
  | tooManyLinks
  | other (message : String)
  deriving DecidableEq, Repr

/-- A tree whose nodes all hang in directories. -/
@[ext] structure FileTree (ν κ : Type) where
  node : List ν → Option (Node ν κ)
  node_root : node [] = some .directory
  node_parent : ∀ place, place ≠ [] → node place ≠ none →
    node place.dropLast = some .directory

namespace FileTree

/-- The tree that holds nothing. -/
def bare (ν κ : Type) : FileTree ν κ where
  node
    | [] => some .directory
    | _ :: _ => none
  node_root := rfl
  node_parent := by
    intro place notRoot occupied
    cases place with
    | nil => exact absurd rfl notRoot
    | cons name rest => exact absurd rfl occupied

variable {ν κ : Type} (tree : FileTree ν κ) (links : Nat)

def isDirectory (place : List ν) : Bool :=
  (tree.node place).any Node.isDirectory

def isFile (place : List ν) : Bool :=
  (tree.node place).any Node.isFile

/-- Walk down from a place; `follow` goes on behind a link. -/
def walk (follow : List ν → List (PathStep ν) → Except FileError (List ν)) :
    List ν → List (PathStep ν) → Except FileError (List ν)
  | place, [] => .ok place
  | place, .stay :: rest => walk follow place rest
  | place, .up :: rest => walk follow place.dropLast rest
  | place, .down name :: rest =>
      match tree.node (place ++ [name]) with
      | none => if rest = [] then .ok (place ++ [name]) else .error .notFound
      | some (.file _) => if rest = [] then .ok (place ++ [name]) else .error .notADirectory
      | some .directory => walk follow (place ++ [name]) rest
      | some (.link fromRoot steps) => follow (if fromRoot then [] else place) (steps ++ rest)

/-- The place that a path names when at most `links` links are followed.  The last name
need not exist. -/
def resolve : Nat → List ν → List (PathStep ν) → Except FileError (List ν)
  | 0 => tree.walk fun _ _ => .error .tooManyLinks
  | links + 1 => tree.walk (resolve links)

/-- The steps of a path without links or dots. -/
def stepsTo (place : List ν) : List (PathStep ν) :=
  place.map .down

/-- The place of the node that a path names. -/
def canonicalize (start : List ν) (steps : List (PathStep ν)) : Except FileError (List ν) := do
  let place ← tree.resolve links start steps
  if (tree.node place).isSome then .ok place else .error .notFound

/-- The place a path names when a link at its end is not followed. -/
def entry (place : List ν) : Except FileError (List ν) :=
  match place.getLast? with
  | none => .error .isADirectory
  | some name => do
      let directory ← tree.canonicalize links [] (stepsTo place.dropLast)
      if tree.isDirectory directory then .ok (directory ++ [name]) else .error .notADirectory

/-- Whether a path leads to a node. -/
def pathExists (place : List ν) : Bool :=
  (tree.canonicalize links [] (stepsTo place)).isOk

/-- Read the file that a path leads to. -/
def read (place : List ν) : Except FileError κ := do
  let place ← tree.canonicalize links [] (stepsTo place)
  match tree.node place with
  | some (.file content) => .ok content
  | some .directory => .error .isADirectory
  | _ => .error .notFound

/-- A path leads from a place to another by following at most so many links. -/
inductive Leads (tree : FileTree ν κ) : Nat → List ν → List (PathStep ν) → List ν → Prop
  | done {links : Nat} {place : List ν} : Leads tree links place [] place
  | stay {links : Nat} {place target : List ν} {rest : List (PathStep ν)} :
      Leads tree links place rest target → Leads tree links place (.stay :: rest) target
  | up {links : Nat} {place target : List ν} {rest : List (PathStep ν)} :
      Leads tree links place.dropLast rest target → Leads tree links place (.up :: rest) target
  | last {links : Nat} {place : List ν} {name : ν} :
      (∀ node, tree.node (place ++ [name]) = some node → node.isWay = false) →
      Leads tree links place [.down name] (place ++ [name])
  | into {links : Nat} {place target : List ν} {name : ν} {rest : List (PathStep ν)} :
      tree.node (place ++ [name]) = some .directory →
      Leads tree links (place ++ [name]) rest target →
      Leads tree links place (.down name :: rest) target
  | follow {links : Nat} {place target : List ν} {name : ν} {rest : List (PathStep ν)}
      {fromRoot : Bool} {steps : List (PathStep ν)} :
      tree.node (place ++ [name]) = some (.link fromRoot steps) →
      Leads tree links (if fromRoot then [] else place) (steps ++ rest) target →
      Leads tree (links + 1) place (.down name :: rest) target

variable {tree links} {place target : List ν} {steps : List (PathStep ν)}

/-- Walking with a follower that leads only where the link does. -/
theorem leads_of_walk {follow : List ν → List (PathStep ν) → Except FileError (List ν)}
    (following : ∀ {place name rest target fromRoot steps},
      tree.node (place ++ [name]) = some (.link fromRoot steps) →
      follow (if fromRoot then [] else place) (steps ++ rest) = .ok target →
      Leads tree links place (.down name :: rest) target)
    (walked : tree.walk follow place steps = .ok target) :
    Leads tree links place steps target := by
  induction steps generalizing place with
  | nil =>
      cases walked
      exact .done
  | cons step rest ih =>
      cases step with
      | stay => exact .stay (ih walked)
      | up => exact .up (ih walked)
      | down name =>
          rw [walk] at walked
          split at walked
          case h_1 empty =>
            split at walked
            case isTrue isEnd =>
              cases walked
              subst isEnd
              exact .last (by rw [empty]; simp)
            case isFalse => cases walked
          case h_2 content isFile =>
            split at walked
            case isTrue isEnd =>
              cases walked
              subst isEnd
              exact .last (by rw [isFile]; simp [Node.isWay])
            case isFalse => cases walked
          case h_3 isDirectory => exact .into isDirectory (ih walked)
          case h_4 fromRoot steps isLink => exact following isLink walked

theorem leads_of_resolve (resolved : tree.resolve links place steps = .ok target) :
    Leads tree links place steps target := by
  induction links generalizing place steps target with
  | zero => exact leads_of_walk (fun _ impossible => by cases impossible) resolved
  | succ links ih =>
      exact leads_of_walk (fun isLink followed => .follow isLink (ih followed))
        resolved

/-- The last name of a path need not exist. -/
theorem walk_last (follow : List ν → List (PathStep ν) → Except FileError (List ν))
    {name : ν}
    (notWay : ∀ node, tree.node (place ++ [name]) = some node → node.isWay = false) :
    tree.walk follow place [.down name] = .ok (place ++ [name]) := by
  rw [walk]
  split
  case h_1 => rfl
  case h_2 => rfl
  case h_3 isDirectory => cases notWay _ isDirectory
  case h_4 isLink => cases notWay _ isLink

theorem Leads.resolve (leads : Leads tree links place steps target) :
    tree.resolve links place steps = .ok target := by
  induction leads with
  | @done links place => cases links <;> rfl
  | @stay links place target rest _ ih =>
      rw [← ih]
      cases links <;> rfl
  | @up links place target rest _ ih =>
      rw [← ih]
      cases links <;> rfl
  | @last links place name notWay => cases links <;> exact walk_last _ notWay
  | @into links place target name rest isDirectory _ ih =>
      rw [← ih]
      cases links <;> rw [FileTree.resolve, walk, isDirectory]
  | @follow links place target name rest fromRoot steps isLink _ ih =>
      rw [FileTree.resolve, walk, isLink]
      exact ih

/-- Resolving a path computes where it leads. -/
theorem resolve_eq_ok :
    tree.resolve links place steps = .ok target ↔ Leads tree links place steps target :=
  ⟨leads_of_resolve, Leads.resolve⟩

theorem isOk_eq_true {result : Except FileError (List ν)} :
    result.isOk = true ↔ ∃ target, result = .ok target := by
  cases result <;> simp [Except.isOk, Except.toBool]

theorem canonicalize_eq_ok : tree.canonicalize links place steps = .ok target ↔
      Leads tree links place steps target ∧ tree.node target ≠ none := by
  unfold canonicalize
  rw [Except.bind_eq_ok, ← resolve_eq_ok]
  constructor
  · rintro ⟨found, resolved, occupied⟩
    split at occupied
    case isTrue isSome =>
      cases occupied
      exact ⟨resolved, Option.isSome_iff_ne_none.mp isSome⟩
    case isFalse => cases occupied
  · rintro ⟨resolved, occupied⟩
    exact ⟨target, resolved, if_pos (Option.isSome_iff_ne_none.mpr occupied)⟩

theorem pathExists_eq_true : tree.pathExists links place = true ↔
      ∃ target, Leads tree links [] (stepsTo place) target ∧ tree.node target ≠ none := by
  unfold pathExists
  rw [isOk_eq_true]
  exact exists_congr fun _ => canonicalize_eq_ok

/-- Where a path leads to no node, nothing is read. -/
theorem toOption_read_of_not_pathExists (notFound : tree.pathExists links place = false) :
    (tree.read links place).toOption = none := by
  unfold pathExists at notFound
  unfold read
  cases canonical : tree.canonicalize links [] (stepsTo place) with
  | ok target =>
      rw [canonical] at notFound
      cases notFound
  | error error => rfl

theorem isDirectory_eq_true : tree.isDirectory place = true ↔ tree.node place = some .directory := by
  unfold isDirectory
  cases tree.node place with
  | none => simp
  | some node => cases node <;> simp [Node.isDirectory]

theorem isDirectory_eq_false :
    tree.isDirectory place = false ↔ tree.node place ≠ some .directory := by
  rw [← Bool.not_eq_true, ne_eq, isDirectory_eq_true]

theorem isFile_eq_true :
    tree.isFile place = true ↔ ∃ content, tree.node place = some (.file content) := by
  unfold isFile
  cases tree.node place with
  | none => simp
  | some node => cases node <;> simp [Node.isFile]

theorem isDirectory_root : tree.isDirectory [] = true :=
  isDirectory_eq_true.mpr tree.node_root

theorem isDirectory_dropLast (isDirectory : tree.isDirectory place = true) :
    tree.isDirectory place.dropLast = true := by
  by_cases isRoot : place = []
  · rw [isRoot]
    exact isDirectory_root
  · rw [isDirectory_eq_true] at *
    exact tree.node_parent place isRoot (by rw [isDirectory]; simp)

/-- Links lead on from a directory. -/
theorem isDirectory_base (isDirectory : tree.isDirectory place = true) (fromRoot : Bool) :
    tree.isDirectory (if fromRoot then [] else place) = true := by
  cases fromRoot
  · exact isDirectory
  · exact isDirectory_root

/-- What has something below it is a directory. -/
theorem isDirectory_of_append {rest : List ν} (below : rest ≠ [])
    (occupied : tree.node (place ++ rest) ≠ none) :
    tree.isDirectory place = true := by
  induction rest using List.reverseRecOn with
  | nil => exact absurd rfl below
  | append_singleton rest name ih =>
      have parent := tree.node_parent (place ++ (rest ++ [name])) (by simp) occupied
      rw [← List.append_assoc, List.dropLast_concat] at parent
      by_cases isEmpty : rest = []
      · rw [isDirectory_eq_true]
        rwa [isEmpty, List.append_nil] at parent
      · exact ih isEmpty (by rw [parent]; simp)

namespace Leads

/-- More links may be followed than are needed. -/
theorem mono {more : Nat} (leads : Leads tree links place steps target)
    (enough : links ≤ more) : Leads tree more place steps target := by
  induction leads generalizing more with
  | done => exact .done
  | stay _ ih => exact .stay (ih enough)
  | up _ ih => exact .up (ih enough)
  | last notWay => exact .last notWay
  | into isDirectory _ ih =>
      exact .into isDirectory (ih enough)
  | follow isLink _ ih =>
      cases more with
      | zero => cases enough
      | succ more => exact .follow isLink (ih (Nat.le_of_succ_le_succ enough))

variable {rest : List (PathStep ν)}

/-- The first part of a path that goes on leads to a directory. -/
theorem split {first : List (PathStep ν)}
    (leads : Leads tree links place (first ++ rest) target)
    (goesOn : rest ≠ [])
    (isDirectory : tree.isDirectory place = true) :
    ∃ middle, Leads tree links place first middle ∧ tree.isDirectory middle = true := by
  generalize stepsEq : first ++ rest = steps at leads
  induction leads generalizing first with
  | done =>
      rw [List.append_eq_nil_iff] at stepsEq
      exact absurd stepsEq.2 goesOn
  | stay _ ih =>
      rcases List.append_eq_cons_iff.mp stepsEq with ⟨rfl, -⟩ | ⟨more, rfl, rfl⟩
      · exact ⟨_, .done, isDirectory⟩
      · obtain ⟨middle, leads, middleIsDirectory⟩ := ih isDirectory rfl
        exact ⟨middle, .stay leads, middleIsDirectory⟩
  | up _ ih =>
      rcases List.append_eq_cons_iff.mp stepsEq with ⟨rfl, -⟩ | ⟨more, rfl, rfl⟩
      · exact ⟨_, .done, isDirectory⟩
      · obtain ⟨middle, leads, middleIsDirectory⟩ :=
          ih (isDirectory_dropLast isDirectory) rfl
        exact ⟨middle, .up leads, middleIsDirectory⟩
  | last notWay =>
      rcases List.append_eq_cons_iff.mp stepsEq with ⟨rfl, -⟩ | ⟨more, rfl, isEnd⟩
      · exact ⟨_, .done, isDirectory⟩
      · rw [eq_comm, List.append_eq_nil_iff] at isEnd
        exact absurd isEnd.2 goesOn
  | into nextIsDirectory _ ih =>
      rcases List.append_eq_cons_iff.mp stepsEq with ⟨rfl, -⟩ | ⟨more, rfl, rfl⟩
      · exact ⟨_, .done, isDirectory⟩
      · obtain ⟨middle, leads, middleIsDirectory⟩ :=
          ih (isDirectory_eq_true.mpr nextIsDirectory) rfl
        exact ⟨middle, .into nextIsDirectory leads, middleIsDirectory⟩
  | @follow links place target name after fromRoot steps isLink _ ih =>
      rcases List.append_eq_cons_iff.mp stepsEq with ⟨rfl, -⟩ | ⟨more, rfl, rfl⟩
      · exact ⟨_, .done, isDirectory⟩
      · have baseIsDirectory := isDirectory_base isDirectory fromRoot
        obtain ⟨middle, leads, middleIsDirectory⟩ :=
          ih baseIsDirectory (List.append_assoc steps more rest)
        exact ⟨middle, .follow isLink leads, middleIsDirectory⟩

/-- Behind a directory the walk goes on. -/
theorem down_directory {name : ν}
    (isDirectory : tree.node (place ++ [name]) = some .directory) :
    Leads tree links place (.down name :: rest) target ↔
      Leads tree links (place ++ [name]) rest target := by
  constructor
  · intro leads
    cases leads with
    | last notWay => cases notWay _ isDirectory
    | into _ leads => exact leads
    | follow isLink _ => cases isDirectory.symm.trans isLink
  · exact .into isDirectory

/-- A walk never ends at a link. -/
theorem not_link (leads : Leads tree links place steps target)
    (isDirectory : tree.isDirectory place = true) (fromRoot : Bool)
    (linkSteps : List (PathStep ν)) : tree.node target ≠ some (.link fromRoot linkSteps) := by
  induction leads with
  | done =>
      rw [isDirectory_eq_true.mp isDirectory]
      simp
  | stay _ ih => exact ih isDirectory
  | up _ ih => exact ih (isDirectory_dropLast isDirectory)
  | last notWay =>
      intro isLink
      cases notWay _ isLink
  | into nextIsDirectory _ ih =>
      exact ih (isDirectory_eq_true.mpr nextIsDirectory)
  | @follow _ _ _ _ _ throughRoot _ _ _ ih =>
      exact ih (isDirectory_base isDirectory throughRoot)

/-- A path that goes down directories goes straight down. -/
theorem stepsTo_append {start names : List ν}
    (isDirectory : tree.isDirectory (start ++ names) = true) :
    Leads tree links start (stepsTo names ++ rest) target ↔
      Leads tree links (start ++ names) rest target := by
  induction names generalizing start with
  | nil => simp [stepsTo]
  | cons name names ih =>
      have nextIsDirectory : tree.node (start ++ [name]) = some .directory := by
        rw [← isDirectory_eq_true]
        by_cases isEmpty : names = []
        · rwa [isEmpty] at isDirectory
        · apply isDirectory_of_append isEmpty
          rw [List.append_assoc, List.singleton_append, isDirectory_eq_true.mp isDirectory]
          simp
      have further : tree.isDirectory ((start ++ [name]) ++ names) = true := by
        rwa [List.append_assoc, List.singleton_append]
      have onwards := ih further
      rw [List.append_assoc, List.singleton_append] at onwards
      rw [← onwards]
      exact down_directory nextIsDirectory

/-- A directory is reached by its names. -/
theorem of_isDirectory (isDirectory : tree.isDirectory place = true) :
    Leads tree links [] (stepsTo place) place := by
  have down : Leads tree links [] (stepsTo place ++ []) place ↔
      Leads tree links ([] ++ place) [] place := stepsTo_append isDirectory
  rw [List.append_nil] at down
  exact down.mpr .done

variable {later : FileTree ν κ}

/-- Where the ways are the same and the target is no new way, a path leads there too. -/
theorem transfer (leads : Leads tree links place steps target)
    (sameWays : ∀ other node, tree.node other = some node → node.isWay = true →
      later.node other = some node)
    (sameEnd : later.node target = tree.node target ∨
      ∀ node, later.node target = some node → node.isWay = false) :
    Leads later links place steps target := by
  induction leads with
  | done => exact .done
  | stay _ ih => exact .stay (ih sameEnd)
  | up _ ih => exact .up (ih sameEnd)
  | last notWay =>
      apply last
      intro node occupied
      rcases sameEnd with same | notWayLater
      · exact notWay node (same ▸ occupied)
      · exact notWayLater node occupied
  | into isDirectory _ ih =>
      exact .into (sameWays _ _ isDirectory rfl) (ih sameEnd)
  | follow isLink _ ih =>
      exact .follow (sameWays _ _ isLink rfl) (ih sameEnd)

/-- A name in a directory that leads to no node. -/
def IsDead (tree : FileTree ν κ) (links : Nat) (place : List ν) (name : ν) : Prop :=
  ∀ target, Leads tree links place [.down name] target → tree.node target = none

theorem not_isDead_of_directory {name : ν}
    (isDirectory : tree.node (place ++ [name]) = some .directory) :
    ¬ IsDead tree links place name := by
  intro dead
  have isNone := dead _ (.into isDirectory .done)
  rw [isDirectory] at isNone
  cases isNone

/-- Where a link stands, a path that goes on behind it needs a directory there. -/
theorem behind_link {limit : Nat} {name : ν} {fromRoot : Bool}
    (isDirectory : tree.isDirectory place = true)
    (isLink : tree.node (place ++ [name]) = some (.link fromRoot steps))
    (leads : Leads tree links (if fromRoot then [] else place) (steps ++ rest) target)
    (within : links + 1 ≤ limit) (goesOn : rest ≠ []) :
    ∃ middle, Leads tree limit place [.down name] middle ∧
      tree.isDirectory middle = true := by
  have baseIsDirectory := isDirectory_base isDirectory fromRoot
  obtain ⟨middle, toMiddle, middleIsDirectory⟩ := leads.split goesOn baseIsDirectory
  refine ⟨middle, ?_, middleIsDirectory⟩
  rw [← List.append_nil steps] at toMiddle
  exact (Leads.follow isLink toMiddle).mono within

/-- Replacing files and dead names by files or nothing leaves alone every path that leads
to a node. -/
theorem persist {limit : Nat}
    (leads : Leads tree links place steps target)
    (occupied : tree.node target ≠ none)
    (isDirectory : tree.isDirectory place = true)
    (within : links ≤ limit)
    (notWay : ∀ other, later.node other ≠ tree.node other →
      ∀ node, later.node other = some node → node.isWay = false)
    (wasLeaf : ∀ place name, later.node (place ++ [name]) ≠ tree.node (place ++ [name]) →
      (∃ content, tree.node (place ++ [name]) = some (.file content)) ∨
        IsDead tree limit place name) :
    Leads later links place steps target := by
  induction leads with
  | done => exact .done
  | stay _ ih => exact .stay (ih occupied isDirectory within)
  | up _ ih =>
      exact .up (ih occupied (isDirectory_dropLast isDirectory) within)
  | @last links place name notWayBefore =>
      apply last
      by_cases same : later.node (place ++ [name]) = tree.node (place ++ [name])
      · rwa [same]
      · exact notWay _ same
  | @into links place target name rest nextIsDirectory _ ih =>
      have same : later.node (place ++ [name]) = tree.node (place ++ [name]) := by
        by_contra differ
        rcases wasLeaf place name differ with ⟨content, isFile⟩ | dead
        · cases nextIsDirectory.symm.trans isFile
        · exact not_isDead_of_directory nextIsDirectory dead
      exact .into (same.trans nextIsDirectory)
        (ih occupied (isDirectory_eq_true.mpr nextIsDirectory) within)
  | @follow links place target name rest fromRoot steps isLink leads ih =>
      have same : later.node (place ++ [name]) = tree.node (place ++ [name]) := by
        by_contra differ
        rcases wasLeaf place name differ with ⟨content, isFile⟩ | dead
        · cases isLink.symm.trans isFile
        · by_cases isEnd : rest = []
          · subst isEnd
            exact occupied (dead _ ((Leads.follow isLink leads).mono within))
          · obtain ⟨middle, toMiddle, middleIsDirectory⟩ :=
              behind_link isDirectory isLink leads within isEnd
            have isNone := dead middle toMiddle
            rw [isDirectory_eq_true.mp middleIsDirectory] at isNone
            cases isNone
      have baseIsDirectory := isDirectory_base isDirectory fromRoot
      exact .follow (same.trans isLink) (ih occupied baseIsDirectory
        (Nat.le_of_succ_le within))

/-- Replacing links by files still leaves something where a path led to a node, if none of
the links led to a directory. -/
theorem reaches {limit : Nat}
    (leads : Leads tree links place steps target)
    (isDirectory : tree.isDirectory place = true)
    (within : links ≤ limit)
    (nowFile : ∀ other node, tree.node other = some node → node.isWay = true →
      later.node other ≠ tree.node other → ∃ content, later.node other = some (.file content))
    (noPassage : ∀ place name, later.node (place ++ [name]) ≠ tree.node (place ++ [name]) →
      ∀ middle, Leads tree limit place [.down name] middle → tree.isDirectory middle = false)
    (atEnd : ∃ content, later.node target = some (.file content)) :
    ∃ reached, Leads later links place steps reached ∧ later.node reached ≠ none := by
  induction leads with
  | done =>
      obtain ⟨content, isFile⟩ := atEnd
      exact ⟨_, .done, by rw [isFile]; simp⟩
  | stay _ ih =>
      obtain ⟨reached, leads, occupied⟩ := ih isDirectory within atEnd
      exact ⟨reached, .stay leads, occupied⟩
  | up _ ih =>
      obtain ⟨reached, leads, occupied⟩ :=
        ih (isDirectory_dropLast isDirectory) within atEnd
      exact ⟨reached, .up leads, occupied⟩
  | @last links place name notWayBefore =>
      obtain ⟨content, isFile⟩ := atEnd
      refine ⟨_, .last ?_, by rw [isFile]; simp⟩
      rintro node occupied
      cases isFile.symm.trans occupied
      rfl
  | @into links place target name rest nextIsDirectory _ ih =>
      have same : later.node (place ++ [name]) = tree.node (place ++ [name]) := by
        by_contra differ
        have passed := noPassage place name differ _ (.into nextIsDirectory .done)
        rw [isDirectory_eq_true.mpr nextIsDirectory] at passed
        cases passed
      obtain ⟨reached, leads, occupied⟩ :=
        ih (isDirectory_eq_true.mpr nextIsDirectory) within atEnd
      exact ⟨reached, .into (same.trans nextIsDirectory) leads, occupied⟩
  | @follow links place target name rest fromRoot steps isLink leads ih =>
      have baseIsDirectory := isDirectory_base isDirectory fromRoot
      by_cases same : later.node (place ++ [name]) = tree.node (place ++ [name])
      · obtain ⟨reached, leads, occupied⟩ :=
          ih baseIsDirectory (Nat.le_of_succ_le within) atEnd
        exact ⟨reached, .follow (same.trans isLink) leads, occupied⟩
      · -- the walk now stops at the file, so it has to be at its end
        obtain ⟨content, isFile⟩ := nowFile _ _ isLink rfl same
        by_cases isEnd : rest = []
        · subst isEnd
          refine ⟨_, .last ?_, by rw [isFile]; simp⟩
          rintro node occupied
          cases isFile.symm.trans occupied
          rfl
        · obtain ⟨middle, toMiddle, middleIsDirectory⟩ :=
            behind_link isDirectory isLink leads within isEnd
          rw [noPassage place name same middle toMiddle] at middleIsDirectory
          cases middleIsDirectory

end Leads

end FileTree
end YunXi
