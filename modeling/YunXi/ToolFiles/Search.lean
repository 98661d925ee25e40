import YunXi.Protocol.Text
import YunXi.ToolFiles.Workspace

/-!
# Searching for files

A search goes through directories from a stack, each real one once, and keeps the entries whose
names contain the query.  It stops at a number of results and at a number of entries it has looked
at, and does not go below a depth.
-/

namespace YunXi
namespace ToolFiles

open FileTree (stepsTo)
open Strings (trimMatches startsWith)

variable {ν : Type} [LinearOrder ν]

def maxQueryBytes : Nat := 256
def maxSearchEntries : Nat := 4096
def maxSearchDepth : Nat := 32

structure FileSearchRequest (ν : Type) where
  grant : WorkspaceGrant ν
  root : FilePath ν
  query : String
  maxResults : Nat

structure FileSearchMatch where
  path : String
  isDirectory : Bool
  deriving DecidableEq

structure FileSearchResult where
  results : List FileSearchMatch
  truncated : Bool
  deriving DecidableEq

variable (machine : Machine ν)

/-- The entries of directories: what `fs::read_dir` gives, sorted by name. -/
structure Listing where
  names : List ν → List ν
  listed : ∀ place name, name ∈ names place ↔ machine.files.node (place ++ [name]) ≠ none
  sorted : ∀ place, (names place).Pairwise (· < ·)

/-- A match, by its real place. -/
structure Found (ν : Type) where
  place : List ν
  isDirectory : Bool
  deriving DecidableEq

structure SearchState (ν : Type) where
  stack : List (List ν × Nat)
  visited : List (List ν)
  results : List (Found ν)
  inspected : Nat
  truncated : Bool

def toAsciiLowercase (text : String) : String := String.ofList (text.toList.map Char.toLower)

section Search

variable (machine : Machine ν) (listing : Listing machine) (root : List ν) (query : String)
  (maxResults : Nat)

/-- The name of an entry starts with a dot. -/
def isHidden (name : ν) : Bool := startsWith "." (machine.lossy name)

/-- The name of an entry contains the query. -/
def nameContains (name : ν) : Bool :=
  query.toList <:+: (toAsciiLowercase (machine.lossy name)).toList

/-- Where an entry really is, if that is below the root. -/
def realPlace (directory : List ν) (name : ν) : Option (List ν) :=
  match machine.canonicalize (.ofPlace (directory ++ [name])) with
  | .error _ => none
  | .ok canonical => if root <+: canonical then some canonical else none

/-- A directory goes on the stack unless it is too deep. -/
def SearchState.pushDirectory (state : SearchState ν) (isDirectory : Bool) (canonical : List ν)
    (depth : Nat) : SearchState ν :=
  if isDirectory = true ∧ depth < maxSearchDepth then
    { state with stack := (canonical, depth + 1) :: state.stack }
  else state

/-- The loop over the entries of a directory. -/
def inspectEntries (directory : List ν) (depth : Nat) :
    List ν → SearchState ν → SearchState ν
  | [], state => state
  | name :: rest, state =>
      let state := { state with inspected := state.inspected + 1 }
      if state.inspected > maxSearchEntries then { state with truncated := true }
      else if isHidden machine name = true then inspectEntries directory depth rest state
      else
        match realPlace machine root directory name with
        | none => inspectEntries directory depth rest state
        | some canonical =>
            let isDirectory := machine.files.isDirectory canonical
            if nameContains machine query name = true then
              let state := { state with results := state.results ++ [Found.mk canonical isDirectory] }
              if state.results.length ≥ maxResults then { state with truncated := true }
              else inspectEntries directory depth rest
                (state.pushDirectory isDirectory canonical depth)
            else inspectEntries directory depth rest
              (state.pushDirectory isDirectory canonical depth)

/-- The loop over the stack; nothing once the fuel is used up. -/
def searchLoop : Nat → SearchState ν → Except (FileToolError ν) (Option (SearchState ν))
  | 0, _ => .ok none
  | fuel + 1, state =>
      match state.stack with
      | [] => .ok (some state)
      | (directory, depth) :: stack => do
          let state := { state with stack }
          let directory ← machine.canonicalize (.ofPlace directory)
          if ¬ root <+: directory ∨ directory ∈ state.visited then searchLoop fuel state
          else
            let state := { state with visited := directory :: state.visited }
            let state := inspectEntries machine root query maxResults directory depth
              (listing.names directory) state
            if state.truncated = true ∨ state.results.length ≥ maxResults then .ok (some state)
            else searchLoop fuel state

/-- The state of a search before its first directory. -/
def SearchState.start : SearchState ν where
  stack := [(root, 0)]
  visited := []
  results := []
  inspected := 0
  truncated := false

end Search

variable (listing : Listing machine)

variable (fuel : Nat)

variable (request : FileSearchRequest ν)

/-- `search_files`; nothing where the fuel does not suffice. -/
def searchFiles : Except (FileToolError ν) (Option FileSearchResult) := do
  ensureReadGrant request.grant
  let query := trimMatches Protocol.isWhiteSpace request.query
  refuseIf (query = "") .emptyQuery
  refuseIf (query.utf8ByteSize > maxQueryBytes) (.queryTooLong query.utf8ByteSize maxQueryBytes)
  refuseIf (request.maxResults = 0) .invalidLimit
  let workspaceRoot ← machine.canonicalize request.grant.root
  let root ← machine.resolveDirectory workspaceRoot request.root
  let ended ← searchLoop machine listing root (toAsciiLowercase query) request.maxResults fuel
    (.start root)
  return ended.map fun state =>
    { results := state.results.map fun found =>
        ⟨machine.relativePath workspaceRoot found.place, found.isDirectory⟩
      truncated := state.truncated }

/-- An entry of a directory. -/
structure Entry (ν : Type) where
  directory : List ν
  name : ν

section Order

variable (machine : Machine ν) (listing : Listing machine) (root : List ν) (query : String)

/-- The directory that goes on the stack for an entry. -/
def subdirectory (directory : List ν) (depth : Nat) (name : ν) : Option (List ν × Nat) :=
  if isHidden machine name = true then none
  else (realPlace machine root directory name).bind fun canonical =>
    if machine.files.isDirectory canonical = true ∧ depth < maxSearchDepth then
      some (canonical, depth + 1)
    else none

def subdirectories (directory : List ν) (depth : Nat) (names : List ν) : List (List ν × Nat) :=
  names.filterMap (subdirectory machine root directory depth)

/-- The entries that a search looks at, one directory after the other. -/
def searchOrder : Nat → List (List ν × Nat) → List (List ν) → List (Entry ν)
  | 0, _, _ => []
  | _ + 1, [], _ => []
  | fuel + 1, (directory, depth) :: stack, visited =>
      if directory ∈ visited then searchOrder fuel stack visited
      else
        (listing.names directory).map (⟨directory, ·⟩) ++
          searchOrder fuel
            ((subdirectories machine root directory depth (listing.names directory)).reverse ++
              stack)
            (directory :: visited)

/-- What an entry adds to the results. -/
def hit (entry : Entry ν) : Option (Found ν) :=
  if isHidden machine entry.name = true then none
  else if nameContains machine query entry.name = true then
    (realPlace machine root entry.directory entry.name).map fun canonical =>
      ⟨canonical, machine.files.isDirectory canonical⟩
  else none

/-- The directories reached from the root through names that are not hidden. -/
inductive Reached : List ν → Prop
  | root : Reached root
  | step {directory : List ν} {name : ν} {canonical : List ν} : Reached directory →
      name ∈ listing.names directory → isHidden machine name = false →
      realPlace machine root directory name = some canonical →
      machine.files.isDirectory canonical = true → Reached canonical

/-- A place that an entry really is at, whose name contains the query. -/
def Eligible (place : List ν) : Prop :=
  ∃ directory name, Reached machine listing root directory ∧ name ∈ listing.names directory ∧
    isHidden machine name = false ∧ nameContains machine query name = true ∧
    realPlace machine root directory name = some place

end Order

variable {place : List ν}

variable {found : Found ν}

section Steps

variable {machine : Machine ν} {listing : Listing machine} {root : List ν} {query : String}
  {maxResults : Nat}

variable {directory : List ν}

theorem realPlace_eq_some {name : ν} :
    realPlace machine root directory name = some place ↔
      machine.canonicalize (.ofPlace (directory ++ [name])) = .ok place ∧ root <+: place := by
  unfold realPlace
  cases machine.canonicalize (.ofPlace (directory ++ [name])) with
  | error error => exact iff_of_false (fun same => nomatch same) fun both => nomatch both.1
  | ok canonical =>
      simp only
      split
      · next below =>
        rw [Option.some_inj, Except.ok.injEq]
        exact ⟨fun same => ⟨same, same ▸ below⟩, fun both => both.1⟩
      · next outside =>
        refine iff_of_false (fun same => nomatch same) fun both => outside ?_
        exact (Except.ok.inj both.1) ▸ both.2

/-- A search that goes on behind some entries has looked at all of them.  One that stops has kept
as many results as the limits let it. -/
inductive Inspects (machine : Machine ν) (root : List ν) (query : String) (maxResults : Nat)
    (directory : List ν) (depth : Nat) (names : List ν) (before after : SearchState ν) : Prop
  | goesOn
      (stack : after.stack =
        (subdirectories machine root directory depth names).reverse ++ before.stack)
      (visited : after.visited = before.visited)
      (results : after.results = before.results ++
        (names.map (Entry.mk directory)).filterMap (hit machine root query))
      (few : after.results.length < maxResults)
      (inspected : after.inspected = before.inspected + names.length)
      (within : after.inspected ≤ maxSearchEntries)
      (untruncated : after.truncated = false)
  | stops
      (results : after.results = (before.results ++
        ((names.map (Entry.mk directory)).take (maxSearchEntries - before.inspected)).filterMap
          (hit machine root query)).take maxResults)
      (truncated : after.truncated = true)
      (limited : maxSearchEntries < before.inspected + names.length ∨
        maxResults ≤ (before.results ++
          ((names.map (Entry.mk directory)).take (maxSearchEntries - before.inspected)).filterMap
            (hit machine root query)).length)

/-- The state behind an entry that does not end the search. -/
def SearchState.behind (machine : Machine ν) (root : List ν) (query : String) (directory : List ν)
    (depth : Nat) (state : SearchState ν) (name : ν) : SearchState ν :=
  { state with
    stack := (subdirectory machine root directory depth name).toList ++ state.stack
    results := state.results ++ (hit machine root query ⟨directory, name⟩).toList
    inspected := state.inspected + 1 }

variable {depth : Nat}

/-- One entry of a directory: with it the results are enough, or the search goes on. -/
theorem inspectEntries_cons {name : ν} (rest : List ν)
    {state : SearchState ν} (within : state.inspected < maxSearchEntries) :
    (∃ found, hit machine root query ⟨directory, name⟩ = some found ∧
      maxResults ≤ state.results.length + 1 ∧
      (inspectEntries machine root query maxResults directory depth (name :: rest) state).results =
        state.results ++ [found] ∧
      (inspectEntries machine root query maxResults directory depth (name :: rest)
        state).truncated = true) ∨
    ((hit machine root query ⟨directory, name⟩ = none ∨ state.results.length + 1 < maxResults) ∧
      inspectEntries machine root query maxResults directory depth (name :: rest) state =
        inspectEntries machine root query maxResults directory depth rest
          (state.behind machine root query directory depth name)) := by
  have few : ¬ state.inspected + 1 > maxSearchEntries := not_lt.mpr within
  unfold SearchState.behind hit subdirectory
  rw [inspectEntries]
  simp only [if_neg few]
  cases isHidden machine name with
  | true => exact .inr ⟨.inl rfl, by simp⟩
  | false =>
      cases realPlace machine root directory name with
      | none => exact .inr ⟨.inl (by simp), by simp⟩
      | some canonical =>
          cases nameContains machine query name with
          | false =>
              refine .inr ⟨.inl (if_neg Bool.false_ne_true), ?_⟩
              simp only [Bool.false_eq_true, if_false, Option.bind_some]
              unfold SearchState.pushDirectory
              split <;> simp
          | true =>
              by_cases enough : maxResults ≤ state.results.length + 1
              · refine .inl ⟨⟨canonical, machine.files.isDirectory canonical⟩, by simp, enough, ?_⟩
                simp [enough]
              · refine .inr ⟨.inr (not_le.mp enough), ?_⟩
                simp only [Bool.false_eq_true, if_false, if_true, List.length_append,
                  List.length_singleton, ge_iff_le, if_neg enough, Option.bind_some]
                unfold SearchState.pushDirectory
                split <;> simp

theorem filterMap_cons_toList {α β : Type} (select : α → Option β) (first : α) (rest : List α) :
    (first :: rest).filterMap select = (select first).toList ++ rest.filterMap select := by
  cases selected : select first <;> simp [selected]

variable {before : SearchState ν}

variable {after : SearchState ν}

/-- What is inspected behind an entry is inspected with it. -/
theorem Inspects.cons {name : ν} {rest : List ν}
    (within : before.inspected < maxSearchEntries)
    (inspects : Inspects machine root query maxResults directory depth rest
      (before.behind machine root query directory depth name) after) :
    Inspects machine root query maxResults directory depth (name :: rest) before after := by
  have left : maxSearchEntries - before.inspected =
      maxSearchEntries - (before.inspected + 1) + 1 := by omega
  have results : ∀ count, (before.behind machine root query directory depth name).results ++
      ((rest.map (Entry.mk directory)).take count).filterMap (hit machine root query) =
        before.results ++ (((name :: rest).map (Entry.mk directory)).take (count + 1)).filterMap
          (hit machine root query) := by
    intro count
    rw [List.map_cons, List.take_succ_cons, filterMap_cons_toList, ← List.append_assoc]
    rfl
  cases inspects with
  | goesOn stack visited isResults few inspected inLimit untruncated =>
      refine .goesOn ?_ visited ?_ few ?_ inLimit untruncated
      · rw [stack, subdirectories, subdirectories, filterMap_cons_toList, List.reverse_append,
          List.append_assoc]
        cases found : subdirectory machine root directory depth name <;>
          simp [SearchState.behind, found]
      · rw [isResults, List.map_cons, filterMap_cons_toList, ← List.append_assoc]
        rfl
      · rw [inspected, List.length_cons]
        change before.inspected + 1 + rest.length = before.inspected + (rest.length + 1)
        omega
  | stops isResults truncated limited =>
      change _ = ((before.behind machine root query directory depth name).results ++
        ((rest.map (Entry.mk directory)).take
          (maxSearchEntries - (before.inspected + 1))).filterMap _).take maxResults at isResults
      change maxSearchEntries < before.inspected + 1 + rest.length ∨ maxResults ≤
        ((before.behind machine root query directory depth name).results ++
          ((rest.map (Entry.mk directory)).take
            (maxSearchEntries - (before.inspected + 1))).filterMap _).length at limited
      rw [results, ← left] at isResults limited
      refine .stops isResults truncated (limited.imp_left fun many => ?_)
      rw [List.length_cons]
      omega

/-- The loop over the entries of a directory inspects them. -/
theorem inspectEntries_inspects (directory : List ν) (depth : Nat) (names : List ν)
    (few : before.results.length < maxResults)
    (within : before.inspected ≤ maxSearchEntries) (untruncated : before.truncated = false) :
    Inspects machine root query maxResults directory depth names before
      (inspectEntries machine root query maxResults directory depth names before) := by
  induction names generalizing before with
  | nil =>
      refine .goesOn rfl rfl ?_ few rfl within untruncated
      exact (List.append_nil _).symm
  | cons name rest ih =>
      rcases Nat.lt_or_ge before.inspected maxSearchEntries with more | full
      · rcases inspectEntries_cons rest more with
          ⟨found, isHit, enough, results, truncated⟩ | ⟨fewer, same⟩
        · have left : maxSearchEntries - before.inspected =
              maxSearchEntries - (before.inspected + 1) + 1 := by omega
          have size : (before.results ++ [found]).length = maxResults := by
            rw [List.length_append, List.length_singleton]
            exact le_antisymm few enough
          have whole : before.results ++ (((name :: rest).map (Entry.mk directory)).take
              (maxSearchEntries - before.inspected)).filterMap (hit machine root query) =
              (before.results ++ [found]) ++ ((rest.map (Entry.mk directory)).take
                (maxSearchEntries - (before.inspected + 1))).filterMap
                  (hit machine root query) := by
            rw [left, List.map_cons, List.take_succ_cons, filterMap_cons_toList, isHit,
              ← List.append_assoc]
            rfl
          refine .stops ?_ truncated (.inr ?_)
          · rw [results, whole, ← size, List.take_left]
          · rw [whole, List.length_append, size]
            exact Nat.le_add_right _ _
        · rw [same]
          have behind : (before.behind machine root query directory depth name).results.length <
              maxResults → Inspects machine root query maxResults directory depth rest
                (before.behind machine root query directory depth name) _ :=
            fun fewer => ih fewer more untruncated
          refine Inspects.cons more (behind ?_)
          unfold SearchState.behind
          dsimp only
          rw [List.length_append]
          rcases fewer with isNone | fewer
          · rw [isNone]
            exact few
          · exact lt_of_le_of_lt (Nat.add_le_add_left Option.length_toList_le _) fewer
      · rw [inspectEntries]
        dsimp only
        rw [if_pos (Nat.lt_succ_of_le full)]
        refine .stops ?_ rfl (.inl ?_)
        · rw [Nat.sub_eq_zero_of_le full, List.take_zero]
          simp [List.take_of_length_le few.le]
        · rw [List.length_cons]
          omega

omit [LinearOrder ν] in
theorem canonicalize_of_isDirectory (isDirectory : machine.files.isDirectory place = true) :
    machine.canonicalize (.ofPlace place) = .ok place := by
  refine Except.mapError_eq_ok.mpr (FileTree.canonicalize_eq_ok.mpr ⟨.of_isDirectory isDirectory, ?_⟩)
  rw [FileTree.isDirectory_eq_true.mp isDirectory]
  exact Option.some_ne_none _

/-- A directory that is reached is a real one below the root. -/
theorem Reached.real (isRoot : machine.files.isDirectory root = true)
    (reached : Reached machine listing root directory) :
    machine.files.isDirectory directory = true ∧ root <+: directory := by
  cases reached with
  | root => exact ⟨isRoot, List.prefix_rfl⟩
  | step _ _ _ real isDirectory => exact ⟨isDirectory, (realPlace_eq_some.mp real).2⟩

theorem reached_of_mem_subdirectories {deeper : Nat}
    {names : List ν} (reached : Reached machine listing root directory)
    (listed : ∀ name ∈ names, name ∈ listing.names directory)
    (waits : (place, deeper) ∈ subdirectories machine root directory depth names) :
    Reached machine listing root place := by
  obtain ⟨name, among, isDirectory⟩ := List.mem_filterMap.mp waits
  unfold subdirectory at isDirectory
  split at isDirectory
  · cases isDirectory
  · next shown =>
    obtain ⟨canonical, real, pushed⟩ := Option.bind_eq_some_iff.mp isDirectory
    split at pushed
    · next both =>
      cases pushed
      exact .step reached (listed name among) (Bool.eq_false_iff.mpr shown) real both.1
    · cases pushed

variable (machine listing root maxResults) in
/-- A search that has not come to a limit. -/
structure SearchState.Ready (state : SearchState ν) : Prop where
  few : state.results.length < maxResults
  within : state.inspected ≤ maxSearchEntries
  untruncated : state.truncated = false
  reached : ∀ waits ∈ state.stack, Reached machine listing root waits.1

variable (query) in
/-- The next directory is left out if it is known.  Otherwise the search ends in it or is ready for
the directories behind it. -/
theorem searchLoop_cons (isRoot : machine.files.isDirectory root = true) (fuel : Nat)
    (ready : before.Ready machine listing root maxResults)
    {stack : List (List ν × Nat)}
    (isNext : before.stack = (directory, depth) :: stack) :
    (directory ∈ before.visited ∧
      ({ before with stack } : SearchState ν).Ready machine listing root maxResults ∧
      searchLoop machine listing root query maxResults (fuel + 1) before =
        searchLoop machine listing root query maxResults fuel { before with stack }) ∨
    (directory ∉ before.visited ∧ ∃ after : SearchState ν,
      Inspects machine root query maxResults directory depth (listing.names directory)
        { before with stack, visited := directory :: before.visited } after ∧
      (after.truncated = true ∧
          searchLoop machine listing root query maxResults (fuel + 1) before = .ok (some after) ∨
        after.Ready machine listing root maxResults ∧
          searchLoop machine listing root query maxResults (fuel + 1) before =
            searchLoop machine listing root query maxResults fuel after)) := by
  have reached : Reached machine listing root directory :=
    ready.reached (directory, depth) (by rw [isNext]; exact List.mem_cons_self)
  have behind : ∀ waits ∈ stack, Reached machine listing root waits.1 :=
    fun waits among => ready.reached waits (by rw [isNext]; exact List.mem_cons_of_mem _ among)
  obtain ⟨isDirectory, below⟩ := reached.real isRoot
  have canonical := canonicalize_of_isDirectory isDirectory
  rw [searchLoop, isNext]
  dsimp only
  rw [canonical]
  by_cases visited : directory ∈ before.visited
  · exact .inl ⟨visited, ⟨ready.few, ready.within, ready.untruncated, behind⟩,
      if_pos (.inr visited)⟩
  have inspects : Inspects machine root query maxResults directory depth (listing.names directory)
      { before with stack, visited := directory :: before.visited } _ :=
    inspectEntries_inspects directory depth _ ready.few ready.within ready.untruncated
  refine .inr ⟨visited, _, inspects, ?_⟩
  have goesIn : ¬ (¬ root <+: directory ∨ directory ∈ before.visited) := by
    rintro (outside | known)
    · exact outside below
    · exact visited known
  cases inspects with
  | stops _ truncated _ => exact .inl ⟨truncated, (if_neg goesIn).trans (if_pos (.inl truncated))⟩
  | goesOn isStack _ _ few _ within untruncated =>
      refine .inr ⟨⟨few, within, untruncated, ?_⟩, (if_neg goesIn).trans (if_neg ?_)⟩
      · intro waits among
        rw [isStack] at among
        rcases List.mem_append.mp among with pushed | among
        · exact reached_of_mem_subdirectories reached (fun _ => id) (List.mem_reverse.mp pushed)
        · exact behind waits among
      · rintro (truncated | enough)
        · exact Bool.false_ne_true (untruncated.symm.trans truncated)
        · exact absurd few (not_lt.mpr enough)

/-- What a search has kept of the entries it came to, and whether it says that it stopped. -/
structure Searched (machine : Machine ν) (root : List ν) (query : String) (maxResults : Nat)
    (entries : List (Entry ν)) (before after : SearchState ν) : Prop where
  results : after.results = (before.results ++
    (entries.take (maxSearchEntries - before.inspected)).filterMap
      (hit machine root query)).take maxResults
  truncated : after.truncated = true ↔ maxSearchEntries < before.inspected + entries.length ∨
    maxResults ≤ (before.results ++
      (entries.take (maxSearchEntries - before.inspected)).filterMap
        (hit machine root query)).length

/-- Where a search has stopped, more entries make no difference. -/
theorem Inspects.searched {names : List ν}
    (inspects : Inspects machine root query maxResults directory depth names before after)
    (truncated : after.truncated = true) (more : List (Entry ν)) :
    Searched machine root query maxResults (names.map (Entry.mk directory) ++ more)
      before after := by
  have size : (names.map (Entry.mk directory)).length = names.length := List.length_map _
  cases inspects with
  | goesOn _ _ _ _ _ _ untruncated => exact absurd truncated (Bool.eq_false_iff.mp untruncated)
  | stops results _ limited =>
      rcases limited with many | enough
      · have cut : ((names.map (Entry.mk directory)) ++ more).take
            (maxSearchEntries - before.inspected) =
              (names.map (Entry.mk directory)).take (maxSearchEntries - before.inspected) :=
          List.take_append_of_le_length (by omega)
        refine ⟨by rw [cut, results], iff_of_true truncated (.inl ?_)⟩
        rw [List.length_append, size]
        omega
      · have kept : before.results ++ (((names.map (Entry.mk directory)) ++ more).take
            (maxSearchEntries - before.inspected)).filterMap (hit machine root query) =
              (before.results ++ ((names.map (Entry.mk directory)).take
                (maxSearchEntries - before.inspected)).filterMap (hit machine root query)) ++
              (more.take (maxSearchEntries - before.inspected -
                (names.map (Entry.mk directory)).length)).filterMap (hit machine root query) := by
          rw [List.take_append, List.filterMap_append, List.append_assoc]
        refine ⟨?_, iff_of_true truncated (.inr ?_)⟩
        · rw [kept, List.take_append_of_le_length enough, results]
        · rw [kept, List.length_append]
          exact Nat.le_add_right_of_le enough

/-- What is kept behind a directory is kept with it. -/
theorem Searched.append {names : List ν} {more : List (Entry ν)}
    {behind : SearchState ν}
    (results : behind.results = before.results ++
      (names.map (Entry.mk directory)).filterMap (hit machine root query))
    (inspected : behind.inspected = before.inspected + names.length)
    (within : behind.inspected ≤ maxSearchEntries)
    (searched : Searched machine root query maxResults more behind after) :
    Searched machine root query maxResults (names.map (Entry.mk directory) ++ more)
      before after := by
  have size : (names.map (Entry.mk directory)).length = names.length := List.length_map _
  have left : maxSearchEntries - behind.inspected =
      maxSearchEntries - before.inspected - (names.map (Entry.mk directory)).length := by omega
  have whole : (names.map (Entry.mk directory)).take (maxSearchEntries - before.inspected) =
      names.map (Entry.mk directory) := List.take_of_length_le (by omega)
  have kept : behind.results ++ (more.take (maxSearchEntries - behind.inspected)).filterMap
      (hit machine root query) = before.results ++ ((names.map (Entry.mk directory) ++ more).take
        (maxSearchEntries - before.inspected)).filterMap (hit machine root query) := by
    rw [List.take_append, whole, List.filterMap_append, ← List.append_assoc, ← results, ← left]
  have count : before.inspected + (names.map (Entry.mk directory) ++ more).length =
      behind.inspected + more.length := by
    rw [List.length_append, size, inspected, Nat.add_assoc]
  exact ⟨kept ▸ searched.results, by rw [← kept, count, searched.truncated]⟩

theorem length_subdirectories_le (directory : List ν) (depth : Nat) (names : List ν) :
    (subdirectories machine root directory depth names).length ≤ names.length :=
  List.length_filterMap_le _ _

/-- A search ends, since each directory it leaves behind or each entry it looks at brings it nearer
to its end, and keeps what the limits let it keep of the entries in its order. -/
theorem searchLoop_searched (isRoot : machine.files.isDirectory root = true) {fuel : Nat}
    (ready : before.Ready machine listing root maxResults)
    (enough : before.stack.length + (maxSearchEntries - before.inspected) < fuel) :
    ∃ after, searchLoop machine listing root query maxResults fuel before = .ok (some after) ∧
      Searched machine root query maxResults
        (searchOrder machine listing root fuel before.stack before.visited) before after := by
  induction fuel generalizing before with
  | zero => exact absurd enough (Nat.not_lt_zero _)
  | succ fuel ih =>
      cases isNext : before.stack with
      | nil =>
          refine ⟨before, by rw [searchLoop, isNext], ?_, ?_⟩
          · rw [searchOrder, List.take_nil, List.filterMap_nil, List.append_nil,
              List.take_of_length_le ready.few.le]
          · rw [searchOrder, List.take_nil, List.filterMap_nil, List.append_nil]
            refine iff_of_false (Bool.eq_false_iff.mp ready.untruncated) ?_
            rintro (many | full)
            · exact absurd ready.within (not_le.mpr many)
            · exact absurd ready.few (not_lt.mpr full)
      | cons next stack =>
          obtain ⟨directory, depth⟩ := next
          rw [isNext, List.length_cons] at enough
          rcases searchLoop_cons query isRoot fuel ready isNext with
            ⟨known, stillReady, same⟩ | ⟨unknown, after, inspects, ⟨truncated, ends⟩ | ⟨goesOn, same⟩⟩
          · rw [same, searchOrder, if_pos known]
            obtain ⟨ended, ends, searched⟩ := ih stillReady (show stack.length +
              (maxSearchEntries - before.inspected) < fuel by omega)
            exact ⟨ended, ends, searched.results, searched.truncated⟩
          · rw [ends, searchOrder, if_neg unknown]
            have searched := inspects.searched truncated
            exact ⟨after, rfl, (searched _).results, (searched _).truncated⟩
          · rw [same, searchOrder, if_neg unknown]
            cases inspects with
            | stops _ truncated _ => exact absurd truncated (Bool.eq_false_iff.mp goesOn.untruncated)
            | goesOn isStack visited results _ inspected within _ =>
                have pushed : (subdirectories machine root directory depth
                    (listing.names directory)).length ≤ _ := length_subdirectories_le _ _ _
                change after.inspected = before.inspected + _ at inspected
                obtain ⟨ended, ends, searched⟩ := ih goesOn (by
                  rw [isStack, List.length_append, List.length_reverse]
                  change _ + stack.length + _ < fuel
                  omega)
                rw [isStack, visited] at searched
                have whole := Searched.append results inspected within searched
                exact ⟨ended, ends, whole.results, whole.truncated⟩

variable {entry : Entry ν}

theorem hit_eq_some : hit machine root query entry = some found ↔
      isHidden machine entry.name = false ∧ nameContains machine query entry.name = true ∧
        realPlace machine root entry.directory entry.name = some found.place ∧
        found.isDirectory = machine.files.isDirectory found.place := by
  unfold hit
  cases isHidden machine entry.name with
  | true => exact iff_of_false (by simp) fun all => nomatch all.1
  | false =>
      cases nameContains machine query entry.name with
      | false => exact iff_of_false (by simp) fun all => nomatch all.2.1
      | true =>
          rw [if_neg Bool.false_ne_true, if_pos rfl, Option.map_eq_some_iff]
          constructor
          · rintro ⟨canonical, real, rfl⟩
            exact ⟨rfl, rfl, real, rfl⟩
          · rintro ⟨-, -, real, kind⟩
            exact ⟨found.place, real, by rw [← kind]⟩

/-- A search comes only to entries of directories that are reached. -/
theorem reached_of_mem_searchOrder {fuel : Nat} {stack : List (List ν × Nat)}
    {visited : List (List ν)}
    (reached : ∀ waits ∈ stack, Reached machine listing root waits.1)
    (comes : entry ∈ searchOrder machine listing root fuel stack visited) :
    Reached machine listing root entry.directory ∧
      entry.name ∈ listing.names entry.directory := by
  induction fuel generalizing stack visited with
  | zero => cases comes
  | succ fuel ih =>
      cases stack with
      | nil => cases comes
      | cons next stack =>
          obtain ⟨isReached, behind⟩ := List.forall_mem_cons.mp reached
          rw [searchOrder] at comes
          split at comes
          · exact ih behind comes
          · rcases List.mem_append.mp comes with here | later
            · obtain ⟨name, listed, rfl⟩ := List.mem_map.mp here
              exact ⟨isReached, listed⟩
            · refine ih (fun waits among => ?_) later
              rcases List.mem_append.mp among with pushed | among
              · exact reached_of_mem_subdirectories isReached (fun _ => id)
                  (List.mem_reverse.mp pushed)
              · exact behind waits among

theorem eligible_of_hit (reached : Reached machine listing root entry.directory)
    (listed : entry.name ∈ listing.names entry.directory)
    (isHit : hit machine root query entry = some found) :
    Eligible machine listing root query found.place := by
  obtain ⟨shown, contains, real, -⟩ := hit_eq_some.mp isHit
  exact ⟨entry.directory, entry.name, reached, listed, shown, contains, real⟩

end Steps

/-- A request that a search answers. -/
structure NamesDirectory (workspaceRoot root : List ν) : Prop where
  named : request.grant.root.isEmpty = false
  readable : request.grant.legacyRead = true
  query : trimMatches Protocol.isWhiteSpace request.query ≠ ""
  short : (trimMatches Protocol.isWhiteSpace request.query).utf8ByteSize ≤ maxQueryBytes
  positive : request.maxResults ≠ 0
  isWorkspace : machine.canonicalize request.grant.root = .ok workspaceRoot
  isRoot : machine.canonicalize (request.root.join workspaceRoot) = .ok root
  below : workspaceRoot <+: root
  isDirectory : machine.files.isDirectory root = true

/-- The query in the form in which names are compared with it. -/
def FileSearchRequest.needle : String :=
  toAsciiLowercase (trimMatches Protocol.isWhiteSpace request.query)

/-- The entries that a search comes to if only its depth is limited. -/
def entriesInOrder (root : List ν) : List (Entry ν) :=
  searchOrder machine listing root fuel [(root, 0)] []

/-- The matches among the entries that a search may look at. -/
def matchesInOrder (root : List ν) : List (Found ν) :=
  ((entriesInOrder machine listing fuel root).take maxSearchEntries).filterMap
    (hit machine root request.needle)

/-- There are more entries than a search looks at, or as many matches as it is to find. -/
def ComesToLimit (root : List ν) : Prop :=
  maxSearchEntries < (entriesInOrder machine listing fuel root).length ∨
    request.maxResults ≤ (matchesInOrder machine listing fuel request root).length

/-- A search ends with real places below the root that are eligible, each once, and says that it
stopped exactly if an eligible place is missing. -/
structure SearchesWhole (workspaceRoot root : List ν) (ended : SearchState ν) :
    Prop where
  ends : searchLoop machine listing root request.needle request.maxResults fuel (.start root) =
    .ok (some ended)
  result : searchFiles machine listing fuel request = .ok (some
    { results := ended.results.map fun found =>
        ⟨machine.relativePath workspaceRoot found.place, found.isDirectory⟩
      truncated := ended.truncated })
  below : ∀ found ∈ ended.results, workspaceRoot <+: found.place ∧ root <+: found.place
  eligible : ∀ found ∈ ended.results, Eligible machine listing root request.needle found.place
  once : (ended.results.map Found.place).Nodup
  truncated : ended.truncated = true ↔ ∃ place,
    Eligible machine listing root request.needle place ∧ place ∉ ended.results.map Found.place

/-- No two matches that are kept are links to one place.  Where the search comes to a limit, an
eligible place is not among them, and where it comes to none, no eligible place is too deep. -/
structure SuitsLimits (root : List ν) : Prop where
  unlinked : (((matchesInOrder machine listing fuel request root).take request.maxResults).map
    Found.place).Nodup
  goesOn : ComesToLimit machine listing fuel request root → ∃ place,
    Eligible machine listing root request.needle place ∧
      place ∉ ((matchesInOrder machine listing fuel request root).take request.maxResults).map
        Found.place
  notDeep : ¬ ComesToLimit machine listing fuel request root → ∀ place,
    Eligible machine listing root request.needle place →
      ∃ entry ∈ entriesInOrder machine listing fuel root,
        place ∈ (hit machine root request.needle entry).map Found.place

section Tool

variable {machine : Machine ν} {listing : Listing machine} {request : FileSearchRequest ν}
  {workspaceRoot root : List ν} {fuel : Nat}

theorem resolveDirectory_eq_ok (isRoot : machine.canonicalize (request.root.join workspaceRoot) =
    .ok root) (below : workspaceRoot <+: root) (isDirectory : machine.files.isDirectory root = true) :
    machine.resolveDirectory workspaceRoot request.root = .ok root := by
  have isWorkspace : machine.files.isDirectory workspaceRoot = true := by
    obtain ⟨rest, rfl⟩ := below
    by_cases isEmpty : rest = []
    · rwa [isEmpty, List.append_nil] at isDirectory
    · refine FileTree.isDirectory_of_append isEmpty ?_
      rw [FileTree.isDirectory_eq_true.mp isDirectory]
      exact Option.some_ne_none _
  unfold Machine.resolveDirectory
  rw [canonicalize_of_isDirectory isWorkspace, Except.bind_eq_ok]
  refine ⟨workspaceRoot, rfl, ?_⟩
  rw [isRoot, Except.bind_eq_ok]
  refine ⟨root, rfl, ?_⟩
  rw [Except.check_bind_eq_ok, refuseIf_eq_ok]
  exact ⟨by simp [below, isDirectory], rfl⟩

variable (listing) in
/-- A request that is accepted is answered with the first matches, which are all eligible. -/
theorem searchFiles_answers (names : NamesDirectory machine request workspaceRoot root)
    (enough : maxSearchEntries + 2 ≤ fuel) :
    ∃ ended, searchLoop machine listing root request.needle request.maxResults fuel (.start root) =
        .ok (some ended) ∧
      searchFiles machine listing fuel request = .ok (some
        { results := ended.results.map fun found =>
            ⟨machine.relativePath workspaceRoot found.place, found.isDirectory⟩
          truncated := ended.truncated }) ∧
      ended.results = (matchesInOrder machine listing fuel request root).take request.maxResults ∧
      (ended.truncated = true ↔ ComesToLimit machine listing fuel request root) := by
  have ready : (SearchState.start root).Ready machine listing root request.maxResults :=
    ⟨Nat.pos_of_ne_zero names.positive, Nat.zero_le _, rfl, fun waits among => by
      rw [List.mem_singleton.mp among]
      exact .root⟩
  have room : (SearchState.start root).stack.length +
      (maxSearchEntries - (SearchState.start root).inspected) < fuel := by
    change 1 + (maxSearchEntries - 0) < fuel
    omega
  obtain ⟨ended, ends, searched⟩ : ∃ ended, searchLoop machine listing root request.needle
      request.maxResults fuel (.start root) = .ok (some ended) ∧ _ :=
    searchLoop_searched names.isDirectory ready room
  refine ⟨ended, ends, ?_, ?_, ?_⟩
  · have granted := ensureReadGrant_eq_ok.mpr ⟨names.named, names.readable⟩
    have resolved := resolveDirectory_eq_ok names.isRoot names.below names.isDirectory
    unfold searchFiles
    rw [granted, Except.check_bind_eq_ok]
    refine ⟨rfl, ?_⟩
    rw [Except.check_bind_eq_ok, Except.check_bind_eq_ok, Except.check_bind_eq_ok]
    refine ⟨refuseIf_eq_ok.mpr names.query, refuseIf_eq_ok.mpr (not_lt.mpr names.short),
      refuseIf_eq_ok.mpr names.positive, ?_⟩
    rw [names.isWorkspace, Except.bind_eq_ok]
    refine ⟨workspaceRoot, rfl, ?_⟩
    rw [resolved, Except.bind_eq_ok]
    refine ⟨root, rfl, ?_⟩
    change (searchLoop machine listing root request.needle request.maxResults fuel
      (.start root) >>= _) = _
    rw [ends]
    rfl
  · exact searched.results
  · refine searched.truncated.trans ?_
    change _ < 0 + _ ∨ _ ↔ _
    rw [Nat.zero_add]
    rfl

/-- What is found is eligible. -/
theorem eligible_of_mem_matchesInOrder
    (among : found ∈ matchesInOrder machine listing fuel request root) :
    Eligible machine listing root request.needle found.place := by
  obtain ⟨entry, taken, isHit⟩ := List.mem_filterMap.mp among
  have reached : ∀ waits ∈ [(root, 0)], Reached machine listing root waits.1 := by
    intro waits among
    rw [List.mem_singleton.mp among]
    exact .root
  obtain ⟨isReached, listed⟩ := reached_of_mem_searchOrder reached (List.mem_of_mem_take taken)
  exact eligible_of_hit isReached listed isHit

/-- An eligible place is below the root. -/
theorem Eligible.below {query : String}
    (eligible : Eligible machine listing root query place) : root <+: place := by
  obtain ⟨_, _, _, _, _, _, real⟩ := eligible
  exact (realPlace_eq_some.mp real).2

/-- Where a search comes to no limit, its matches are those of all entries. -/
theorem mem_matchesInOrder_of_not_comesToLimit
    (unlimited : ¬ ComesToLimit machine listing fuel request root) :
    place ∈ ((matchesInOrder machine listing fuel request root).take request.maxResults).map
      Found.place ↔ ∃ entry ∈ entriesInOrder machine listing fuel root,
        place ∈ (hit machine root request.needle entry).map Found.place := by
  obtain ⟨few, fewer⟩ := not_or.mp unlimited
  rw [List.take_of_length_le (not_le.mp fewer).le]
  unfold matchesInOrder
  rw [List.take_of_length_le (not_lt.mp few)]
  simp only [List.mem_map, List.mem_filterMap, Option.mem_def, Option.map_eq_some_iff]
  constructor
  · rintro ⟨found, ⟨entry, among, isHit⟩, rfl⟩
    exact ⟨entry, among, found, isHit, rfl⟩
  · rintro ⟨entry, among, found, isHit, rfl⟩
    exact ⟨found, ⟨entry, among, isHit⟩, rfl⟩

/-- A search is confined to its root and ends.  It is complete exactly if the tree suits its
limits. -/
theorem searchFiles_whole_iff (names : NamesDirectory machine request workspaceRoot root)
    (enough : maxSearchEntries + 2 ≤ fuel) :
    (∃ ended, SearchesWhole machine listing fuel request workspaceRoot root ended) ↔
      SuitsLimits machine listing fuel request root := by
  obtain ⟨ended, ends, result, results, truncated⟩ := searchFiles_answers listing
    names enough
  constructor
  · rintro ⟨other, whole⟩
    obtain rfl : ended = other := by
      have same := ends.symm.trans whole.ends
      exact Option.some_inj.mp (Except.ok.inj same)
    refine ⟨results ▸ whole.once, fun limited => ?_, fun unlimited place eligible => ?_⟩
    · rw [← results]
      exact whole.truncated.mp (truncated.mpr limited)
    · rw [← mem_matchesInOrder_of_not_comesToLimit unlimited, ← results]
      by_contra missing
      exact unlimited (truncated.mp (whole.truncated.mpr ⟨place, eligible, missing⟩))
  · intro suits
    have eligible : ∀ found ∈ ended.results,
        Eligible machine listing root request.needle found.place := by
      intro found among
      rw [results] at among
      exact eligible_of_mem_matchesInOrder (List.mem_of_mem_take among)
    refine ⟨ended, ends, result, fun found among => ?_, eligible, results ▸ suits.unlinked, ?_⟩
    · have below := (eligible found among).below
      exact ⟨names.below.trans below, below⟩
    · rw [truncated, results]
      constructor
      · exact suits.goesOn
      · rintro ⟨place, isEligible, missing⟩
        by_contra unlimited
        exact missing ((mem_matchesInOrder_of_not_comesToLimit unlimited).mpr
          (suits.notDeep unlimited place isEligible))

end Tool

/-- A directory with one file in it. -/
def oneEntry : Machine String where
  files := (FileTree.bare String (List UInt8)).put ["a"] (some (.file []))
  currentDirectory := []
  links := 8
  lossy := id

def searchForOne (maxResults : Nat) : FileSearchRequest String where
  grant := ⟨⟨true, []⟩, true⟩
  root := ⟨true, []⟩
  query := "a"
  maxResults := maxResults

theorem node_oneEntry : oneEntry.files.node ["a"] = some (.file []) := by
  have settable : (FileTree.bare String (List UInt8)).Settable ["a"] := ⟨rfl, rfl⟩
  exact FileTree.node_put_self settable

theorem node_oneEntry_of_ne {place : List String} (differ : place ≠ ["a"]) :
    oneEntry.files.node place = (FileTree.bare String (List UInt8)).node place := by
  unfold oneEntry
  rw [FileTree.node_put_of_ne differ]

def oneListing : Listing oneEntry where
  names
    | [] => ["a"]
    | _ :: _ => []
  listed := by
    intro place name
    by_cases same : place ++ [name] = ["a"]
    · have both : place ++ [name] = [] ++ ["a"] := same
      obtain ⟨rfl, isName⟩ := List.append_inj' both rfl
      obtain rfl := List.singleton_inj.mp isName
      exact iff_of_true List.mem_cons_self (by rw [List.nil_append, node_oneEntry]; simp)
    · rw [node_oneEntry_of_ne same]
      cases place with
      | nil =>
          refine iff_of_false (fun among => same ?_) (not_not.mpr rfl)
          exact congrArg ([·]) (List.mem_singleton.mp among)
      | cons => exact iff_of_false List.not_mem_nil (not_not.mpr rfl)
  sorted := by
    intro place
    cases place with
    | nil => exact List.pairwise_singleton _ _
    | cons => exact List.Pairwise.nil

theorem realPlace_oneEntry : realPlace oneEntry [] [] "a" = some ["a"] :=
  realPlace_eq_some.mpr
    ⟨Except.mapError_eq_ok.mpr (FileTree.canonicalize_of_file node_oneEntry), List.nil_prefix⟩

theorem isDirectory_oneEntry : oneEntry.files.isDirectory ["a"] = false := by
  rw [FileTree.isDirectory_eq_false, node_oneEntry]
  simp

theorem namesDirectory_one {maxResults : Nat} (positive : maxResults ≠ 0) :
    NamesDirectory oneEntry (searchForOne maxResults) [] [] where
  named := rfl
  readable := rfl
  query := show trimMatches Protocol.isWhiteSpace "a" ≠ "" by decide
  short := show (trimMatches Protocol.isWhiteSpace "a").utf8ByteSize ≤ maxQueryBytes by decide
  positive
  isWorkspace := canonicalize_of_isDirectory FileTree.isDirectory_root
  isRoot := canonicalize_of_isDirectory FileTree.isDirectory_root
  below := List.prefix_rfl
  isDirectory := FileTree.isDirectory_root

theorem eligible_one {query : String} {place : List String}
    (eligible : Eligible oneEntry oneListing [] query place) : place = ["a"] := by
  have onlyRoot : ∀ directory, Reached oneEntry oneListing [] directory → directory = [] := by
    intro directory reached
    induction reached with
    | root => rfl
    | step _ listed _ real isDirectory isRoot =>
        subst isRoot
        obtain rfl := List.mem_singleton.mp listed
        rw [realPlace_oneEntry, Option.some_inj] at real
        subst real
        exact absurd isDirectory (Bool.eq_false_iff.mp isDirectory_oneEntry)
  obtain ⟨directory, name, reached, listed, -, -, real⟩ := eligible
  obtain rfl := onlyRoot directory reached
  obtain rfl := List.mem_singleton.mp listed
  rw [realPlace_oneEntry] at real
  exact (Option.some_inj.mp real).symm

theorem entriesInOrder_one :
    entriesInOrder oneEntry oneListing (fuel + 2) [] = [⟨[], "a"⟩] := by
  have leaf : subdirectories oneEntry [] [] 0 (oneListing.names []) = [] := by
    change [_].filterMap _ = _
    rw [List.filterMap_cons_none, List.filterMap_nil]
    unfold subdirectory
    rw [realPlace_oneEntry, Option.bind_some, isDirectory_oneEntry]
    split <;> rfl
  rw [entriesInOrder, searchOrder, if_neg List.not_mem_nil, leaf]
  rfl

theorem hit_one (maxResults : Nat) :
    hit oneEntry [] (searchForOne maxResults).needle ⟨[], "a"⟩ = some ⟨["a"], false⟩ := by
  have contains : nameContains oneEntry
      (toAsciiLowercase (trimMatches Protocol.isWhiteSpace "a")) "a" = true := by decide
  refine hit_eq_some.mpr ⟨by decide, contains, realPlace_oneEntry, ?_⟩
  exact isDirectory_oneEntry.symm

theorem matchesInOrder_one (maxResults : Nat) :
    matchesInOrder oneEntry oneListing (fuel + 2) (searchForOne maxResults) [] =
      [⟨["a"], false⟩] := by
  unfold matchesInOrder
  rw [entriesInOrder_one, List.take_of_length_le (by decide), filterMap_cons_toList, hit_one]
  rfl

/-- With room for two, the one file is found and the search says that it is done. -/
theorem searchFiles_whole_one : ∃ ended,
    SearchesWhole oneEntry oneListing (maxSearchEntries + 2) (searchForOne 2) [] [] ended := by
  refine (searchFiles_whole_iff (namesDirectory_one (by decide)) le_rfl).mpr ⟨?_, ?_, ?_⟩
  · rw [matchesInOrder_one]
    exact List.pairwise_singleton _ _
  · rintro (many | enough)
    · rw [entriesInOrder_one] at many
      exact absurd many (by decide)
    · rw [matchesInOrder_one] at enough
      exact absurd enough (by decide)
  · intro _ place eligible
    refine ⟨⟨[], "a"⟩, by rw [entriesInOrder_one]; exact List.mem_cons_self, ?_⟩
    rw [hit_one, eligible_one eligible]
    rfl

/-- With room for one, the one file is found and the search says that it stopped. -/
theorem not_searchesWhole_one : ¬ ∀ (machine : Machine String) (listing : Listing machine)
    (fuel : Nat) (request : FileSearchRequest String) (workspaceRoot root : List String),
    NamesDirectory machine request workspaceRoot root → maxSearchEntries + 2 ≤ fuel →
      ∃ ended, SearchesWhole machine listing fuel request workspaceRoot root ended := by
  intro searches
  have names := namesDirectory_one Nat.one_ne_zero
  obtain ⟨other, whole⟩ := searches _ oneListing _ _ _ _ names le_rfl
  obtain ⟨ended, ends, -, results, truncated⟩ := searchFiles_answers oneListing names le_rfl
  obtain rfl : ended = other := Option.some_inj.mp (Except.ok.inj (ends.symm.trans whole.ends))
  rw [matchesInOrder_one] at results
  have stops : ended.truncated = true := by
    rw [truncated, ComesToLimit, matchesInOrder_one]
    exact .inr le_rfl
  obtain ⟨place, eligible, missing⟩ := whole.truncated.mp stops
  rw [results, eligible_one eligible] at missing
  exact missing (by decide)

end ToolFiles
end YunXi
