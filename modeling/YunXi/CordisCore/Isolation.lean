import YunXi.CordisCore.Context

/-!
# Isolation of scopes

An operation that is applied through a scope changes what services are found there and
below, and nowhere else.  Code of others that it calls may apply operations through any
scope, so the scopes of these count as well; contexts note them all.
-/

namespace YunXi
namespace CordisCore

variable {V α β : Type}

/-- The scope provides a service of the name. -/
def ContextInner.provides (inner : ContextInner V) (name : String) : Bool :=
  (inner.data.services.lookup? name).isSome

variable (name : String)

variable (chain : List (ContextInner V))

/-- The scopes up to and with the nearest one that provides a name; all of them when none
does. -/
def upToProvider : List (ContextInner V) :=
  chain.take (chain.findIdx (·.provides name) + 1)

/-- What a lookup is meant to find: the entry of the nearest scope that provides the name,
unless a scope up to it is closed. -/
def nearestEntry : Except CordisError (ServiceEntry V) :=
  match (upToProvider name chain).find? (fun inner => inner.data.state ≠ .active) with
  | some closed => .error (.contextClosed closed.id closed.data.state)
  | none =>
      match chain.findSome? fun inner => inner.data.services.lookup? name with
      | some entry => .ok entry
      | none => .error (.missingService name)

/-- Whether a lookup has found an entry: the end of the walk is no error. -/
def presence : Except CordisError (ServiceEntry V) → Except CordisError Bool
  | .ok _ => .ok true
  | .error error => if error = .missingService name then .ok false else .error error

theorem upToProvider_cons (inner : ContextInner V)
    (above : List (ContextInner V)) :
    upToProvider name (inner :: above) =
      inner :: if inner.provides name then [] else upToProvider name above := by
  unfold upToProvider
  rw [List.findIdx_cons]
  cases inner.provides name <;> simp

/-- The walk up the scopes finds the nearest entry. -/
theorem findIn_eq_nearest : findIn name chain = nearestEntry name chain := by
  induction chain with
  | nil => rfl
  | cons inner above ih =>
      rw [findIn, nearestEntry, upToProvider_cons, List.find?_cons, List.findSome?_cons]
      by_cases active : inner.data.state = .active
      · have passes : ensureActive inner = .ok () := if_pos active
        rw [passes]
        cases found : inner.data.services.lookup? name with
        | some entry => simp [active, ContextInner.provides, found, bind, Except.bind, pure,
            Except.pure]
        | none =>
            simp only [active, ne_eq, not_true_eq_false, decide_false, ContextInner.provides,
              found, Option.isSome_none, Bool.false_eq_true, if_false]
            exact ih
      · have closed : ensureActive inner =
            .error (.contextClosed inner.id inner.data.state) := if_neg active
        rw [closed]
        simp [active, bind, Except.bind]

theorem hasIn_eq_presence : hasIn name chain = presence name (nearestEntry name chain) := by
  rw [← findIn_eq_nearest]
  induction chain with
  | nil => simp [hasIn, findIn, presence]
  | cons inner above ih =>
      rw [hasIn, findIn]
      by_cases active : inner.data.state = .active
      · have passes : ensureActive inner = .ok () := if_pos active
        rw [passes]
        cases found : inner.data.services.lookup? name with
        | some entry => rfl
        | none => exact ih
      · have closed : ensureActive inner =
            .error (.contextClosed inner.id inner.data.state) := if_neg active
        rw [closed]
        simp [bind, Except.bind, presence]

variable {context : ContextRef} {fiber : FiberRef} {record : FiberRecord} {scopes : List ContextRef}

namespace Contexts

variable {contexts after last : Contexts V}

/-- What holds of all contexts between any two steps: a scope has its parent's path above
it, a fiber's scope is a child of the context it was mounted in, and a context registers
only fibers that were mounted in it. -/
structure WellFormed (contexts : Contexts V) : Prop where
  tree : ∀ (context : ContextRef) (inner : ContextInner V),
    contexts.scopes[context]? = some inner →
    inner.parents = [] ∨ ∃ parent < context, inner.parents = contexts.path parent
  fibers : ∀ (fiber : FiberRef) (record : FiberRecord),
    contexts.fibers[fiber]? = some record →
    contexts.parents record.scope = contexts.path record.parent
  registered : ∀ (context : ContextRef) (inner : ContextInner V) (fiber : FiberRef),
    contexts.scopes[context]? = some inner → fiber ∈ inner.data.fibers.keys →
      ∃ record, contexts.fibers[fiber]? = some record ∧ record.parent = context

theorem parents_of_getElem? {inner : ContextInner V}
    (found : contexts.scopes[context]? = some inner) :
    contexts.parents context = inner.parents := by
  rw [parents, found]
  rfl

theorem mem_path_self (contexts : Contexts V) (context : ContextRef) :
    context ∈ contexts.path context := List.mem_cons_self

/-- What lies above a scope above another one lies above that one. -/
theorem WellFormed.path_subset (formed : contexts.WellFormed) {above : ContextRef}
    (member : above ∈ contexts.path context) :
    contexts.path above ⊆ contexts.path context := by
  induction context using Nat.strong_induction_on with
  | _ context ih =>
      rcases List.mem_cons.mp member with same | higher
      · rw [same]
        exact List.Subset.refl _
      · cases found : contexts.scopes[context]? with
        | none =>
            rw [parents, found] at higher
            cases higher
        | some inner =>
            rw [parents_of_getElem? found] at higher
            rcases formed.tree context inner found with root | ⟨parent, before, below⟩
            · rw [root] at higher
              cases higher
            · rw [below] at higher
              intro other inPath
              apply List.mem_cons_of_mem
              rw [parents_of_getElem? found, below]
              exact ih parent before higher inPath

theorem lt_of_parents_ne_nil (above : contexts.parents context ≠ []) :
    context < contexts.scopes.length := by
  by_contra unknown
  apply above
  rw [parents, List.getElem?_eq_none (Nat.le_of_not_lt unknown)]
  rfl

/-- The scope and the parent of a fiber are scopes that were made. -/
theorem WellFormed.fiber_known (formed : contexts.WellFormed)
    (found : contexts.fibers[fiber]? = some record) :
    record.scope < contexts.scopes.length ∧ record.parent < contexts.scopes.length := by
  have child := formed.fibers fiber record found
  have known : record.scope < contexts.scopes.length := by
    apply lt_of_parents_ne_nil
    rw [child]
    exact List.cons_ne_nil _ _
  refine ⟨known, ?_⟩
  have foundScope := List.getElem?_eq_getElem known
  rw [parents_of_getElem? foundScope] at child
  rcases formed.tree _ _ foundScope with root | ⟨parent, before, below⟩
  · rw [child] at root
    cases root
  · rw [child] at below
    have same : record.parent = parent := (List.cons.inj below).1
    rw [same]
    exact before.trans known

/-- Scopes and fibers are only added. -/
structure Grown (contexts after : Contexts V) : Prop where
  scopes : ∀ (context : ContextRef) (inner : ContextInner V),
    contexts.scopes[context]? = some inner → ∃ later, after.scopes[context]? = some later ∧ later.id = inner.id ∧
      later.parents = inner.parents
  fibers : ∀ (fiber : FiberRef) (record : FiberRecord),
    contexts.fibers[fiber]? = some record → ∃ later, after.fibers[fiber]? = some later ∧ later.scope = record.scope ∧
      later.parent = record.parent

theorem Grown.refl (contexts : Contexts V) : contexts.Grown contexts :=
  ⟨fun _ inner found => ⟨inner, found, rfl, rfl⟩, fun _ record found => ⟨record, found, rfl, rfl⟩⟩

theorem Grown.trans (earlier : contexts.Grown after) (later : after.Grown last) :
    contexts.Grown last where
  scopes context inner found := by
    obtain ⟨middle, foundMiddle, sameId, sameParents⟩ := earlier.scopes context inner found
    obtain ⟨final, foundFinal, id, parents⟩ := later.scopes context middle foundMiddle
    exact ⟨final, foundFinal, id.trans sameId, parents.trans sameParents⟩
  fibers fiber record found := by
    obtain ⟨middle, foundMiddle, sameScope, sameParent⟩ := earlier.fibers fiber record found
    obtain ⟨final, foundFinal, scope, parent⟩ := later.fibers fiber middle foundMiddle
    exact ⟨final, foundFinal, scope.trans sameScope, parent.trans sameParent⟩

theorem Grown.path {inner : ContextInner V}
    (grown : contexts.Grown after) (found : contexts.scopes[context]? = some inner) :
    after.path context = contexts.path context := by
  obtain ⟨later, foundLater, -, sameParents⟩ := grown.scopes context inner found
  unfold Contexts.path
  rw [parents_of_getElem? found, parents_of_getElem? foundLater, sameParents]

/-- A scope shows the same: its state and its services are as they were. -/
def ShowsSame (contexts after : Contexts V) (context : ContextRef) : Prop :=
  ∀ inner : ContextInner V, contexts.scopes[context]? = some inner → ∃ later,
    after.scopes[context]? = some later ∧ later.data.state = inner.data.state ∧
      later.data.services = inner.data.services

/-- What a step may do: scopes and fibers are only added, and scopes that are neither at
nor below the given ones or those that operations were applied through show the same. -/
structure Kept (scopes : List ContextRef) (contexts after : Contexts V) : Prop where
  formed : after.WellFormed
  grown : contexts.Grown after
  shown : ∃ calls, after.calls = contexts.calls ++ calls ∧ ∀ context,
    (∀ scope ∈ scopes ++ calls, scope ∉ contexts.path context) →
      contexts.ShowsSame after context

theorem Kept.refl (scopes : List ContextRef) (formed : contexts.WellFormed) :
    Kept scopes contexts contexts :=
  ⟨formed, .refl contexts, [], (List.append_nil _).symm,
    fun _ _ inner found => ⟨inner, found, rfl, rfl⟩⟩

theorem Kept.trans (earlier : Kept scopes contexts after)
    (later : Kept scopes after last) :
    Kept scopes contexts last where
  formed := later.formed
  grown := earlier.grown.trans later.grown
  shown := by
    obtain ⟨calls, noted, shown⟩ := earlier.shown
    obtain ⟨moreCalls, notedMore, shownMore⟩ := later.shown
    refine ⟨calls ++ moreCalls, by rw [notedMore, noted, List.append_assoc], ?_⟩
    intro context outside inner found
    obtain ⟨middle, foundMiddle, sameState, sameServices⟩ :=
      shown context (fun scope member => outside scope (by
        rw [← List.append_assoc]
        exact List.mem_append_left _ member)) inner found
    have stillOutside : ∀ scope ∈ scopes ++ moreCalls, scope ∉ after.path context := by
      intro scope member
      rw [earlier.grown.path found]
      apply outside scope
      rcases List.mem_append.mp member with given | called
      · exact List.mem_append_left _ given
      · exact List.mem_append_right _ (List.mem_append_right _ called)
    obtain ⟨final, foundFinal, state, services⟩ :=
      shownMore context stillOutside middle foundMiddle
    exact ⟨final, foundFinal, state.trans sameState, services.trans sameServices⟩

/-- Scopes at or below others may be left out for these. -/
theorem Kept.mono {others : List ContextRef} (kept : Kept scopes contexts after)
    (formed : contexts.WellFormed)
    (covered : ∀ scope ∈ scopes, ∃ other ∈ others, other ∈ contexts.path scope) :
    Kept others contexts after where
  formed := kept.formed
  grown := kept.grown
  shown := by
    obtain ⟨calls, noted, shown⟩ := kept.shown
    refine ⟨calls, noted, fun context outside => shown context ?_⟩
    intro scope member above
    rcases List.mem_append.mp member with given | called
    · obtain ⟨other, isOther, inPath⟩ := covered scope given
      exact outside other (List.mem_append_left _ isOther)
        (formed.path_subset above inPath)
    · exact outside scope (List.mem_append_right _ called) above

theorem getElem?_changeData (contexts : Contexts V) (context other : ContextRef)
    (change : ContextData V → ContextData V) :
    (contexts.changeData context change).scopes[other]? =
      (contexts.scopes[other]?).map fun inner =>
        if context = other then { inner with data := change inner.data } else inner := by
  rw [changeData, List.getElem?_modify]
  rfl

@[simp] theorem parents_changeData (contexts : Contexts V) (context other : ContextRef)
    (change : ContextData V → ContextData V) :
    (contexts.changeData context change).parents other = contexts.parents other := by
  unfold parents
  rw [getElem?_changeData]
  cases contexts.scopes[other]? with
  | none => rfl
  | some inner => by_cases same : context = other <;> simp [same]

@[simp] theorem path_changeData (contexts : Contexts V) (context other : ContextRef)
    (change : ContextData V → ContextData V) :
    (contexts.changeData context change).path other = contexts.path other := by
  unfold path
  rw [parents_changeData]

/-- The data of one scope changes; it may register fibers that were mounted in it.  The
scope is one of the given ones, or shows the same. -/
theorem WellFormed.changeData (formed : contexts.WellFormed)
    (context : ContextRef) (change : ContextData V → ContextData V)
    (registers : ∀ inner fiber, contexts.scopes[context]? = some inner →
      fiber ∈ (change inner.data).fibers.keys → fiber ∈ inner.data.fibers.keys ∨
        ∃ record, contexts.fibers[fiber]? = some record ∧ record.parent = context)
    (shows : context ∈ scopes ∨ ∀ data, (change data).state = data.state ∧
      (change data).services = data.services) :
    Kept scopes contexts (contexts.changeData context change) := by
  constructor
  · constructor
    · intro other inner found
      rw [getElem?_changeData, Option.map_eq_some_iff] at found
      obtain ⟨old, foundOld, rfl⟩ := found
      simp only [path_changeData]
      split <;> exact formed.tree other old foundOld
    · intro fiber record found
      rw [parents_changeData, path_changeData]
      exact formed.fibers fiber record found
    · intro other inner fiber found registered
      rw [getElem?_changeData, Option.map_eq_some_iff] at found
      obtain ⟨old, foundOld, rfl⟩ := found
      by_cases same : context = other
      · subst same
        rw [if_pos rfl] at registered
        rcases registers old fiber foundOld registered with before | new
        · exact formed.registered context old fiber foundOld before
        · exact new
      · rw [if_neg same] at registered
        exact formed.registered other old fiber foundOld registered
  · constructor
    · intro other inner found
      refine ⟨_, by rw [getElem?_changeData, found]; rfl, ?_⟩
      split <;> exact ⟨rfl, rfl⟩
    · exact fun _ record found => ⟨record, found, rfl, rfl⟩
  · refine ⟨[], (List.append_nil _).symm, ?_⟩
    intro other outside inner found
    refine ⟨_, by rw [getElem?_changeData, found]; rfl, ?_⟩
    by_cases same : context = other
    · subst same
      simp only [if_true]
      rcases shows with given | alike
      · exact absurd (mem_path_self _ _) (outside context (List.mem_append_left _ given))
      · exact alike inner.data
    · simp [same]

/-- The record of a fiber changes, but neither its scope nor its parent. -/
theorem WellFormed.changeFiber (formed : contexts.WellFormed) (scopes : List ContextRef)
    (fiber : FiberRef) (change : FiberRecord → FiberRecord)
    (same : ∀ record, (change record).scope = record.scope ∧
      (change record).parent = record.parent) :
    Kept scopes contexts { contexts with fibers := contexts.fibers.modify fiber change } := by
  have fibers : ∀ (other : FiberRef) (record : FiberRecord),
      contexts.fibers[other]? = some record →
        ∃ later, (contexts.fibers.modify fiber change)[other]? = some later ∧
          later.scope = record.scope ∧ later.parent = record.parent := by
    intro other record found
    rw [List.getElem?_modify, found]
    refine ⟨_, rfl, ?_⟩
    split
    · exact same record
    · exact ⟨rfl, rfl⟩
  constructor
  · constructor
    · exact formed.tree
    · intro other record found
      rw [List.getElem?_modify] at found
      obtain ⟨old, foundOld, rfl⟩ := Option.map_eq_some_iff.mp found
      have kept := formed.fibers other old foundOld
      split
      · rw [(same old).1, (same old).2]
        exact kept
      · exact kept
    · intro context inner other found registered
      obtain ⟨record, foundRecord, parent⟩ := formed.registered context inner other found
        registered
      obtain ⟨later, foundLater, -, sameParent⟩ := fibers other record foundRecord
      exact ⟨later, foundLater, sameParent.trans parent⟩
  · exact ⟨fun _ inner found => ⟨inner, found, rfl, rfl⟩, fibers⟩
  · exact ⟨[], (List.append_nil _).symm, fun _ _ inner found => ⟨inner, found, rfl, rfl⟩⟩

theorem parents_addScope {parents : List ContextRef}
    (known : context < contexts.scopes.length) :
    (contexts.addScope parents).parents context = contexts.parents context := by
  unfold Contexts.parents addScope
  rw [List.getElem?_append_left known]

/-- A new scope, under one that exists or under none. -/
theorem WellFormed.addScope (formed : contexts.WellFormed) (scopes : List ContextRef)
    {parents : List ContextRef}
    (above : parents = [] ∨ ∃ parent < contexts.scopes.length, parents = contexts.path parent) :
    Kept scopes contexts (contexts.addScope parents) := by
  have stays : ∀ (context : ContextRef) (inner : ContextInner V),
      contexts.scopes[context]? = some inner →
        (contexts.addScope parents).scopes[context]? = some inner := by
    intro context inner found
    rw [Contexts.addScope, List.getElem?_append_left (List.getElem?_eq_some_iff.mp found).1]
    exact found
  have samePath : ∀ context < contexts.scopes.length,
      (contexts.addScope parents).path context = contexts.path context := by
    intro context known
    unfold path
    rw [parents_addScope known]
  constructor
  · constructor
    · intro context inner found
      by_cases old : context < contexts.scopes.length
      · have foundOld : contexts.scopes[context]? = some inner := by
          rwa [Contexts.addScope, List.getElem?_append_left old] at found
        rcases formed.tree context inner foundOld with root | ⟨parent, before, below⟩
        · exact .inl root
        · exact .inr ⟨parent, before, by rw [samePath parent (before.trans old), below]⟩
      · have isNew : context = contexts.scopes.length ∧ inner.parents = parents := by
          rw [Contexts.addScope, List.getElem?_append_right (Nat.le_of_not_lt old),
            List.getElem?_singleton] at found
          split at found
          · case isTrue atEnd =>
              cases found
              exact ⟨Nat.le_antisymm (Nat.sub_eq_zero_iff_le.mp atEnd)
                (Nat.le_of_not_lt old), rfl⟩
          · cases found
        rw [isNew.1, isNew.2]
        rcases above with root | ⟨parent, known, below⟩
        · exact .inl root
        · exact .inr ⟨parent, known, by rw [samePath parent known, below]⟩
    · intro fiber record found
      obtain ⟨scopeKnown, parentKnown⟩ := formed.fiber_known found
      rw [parents_addScope scopeKnown, samePath record.parent parentKnown]
      exact formed.fibers fiber record found
    · intro context inner fiber found registered
      by_cases old : context < contexts.scopes.length
      · rw [Contexts.addScope, List.getElem?_append_left old] at found
        exact formed.registered context inner fiber found registered
      · rw [Contexts.addScope, List.getElem?_append_right (Nat.le_of_not_lt old),
          List.getElem?_singleton] at found
        split at found
        · cases found
          cases registered
        · cases found
  · exact ⟨fun context inner found => ⟨inner, stays context inner found, rfl, rfl⟩,
      fun _ record found => ⟨record, found, rfl, rfl⟩⟩
  · exact ⟨[], (List.append_nil _).symm,
      fun context _ inner found => ⟨inner, stays context inner found, rfl, rfl⟩⟩

/-- A new fiber, whose scope is a child of the context it is mounted in. -/
theorem WellFormed.addFiber (formed : contexts.WellFormed) (scopes : List ContextRef)
    (pluginId : PluginId) {scope parent : ContextRef}
    (child : contexts.parents scope = contexts.path parent) :
    Kept scopes contexts (contexts.addFiber pluginId scope parent) := by
  have stays : ∀ (fiber : FiberRef) (record : FiberRecord),
      contexts.fibers[fiber]? = some record →
        (contexts.addFiber pluginId scope parent).fibers[fiber]? = some record := by
    intro fiber record found
    rw [Contexts.addFiber, List.getElem?_append_left (List.getElem?_eq_some_iff.mp found).1]
    exact found
  constructor
  · constructor
    · exact formed.tree
    · intro fiber record found
      rw [Contexts.addFiber, List.getElem?_append] at found
      split at found
      · exact formed.fibers fiber record found
      · rw [List.getElem?_singleton] at found
        split at found
        · cases found
          exact child
        · cases found
    · intro context inner fiber found registered
      obtain ⟨record, foundRecord, sameParent⟩ := formed.registered context inner fiber found
        registered
      exact ⟨record, stays fiber record foundRecord, sameParent⟩
  · exact ⟨fun _ inner found => ⟨inner, found, rfl, rfl⟩,
      fun fiber record found => ⟨record, stays fiber record found, rfl, rfl⟩⟩
  · exact ⟨[], (List.append_nil _).symm, fun _ _ inner found => ⟨inner, found, rfl, rfl⟩⟩

/-- Noting calls. -/
theorem WellFormed.note (formed : contexts.WellFormed) (scopes calls : List ContextRef) :
    Kept scopes contexts { contexts with calls := contexts.calls ++ calls } :=
  ⟨⟨formed.tree, formed.fibers, formed.registered⟩,
    ⟨fun _ inner found => ⟨inner, found, rfl, rfl⟩,
      fun _ record found => ⟨record, found, rfl, rfl⟩⟩,
    calls, rfl, fun _ _ inner found => ⟨inner, found, rfl, rfl⟩⟩

end Contexts

open Fallible

/-- A program only does what may be done to the given scopes. -/
def Keeps (scopes : List ContextRef) (contexts after : Contexts V) : Prop :=
  contexts.WellFormed → contexts.Kept scopes after

instance keepsRefl (scopes : List ContextRef) : Std.Refl (Keeps (V := V) scopes) where
  refl _ formed := .refl scopes formed

instance keepsTrans (scopes : List ContextRef) :
    IsTrans (Contexts V) (Keeps scopes) where
  trans _ _ _ earlier later := fun formed =>
    (earlier formed).trans (later (earlier formed).formed)

variable {contexts : Contexts V}

section Programs

variable {scopes : List ContextRef} {context : ContextRef}

variable {program : ContextM V α}

/-- What may be done to no scope may be done to any. -/
theorem Keeps.of_nil (keeps : Preserves (Keeps []) program) :
    Preserves (Keeps scopes) program :=
  fun contexts formed => (keeps contexts formed).mono formed fun _ member =>
    absurd member List.not_mem_nil

theorem exec_catchError_snd (program : ContextM V α) (contexts : Contexts V) :
    ((catchError program).exec contexts).2 = (program.exec contexts).2 := by
  unfold catchError
  rw [exec_ofFunction]
  rcases program.exec contexts with ⟨⟨⟨error⟩ | _ | _⟩ | value, final⟩ <;> rfl

theorem preserves_catchError {related : Contexts V → Contexts V → Prop}
    (preserves : Preserves related program) :
    Preserves related (catchError program) := by
  intro contexts
  rw [exec_catchError_snd]
  exact preserves contexts

theorem preserves_lift (result : Except CordisError α) :
    Preserves (Keeps scopes) (lift result : ContextM V α) := .ofExcept _

theorem preserves_fail (error : CordisError) :
    Preserves (Keeps scopes) (fail error : ContextM V α) := .throw _

theorem preserves_innerOf : Preserves (Keeps scopes) (innerOf (V := V) context) := by
  refine Preserves.get.bind fun contexts => ?_
  cases contexts.scopes[context]? with
  | some inner => exact .pure _
  | none => exact .throw _

theorem innerOf_wp {post : Except Stop (ContextInner V) → Contexts V → Prop}
    (found : ∀ inner, contexts.scopes[context]? = some inner → post (.ok inner) contexts)
    (unknown : post (.error .unreachable) contexts) :
    (innerOf context).wp post contexts := by
  unfold innerOf
  rw [wp_bind, wp_get, andThen_ok]
  cases located : contexts.scopes[context]? with
  | some inner => exact found inner located
  | none => exact unknown

theorem recordOf_wp {post : Except Stop FiberRecord → Contexts V → Prop}
    (found : ∀ record, contexts.fibers[fiber]? = some record → post (.ok record) contexts)
    (unknown : post (.error .unreachable) contexts) :
    (recordOf fiber).wp post contexts := by
  unfold recordOf
  rw [wp_bind, wp_get, andThen_ok]
  cases located : contexts.fibers[fiber]? with
  | some record => exact found record located
  | none => exact unknown

theorem preserves_ensureHierarchyActive :
    Preserves (Keeps scopes) (Context.ensureHierarchyActive (V := V) context) :=
  Preserves.get.bind fun _ => preserves_lift _

theorem ensureHierarchyActive_wp
    {post : Except Stop Unit → Contexts V → Prop} (active : post (.ok ()) contexts)
    (closed : ∀ error, post (.error (.failed error)) contexts) :
    (Context.ensureHierarchyActive context).wp post contexts := by
  unfold Context.ensureHierarchyActive
  rw [wp_bind, wp_get, andThen_ok, lift, wp_ofExcept]
  cases checkAll ensureActive (contexts.chain context) with
  | ok _ => exact active
  | error error => exact closed error

/-- Changing the data of a scope, but not the fibers it registers. -/
theorem preserves_changeData {change : ContextData V → ContextData V}
    (registers : ∀ data, (change data).fibers.keys ⊆ data.fibers.keys)
    (shows : context ∈ scopes ∨ ∀ data, (change data).state = data.state ∧
      (change data).services = data.services) :
    Preserves (Keeps scopes)
      (modify fun contexts : Contexts V => contexts.changeData context change :
        ContextM V Unit) :=
  fun _ formed => formed.changeData context change
    (fun inner _ _ member => .inl (registers inner.data member)) shows

theorem preserves_setFiberState (fiber : FiberRef) (state : FiberState) :
    Preserves (Keeps scopes)
      (modify fun contexts : Contexts V => contexts.setFiberState fiber state :
        ContextM V Unit) :=
  fun _ formed => formed.changeFiber scopes fiber _ fun _ => ⟨rfl, rfl⟩

theorem preserves_release (fiber : FiberRef) :
    Preserves (Keeps scopes)
      (modify fun contexts : Contexts V => contexts.release fiber : ContextM V Unit) :=
  fun _ formed => formed.changeFiber scopes fiber _ fun _ => ⟨rfl, rfl⟩

theorem preserves_new : Preserves (Keeps scopes) (Context.new (V := V)) :=
  Preserves.get.bind fun _ => Preserves.bind
    (fun _ formed => formed.addScope scopes (.inl rfl)) fun _ => .pure _

theorem preserves_provide (key : ServiceKey) (value : V) (inside : context ∈ scopes) :
    Preserves (Keeps scopes) (Context.provide context key value) := by
  refine (preserves_lift _).bind fun _ => preserves_ensureHierarchyActive.bind fun _ =>
    preserves_innerOf.bind fun inner => ?_
  split
  · exact preserves_fail _
  · exact preserves_changeData (fun _ => List.Subset.refl _) (.inl inside)

theorem preserves_remove (key : ServiceKey) (inside : context ∈ scopes) :
    Preserves (Keeps scopes) (Context.remove (V := V) context key) := by
  refine (preserves_lift _).bind fun _ => preserves_ensureHierarchyActive.bind fun _ =>
    preserves_innerOf.bind fun inner => ?_
  split
  · exact preserves_fail _
  · split
    · exact preserves_fail _
    · exact preserves_changeData (fun _ => List.Subset.refl _) (.inl inside)

/-- A child is made with the path of its parent above it. -/
theorem child_wp (formed : contexts.WellFormed) :
    (Context.child context).wp (fun result after => contexts.Kept scopes after ∧
      ∀ scope, result = .ok scope → after.parents scope = after.path context) contexts := by
  have stops : ∀ stop : Stop, contexts.Kept scopes contexts ∧
      ∀ scope, (.error stop : Except Stop ContextRef) = .ok scope →
        contexts.parents scope = contexts.path context :=
    fun _ => ⟨.refl scopes formed, fun _ impossible => by cases impossible⟩
  unfold Context.child
  rw [wp_bind]
  apply innerOf_wp
  · intro inner found
    rw [andThen_ok, wp_bind]
    apply ensureHierarchyActive_wp
    · have known := (List.getElem?_eq_some_iff.mp found).1
      have kept := formed.addScope scopes (.inr ⟨context, known, rfl⟩)
      refine ⟨kept, ?_⟩
      rintro _ ⟨⟩
      change (contexts.addScope (contexts.path context)).parents contexts.scopes.length =
        (contexts.addScope (contexts.path context)).path context
      rw [kept.grown.path found, Contexts.parents, Contexts.addScope,
        List.getElem?_append_right (Nat.le_refl _)]
      simp
    · exact fun error => stops _
  · exact stops _

theorem setEffect_same (data : ContextData V) (id : EffectId) (state : EffectState) :
    (data.setEffect id state).state = data.state ∧
      (data.setEffect id state).services = data.services ∧
      (data.setEffect id state).fibers = data.fibers := by
  unfold ContextData.setEffect
  cases data.effects.lookup? id <;> exact ⟨rfl, rfl, rfl⟩

theorem preserves_setEffect (id : EffectId) (state : EffectState) :
    Preserves (Keeps scopes)
      (modify fun contexts : Contexts V => contexts.changeData context fun data =>
        data.setEffect id state : ContextM V Unit) := by
  refine preserves_changeData ?_ (.inr fun data => ?_)
  · intro data
    rw [(setEffect_same data id state).2.2]
    exact List.Subset.refl _
  · exact ⟨(setEffect_same data id state).1, (setEffect_same data id state).2.1⟩

theorem preserves_installEffect (id : EffectId) (disposer : Script V) :
    Preserves (Keeps scopes) (Context.installEffect context id disposer) := by
  refine preserves_innerOf.bind fun _ => preserves_ensureHierarchyActive.bind fun _ =>
    Preserves.bind ?_ fun _ => .pure _
  exact preserves_changeData (fun _ => List.Subset.refl _) (.inr fun _ => ⟨rfl, rfl⟩)

/-- What is done from here on is done from the start on. -/
theorem Contexts.Kept.wp {middle : Contexts V}
    (earlier : contexts.Kept scopes middle)
    (later : program.wp (fun _ after => middle.Kept scopes after) middle) :
    program.wp (fun _ after => contexts.Kept scopes after) middle :=
  wp_mono later fun _ _ kept => earlier.trans kept

theorem catchError_wp
    {property : Contexts V → Prop} (holds : program.wp (fun _ after => property after) contexts) :
    (catchError program).wp (fun _ after => property after) contexts := by
  unfold wp at holds ⊢
  rwa [exec_catchError_snd]

theorem keeps_wp (formed : contexts.WellFormed)
    (keeps : Preserves (Keeps scopes) program) :
    program.wp (fun _ after => contexts.Kept scopes after) contexts :=
  keeps contexts formed

theorem preserves_of_wp (keeps : ∀ contexts : Contexts V, contexts.WellFormed →
      program.wp (fun _ after => contexts.Kept scopes after) contexts) :
    Preserves (Keeps scopes) program :=
  keeps

theorem beginUnmounting_kept (formed : contexts.WellFormed)
    (fibers : List FiberRef) :
    contexts.Kept scopes (contexts.beginUnmounting fibers) := by
  unfold Contexts.beginUnmounting
  induction fibers generalizing contexts with
  | nil => exact .refl scopes formed
  | cons fiber rest ih =>
      have first : contexts.Kept scopes
          (if (contexts.fibers[fiber]?).any (·.state.live) then
            contexts.setFiberState fiber .unmounting else contexts) := by
        split
        · exact formed.changeFiber scopes fiber _ fun _ => ⟨rfl, rfl⟩
        · exact .refl scopes formed
      exact first.trans (ih first.formed)

section Foreign

variable {runCode : Script V → ContextM V (Option (Except String Unit))}
  {disposeScope : ContextRef → ContextM V Unit}

theorem preserves_runEffect (codeKeeps : ∀ script, Preserves (Keeps []) (runCode script))
    (disposer : Script V) :
    Preserves (Keeps scopes) (runEffect runCode disposer) := by
  refine (Keeps.of_nil (codeKeeps disposer)).bind fun result => ?_
  cases result with
  | some result => exact .pure _
  | none => exact .pure _

theorem preserves_disposeEffect (codeKeeps : ∀ script, Preserves (Keeps []) (runCode script))
    (id : EffectId) :
    Preserves (Keeps scopes) (Context.disposeEffect runCode context id) := by
  refine preserves_innerOf.bind fun inner => ?_
  split
  · exact preserves_fail _
  · split
    · exact preserves_fail _
    · split
      · exact .throw _
      · refine Preserves.bind ?_ fun _ => (preserves_runEffect codeKeeps _).bind fun _ =>
          (preserves_setEffect id _).bind fun _ => preserves_lift _
        exact preserves_changeData (fun _ => List.Subset.refl _) (.inr fun _ => ⟨rfl, rfl⟩)

theorem preserves_disposeEffects (codeKeeps : ∀ script, Preserves (Keeps []) (runCode script))
    (effects : List (EffectId × Script V)) (first : Option CordisError) :
    Preserves (Keeps scopes) (disposeEffects runCode context effects first) := by
  induction effects generalizing first with
  | nil => exact .pure _
  | cons effect rest ih =>
      exact (preserves_runEffect codeKeeps _).bind fun _ =>
        (preserves_setEffect _ _).bind fun _ => ih _

/-- Disposing a child of a scope is done to that scope. -/
theorem disposeScope_wp (disposeKeeps : ∀ scope, Preserves (Keeps [scope]) (disposeScope scope))
    (formed : contexts.WellFormed) {scope : ContextRef}
    (child : contexts.parents scope = contexts.path context) :
    (disposeScope scope).wp (fun _ after => contexts.Kept [context] after) contexts := by
  refine (disposeKeeps scope contexts formed).mono formed ?_
  intro other member
  rw [List.mem_singleton.mp member]
  refine ⟨context, List.mem_singleton_self _, ?_⟩
  unfold Contexts.path
  rw [child]
  exact List.mem_cons_of_mem _ (Contexts.mem_path_self _ _)

/-- The fibers were mounted in the scope. -/
def MountedIn (contexts : Contexts V) (context : ContextRef) (fibers : List FiberRef) : Prop :=
  ∀ fiber ∈ fibers, ∃ record, contexts.fibers[fiber]? = some record ∧ record.parent = context

theorem MountedIn.grown {after : Contexts V} {fibers : List FiberRef}
    (mounted : MountedIn contexts context fibers) (grown : contexts.Grown after) :
    MountedIn after context fibers := by
  intro fiber member
  obtain ⟨record, found, parent⟩ := mounted fiber member
  obtain ⟨later, foundLater, -, sameParent⟩ := grown.fibers fiber record found
  exact ⟨later, foundLater, sameParent.trans parent⟩

theorem disposeFibers_wp
    (disposeKeeps : ∀ scope, Preserves (Keeps [scope]) (disposeScope scope))
    (fibers : List FiberRef) (first : Option CordisError)
    (formed : contexts.WellFormed) (mounted : MountedIn contexts context fibers) :
    (disposeFibers disposeScope fibers first).wp
      (fun _ after => contexts.Kept [context] after) contexts := by
  induction fibers generalizing first contexts with
  | nil => exact .refl [context] formed
  | cons fiber rest ih =>
      rw [disposeFibers, wp_bind]
      apply recordOf_wp
      · intro record found
        obtain ⟨same, foundSame, parent⟩ := mounted fiber List.mem_cons_self
        rw [found, Option.some.injEq] at foundSame
        subst foundSame
        have child : contexts.parents record.scope = contexts.path context := by
          rw [formed.fibers fiber record found, parent]
        rw [andThen_ok]
        refine wp_bind_of (catchError_wp (disposeScope_wp disposeKeeps formed child))
          ?_ fun _ _ kept => kept
        intro result middle kept
        have marked : middle.Kept [context] (middle.setFiberState fiber .unmounted) :=
          kept.formed.changeFiber [context] fiber _ fun _ => ⟨rfl, rfl⟩
        rw [wp_bind, wp_modify, andThen_ok]
        refine (kept.trans marked).wp (ih _ marked.formed ?_)
        intro other member
        exact (mounted.grown (kept.trans marked).grown) other (List.mem_cons_of_mem _ member)
      · exact .refl [context] formed

/-- `dispose` only does what may be done to its scope. -/
theorem preserves_dispose (codeKeeps : ∀ script, Preserves (Keeps []) (runCode script))
    (disposeKeeps : ∀ scope, Preserves (Keeps [scope]) (disposeScope scope)) :
    Preserves (Keeps [context]) (Context.dispose runCode disposeScope context) := by
  intro contexts formed
  change (Context.dispose runCode disposeScope context).wp
    (fun _ after => contexts.Kept [context] after) contexts
  rw [Context.dispose, wp_bind]
  apply innerOf_wp
  · intro inner found
    rw [andThen_ok]
    split
    · exact .refl [context] formed
    · exact .refl [context] formed
    · have mounted : MountedIn contexts context
          (inner.data.fibers.keys.filter contexts.held) := by
        intro fiber member
        exact formed.registered context inner fiber found (List.mem_filter.mp member).1
      have begun : contexts.Kept [context] (contexts.beginUnmounting
          (inner.data.fibers.keys.filter contexts.held)) := beginUnmounting_kept formed _
      have ready := begun.trans (begun.formed.changeData context ContextData.beginDisposing
        (fun _ _ _ member => .inl member) (.inl (List.mem_singleton_self _)))
      rw [wp_bind, wp_get, andThen_ok, wp_bind,
        wp_modify, andThen_ok, wp_bind, wp_modify,
        andThen_ok]
      refine wp_bind_of (ready.wp (disposeFibers_wp disposeKeeps _ none ready.formed
        (mounted.grown ready.grown))) ?_ fun _ _ kept => kept
      intro first middle kept
      refine kept.wp ((Preserves.bind (preserves_disposeEffects codeKeeps _ first)
        fun last => Preserves.bind ?_ fun _ => ?_) middle kept.formed)
      · exact preserves_changeData (fun _ _ member => by cases member)
          (.inl (List.mem_singleton_self _))
      · cases last with
        | some error => exact preserves_fail error
        | none => exact .pure _
  · exact .refl [context] formed

theorem registerFiber_wp (formed : contexts.WellFormed)
    (found : contexts.fibers[fiber]? = some record)
    (parent : record.parent = context) :
    (Context.registerFiber context fiber).wp (fun _ after => contexts.Kept scopes after)
      contexts := by
  have unchanged : contexts.Kept scopes contexts := .refl scopes formed
  rw [Context.registerFiber, wp_bind]
  apply ensureHierarchyActive_wp
  · rw [andThen_ok, wp_bind]
    apply innerOf_wp
    · intro inner _
      rw [andThen_ok, wp_bind]
      apply recordOf_wp
      · intro same _
        rw [andThen_ok, wp_bind, wp_get, andThen_ok]
        split
        · exact unchanged
        · rw [wp_modify]
          refine formed.changeData context _ ?_ (.inr fun _ => ⟨rfl, rfl⟩)
          intro inner other _ member
          rcases SortedMap.mem_keys_insert member with new | old
          · exact .inr ⟨record, by rw [new]; exact found, parent⟩
          · exact .inl old
      · exact unchanged
    · exact unchanged
  · exact fun _ => unchanged

theorem preserves_unregisterFiber (fiber : FiberRef) :
    Preserves (Keeps scopes) (Context.unregisterFiber (V := V) context fiber) := by
  refine preserves_changeData ?_ (.inr fun _ => ⟨rfl, rfl⟩)
  exact fun _ _ member => SortedMap.mem_keys_erase member

theorem unmount_wp (disposeKeeps : ∀ scope, Preserves (Keeps [scope]) (disposeScope scope))
    (fiber : FiberRef) (formed : contexts.WellFormed) :
    (Fiber.unmount disposeScope fiber).wp (fun _ after =>
      contexts.Kept ((contexts.fibers[fiber]?).map FiberRecord.scope).toList after)
      contexts := by
  rw [Fiber.unmount, wp_bind]
  apply recordOf_wp
  · intro record found
    rw [andThen_ok, found]
    refine keeps_wp formed ?_
    split
    · exact .pure _
    · exact (preserves_setFiberState fiber _).bind fun _ => preserves_unregisterFiber fiber
    · exact preserves_fail _
    · exact preserves_fail _
    · exact (preserves_setFiberState fiber _).bind fun _ =>
        (preserves_catchError (disposeKeeps record.scope)).bind fun result =>
          (preserves_setFiberState fiber _).bind fun _ =>
            (preserves_unregisterFiber fiber).bind fun _ => preserves_lift _
  · exact .refl _ formed

theorem drop_wp (disposeKeeps : ∀ scope, Preserves (Keeps [scope]) (disposeScope scope))
    (fiber : FiberRef) (formed : contexts.WellFormed) :
    (Fiber.drop disposeScope fiber).wp (fun _ after =>
      contexts.Kept ((contexts.fibers[fiber]?).map FiberRecord.scope).toList after)
      contexts :=
  wp_bind_of (catchError_wp (unmount_wp disposeKeeps fiber formed))
    (fun _ _ kept => kept.wp (preserves_release fiber _ kept.formed)) fun _ _ kept => kept

/-- Mounting that fails disposes the scope of the fiber. -/
theorem failMount_wp (disposeKeeps : ∀ scope, Preserves (Keeps [scope]) (disposeScope scope))
    (formed : contexts.WellFormed)
    (found : contexts.fibers[fiber]? = some record)
    (plugin : PluginId) (message : String) :
    (failMount disposeScope context fiber record.scope plugin message).wp
      (fun _ after => contexts.Kept [record.scope] after) contexts := by
  have marked : contexts.Kept [record.scope] (contexts.setFiberState fiber .failed) :=
    formed.changeFiber _ fiber _ fun _ => ⟨rfl, rfl⟩
  rw [failMount, wp_bind, wp_modify, andThen_ok]
  refine wp_bind_of (marked.wp (keeps_wp marked.formed
    (preserves_catchError (disposeKeeps record.scope)))) ?_ fun _ _ kept => kept
  intro cleanup middle disposed
  refine wp_bind_of (disposed.wp (keeps_wp disposed.formed
    (preserves_unregisterFiber fiber))) ?_ fun _ _ kept => kept
  intro _ unregistered kept
  obtain ⟨later, foundLater, sameScope, -⟩ := kept.grown.fibers fiber record found
  have dropped := drop_wp disposeKeeps fiber kept.formed
  rw [foundLater, Option.map_some, Option.toList_some, sameScope] at dropped
  refine wp_bind_of (kept.wp dropped) ?_ fun _ _ kept => kept
  intro _ last kept
  refine kept.wp (keeps_wp kept.formed ?_)
  cases cleanup with
  | ok _ => exact preserves_fail _
  | error error => exact preserves_fail _

/-- Mounting a fiber only does what may be done to the context it is mounted in. -/
theorem mountFiber_wp (codeKeeps : ∀ script, Preserves (Keeps []) (runCode script))
    (disposeKeeps : ∀ scope, Preserves (Keeps [scope]) (disposeScope scope))
    (formed : contexts.WellFormed)
    (found : contexts.fibers[fiber]? = some record)
    (parent : record.parent = context) (plugin : PluginId) (body : Script V) :
    (Context.mountFiber runCode disposeScope context fiber record.scope plugin body).wp
      (fun _ after => contexts.Kept [context] after) contexts := by
  -- in every later state the scope of the fiber is still a child of the context
  have isChild : ∀ later : Contexts V, contexts.Kept [context] later →
      later.parents record.scope = later.path context ∧ ∃ same,
        later.fibers[fiber]? = some same ∧ same.scope = record.scope := by
    intro later kept
    obtain ⟨same, foundLater, sameScope, sameParent⟩ := kept.grown.fibers fiber record found
    have child := kept.formed.fibers fiber same foundLater
    rw [sameScope, sameParent, parent] at child
    exact ⟨child, same, foundLater, sameScope⟩
  refine wp_bind_of (catchError_wp (registerFiber_wp formed found parent)) ?_
    fun _ _ kept => kept
  intro registered second kept
  cases registered with
  | error error =>
      have disposed := disposeScope_wp disposeKeeps kept.formed (isChild second kept).1
      refine wp_bind_of (kept.wp (catchError_wp disposed)) ?_ fun _ _ kept => kept
      intro _ third kept
      exact kept.wp (keeps_wp kept.formed ((preserves_release fiber).bind fun _ =>
        preserves_fail error))
  | ok _ =>
      refine wp_bind_of (kept.wp (keeps_wp kept.formed (Keeps.of_nil (codeKeeps body))))
        ?_ fun _ _ kept => kept
      intro returned third kept
      obtain ⟨child, same, foundLater, sameScope⟩ := isChild third kept
      have fails : ∀ message, (failMount disposeScope context fiber record.scope plugin
          message).wp (fun _ after => contexts.Kept [context] after) third := by
        intro message
        rw [← sameScope] at child ⊢
        refine wp_mono (failMount_wp disposeKeeps kept.formed foundLater plugin
          message) fun _ _ failed => kept.trans (failed.mono kept.formed ?_)
        intro scope member
        rw [List.mem_singleton.mp member]
        refine ⟨context, List.mem_singleton_self _, ?_⟩
        unfold Contexts.path
        rw [child]
        exact List.mem_cons_of_mem _ (Contexts.mem_path_self _ _)
      rcases returned with _ | (message | _)
      · exact fails _
      · exact fails message
      · exact kept.wp (keeps_wp kept.formed ((preserves_setFiberState fiber _).bind fun _ =>
          .pure _))

/-- `mount` only does what may be done to its context. -/
theorem preserves_mount (codeKeeps : ∀ script, Preserves (Keeps []) (runCode script))
    (disposeKeeps : ∀ scope, Preserves (Keeps [scope]) (disposeScope scope)) (id : String)
    (dependencies : Option (List ServiceDependency)) (body : ContextRef → Script V) :
    Preserves (Keeps [context])
      (Context.mount runCode disposeScope context id dependencies body) := by
  refine (preserves_lift _).bind fun plugin => ?_
  cases dependencies with
  | none => exact preserves_fail _
  | some dependencies =>
      simp only []
      split
      · exact preserves_fail _
      · refine Preserves.get.bind fun _ => (preserves_lift _).bind fun _ => ?_
        refine preserves_of_wp fun contexts formed => ?_
        refine wp_bind_of (child_wp formed) ?_ fun _ _ kept => kept.1
        rintro scope middle ⟨made, isChild⟩
        have added : middle.Kept [context] (middle.addFiber plugin scope context) :=
          made.formed.addFiber [context] plugin (isChild scope rfl)
        have found : (middle.addFiber plugin scope context).fibers[middle.fibers.length]? =
            some ⟨middle.fibers.length + 1, plugin, scope, context, .mounting, true⟩ := by
          simp [Contexts.addFiber]
        rw [wp_bind, wp_get, andThen_ok, wp_bind,
          wp_modify, andThen_ok]
        exact (made.trans added).wp
          (mountFiber_wp codeKeeps disposeKeeps added.formed found rfl plugin (body scope))

theorem preserves_child : Preserves (Keeps scopes) (Context.child (V := V) context) :=
  preserves_of_wp fun _ formed => wp_mono (child_wp formed) fun _ _ made => made.1

/-- An operation only does what may be done to the scope it is applied through. -/
theorem body_wp (codeKeeps : ∀ script, Preserves (Keeps []) (runCode script))
    (disposeKeeps : ∀ scope, Preserves (Keeps [scope]) (disposeScope scope))
    (operation : Operation V) (formed : contexts.WellFormed) :
    (operation.body runCode disposeScope).wp
      (fun _ after => contexts.Kept (operation.through contexts) after) contexts := by
  cases operation with
  | new => exact keeps_wp formed ((preserves_catchError preserves_new).bind fun _ => .pure _)
  | child context =>
      exact keeps_wp formed ((preserves_catchError preserves_child).bind fun _ => .pure _)
  | provide context key value =>
      exact keeps_wp formed ((preserves_catchError (preserves_provide key value
        (List.mem_singleton_self _))).bind fun _ => .pure _)
  | service context key => exact keeps_wp formed (Preserves.get.bind fun _ => .pure _)
  | hasService context key => exact keeps_wp formed (Preserves.get.bind fun _ => .pure _)
  | remove context key =>
      exact keeps_wp formed ((preserves_catchError (preserves_remove key
        (List.mem_singleton_self _))).bind fun _ => .pure _)
  | installEffect context id disposer =>
      exact keeps_wp formed ((preserves_catchError (preserves_installEffect id disposer)).bind
        fun _ => .pure _)
  | disposeEffect context id =>
      exact keeps_wp formed ((preserves_catchError (preserves_disposeEffect codeKeeps id)).bind
        fun _ => .pure _)
  | mount context id dependencies body =>
      exact keeps_wp formed ((preserves_catchError (preserves_mount codeKeeps disposeKeeps id
        dependencies body)).bind fun _ => .pure _)
  | unmount fiber =>
      exact wp_bind_of (catchError_wp (unmount_wp disposeKeeps fiber formed))
        (fun _ _ kept => kept) fun _ _ kept => kept
  | dropFiber fiber =>
      exact wp_bind_of (drop_wp disposeKeeps fiber formed)
        (fun _ _ kept => kept) fun _ _ kept => kept
  | dispose context =>
      exact keeps_wp formed ((preserves_catchError (preserves_dispose codeKeeps
        disposeKeeps)).bind fun _ => .pure _)

/-- An operation that is noted may be left out of the given scopes. -/
theorem perform_wp (codeKeeps : ∀ script, Preserves (Keeps []) (runCode script))
    (disposeKeeps : ∀ scope, Preserves (Keeps [scope]) (disposeScope scope))
    (operation : Operation V) (formed : contexts.WellFormed) :
    (operation.perform runCode disposeScope).wp (fun _ after =>
      contexts.Kept [] after ∧ contexts.calls ++ operation.through contexts <+: after.calls)
      contexts := by
  have noted := formed.note [] (operation.through contexts)
  have done := body_wp codeKeeps disposeKeeps operation noted.formed
  rw [Operation.perform, wp_bind, wp_modify, andThen_ok]
  refine wp_mono done fun _ after kept => ?_
  have sameThrough : operation.through
      { contexts with calls := contexts.calls ++ operation.through contexts } =
        operation.through contexts := by
    cases operation <;> rfl
  rw [sameThrough] at kept
  obtain ⟨calls, called, shown⟩ := kept.shown
  refine ⟨⟨kept.formed, noted.grown.trans kept.grown, operation.through contexts ++ calls, ?_,
    shown⟩, ?_⟩
  · rw [called, List.append_assoc]
  · rw [called]
    exact List.prefix_append _ _

end Foreign

/-- Code of others that runs for some steps keeps what its noted calls allow. -/
theorem deep_keeps (fuel : Nat) :
    (∀ script : Script V, Preserves (Keeps []) (runScript fuel script)) ∧
      ∀ scope, Preserves (Keeps [scope]) (disposeDeep (V := V) fuel scope) := by
  induction fuel with
  | zero =>
      constructor
      · intro script
        rw [runScript]
        exact .throw _
      · intro scope
        rw [disposeDeep]
        exact .throw _
  | succ fuel ih =>
      obtain ⟨codeKeeps, disposeKeeps⟩ := ih
      constructor
      · intro script
        cases script with
        | finish result =>
            rw [runScript]
            exact .pure _
        | panic =>
            rw [runScript]
            exact .pure _
        | call operation next =>
            rw [runScript]
            refine Preserves.bind (preserves_of_wp fun _ formed => ?_) fun reply =>
              codeKeeps (next reply)
            exact wp_mono (perform_wp codeKeeps disposeKeeps operation formed)
              fun _ _ performed => performed.1
      · intro scope
        rw [disposeDeep]
        exact preserves_dispose codeKeeps disposeKeeps

end Programs

theorem contextStep_kept (formed : contexts.WellFormed)
    (action : Nat × Operation V) :
    contexts.Kept [] (contextStep contexts action) ∧
      contexts.calls ++ action.2.through contexts <+: (contextStep contexts action).calls :=
  perform_wp (deep_keeps action.1).1 (deep_keeps action.1).2 action.2 formed

theorem start_wellFormed : (Contexts.start (V := V)).WellFormed := by
  constructor <;> intro _ _ <;> simp [Contexts.start]

variable (actions : List (Nat × Operation V))

/-- All contexts after some operations, from none. -/
def contextsAfter : Contexts V :=
  finalState contextStep .start actions

theorem contextsAfter_wellFormed : (contextsAfter actions).WellFormed :=
  (throughout_of_invariant Contexts.WellFormed
    (fun _ action formed => (contextStep_kept formed action).1.formed) start_wellFormed
    actions).last

/-- What a lookup sees of a scope. -/
def ContextInner.face (inner : ContextInner V) :
    ScopeId × ScopeState × SortedMap String (ServiceEntry V) :=
  (inner.id, inner.data.state, inner.data.services)

theorem findIn_congr {chain other : List (ContextInner V)}
    (same : chain.map ContextInner.face = other.map ContextInner.face) :
    findIn name chain = findIn name other ∧ hasIn name chain = hasIn name other := by
  induction chain generalizing other with
  | nil =>
      rw [List.map_nil, eq_comm, List.map_eq_nil_iff] at same
      rw [same]
      exact ⟨rfl, rfl⟩
  | cons inner above ih =>
      cases other with
      | nil => cases same
      | cons twin rest =>
          simp only [List.map_cons, List.cons.injEq, ContextInner.face, Prod.mk.injEq] at same
          obtain ⟨⟨id, state, services⟩, tails⟩ := same
          obtain ⟨found, present⟩ := ih tails
          simp only [findIn, hasIn, ensureActive, id, state, services, found, present,
            and_self]

namespace Contexts

variable {contexts after : Contexts V}

/-- Every scope on the path of a scope that was made was made. -/
theorem WellFormed.path_known (formed : contexts.WellFormed) {above : ContextRef}
    (known : context < contexts.scopes.length) (member : above ∈ contexts.path context) :
    above < contexts.scopes.length := by
  induction context using Nat.strong_induction_on with
  | _ context ih =>
      rcases List.mem_cons.mp member with same | higher
      · rw [same]
        exact known
      · have found := List.getElem?_eq_getElem known
        rw [parents_of_getElem? found] at higher
        rcases formed.tree context _ found with root | ⟨parent, before, below⟩
        · rw [root] at higher
          cases higher
        · rw [below] at higher
          exact ih parent before (before.trans known) higher

/-- Lookups from a scope with nothing changed on its path find the same. -/
theorem Kept.lookups (formed : contexts.WellFormed)
    (kept : contexts.Kept scopes after)
    (known : context < contexts.scopes.length)
    (shown : ∀ above ∈ contexts.path context, contexts.ShowsSame after above)
    (key : ServiceKey) :
    after.service context key = contexts.service context key ∧
      after.hasService context key = contexts.hasService context key := by
  have samePath : after.path context = contexts.path context :=
    kept.grown.path (List.getElem?_eq_getElem known)
  have sameFaces : (after.chain context).map ContextInner.face =
      (contexts.chain context).map ContextInner.face := by
    unfold chain
    rw [samePath, List.map_filterMap, List.map_filterMap]
    apply List.filterMap_congr
    intro above member
    have found := List.getElem?_eq_getElem (formed.path_known known member)
    obtain ⟨later, foundLater, state, services⟩ := shown above member _ found
    obtain ⟨same, foundSame, id, -⟩ := kept.grown.scopes above _ found
    rw [foundLater, Option.some.injEq] at foundSame
    subst foundSame
    rw [found, foundLater]
    simp [ContextInner.face, id, state, services]
  obtain ⟨foundSame, presentSame⟩ := findIn_congr key.name sameFaces
  constructor
  · rw [service, service, findService, findService, foundSame]
  · rw [hasService, hasService, hasServiceName, hasServiceName, presentSame]

end Contexts

/-- The contexts that code of others applies operations through while an operation is
performed. -/
def foreignCalls (contexts : Contexts V) (action : Nat × Operation V) : List ContextRef :=
  (contextStep contexts action).calls.drop
    (contexts.calls.length + (action.2.through contexts).length)

/-- The scope is one of some scopes or below one of them. -/
def Contexts.Within (contexts : Contexts V) (scopes : List ContextRef) (context : ContextRef) :
    Prop :=
  ∃ scope ∈ scopes, scope ∈ contexts.path context

/-- An operation changes no lookup in a scope that is neither at nor below the scope it is
applied through, nor at or below one that code of others has applied operations through
meanwhile. -/
theorem step_lookups (formed : contexts.WellFormed)
    (action : Nat × Operation V)
    (known : context < contexts.scopes.length)
    (outside : ¬ contexts.Within (action.2.through contexts ++ foreignCalls contexts action)
      context) (key : ServiceKey) :
    (contextStep contexts action).service context key = contexts.service context key ∧
      (contextStep contexts action).hasService context key =
        contexts.hasService context key := by
  obtain ⟨kept, noted⟩ := contextStep_kept formed action
  obtain ⟨calls, called, shown⟩ := kept.shown
  obtain ⟨foreign, rest⟩ := noted
  have isForeign : foreignCalls contexts action = foreign := by
    rw [foreignCalls, ← rest, ← List.length_append, List.drop_left]
  have allCalls : calls = action.2.through contexts ++ foreign := by
    rw [called, List.append_assoc] at rest
    exact (List.append_cancel_left rest).symm
  refine kept.lookups formed known (fun above member => ?_) key
  apply shown
  intro scope isCall inPath
  rw [List.nil_append, allCalls, ← isForeign] at isCall
  exact outside ⟨scope, isCall, formed.path_subset member inPath⟩

/-- Whatever operations were performed before, an operation changes no lookup outside the
scope it is applied through and those code of others has applied operations through; when
that code stays at or below the scope of the operation, no lookup outside that scope.  And
a lookup finds the entry of the nearest scope that provides the name, or the nearest closed
scope up to it. -/
theorem scopes_isolated (action : Nat × Operation V) :
    (∀ context < (contextsAfter actions).scopes.length,
      ¬ (contextsAfter actions).Within (action.2.through (contextsAfter actions) ++
        foreignCalls (contextsAfter actions) action) context →
      ∀ key, (contextStep (contextsAfter actions) action).service context key =
          (contextsAfter actions).service context key ∧
        (contextStep (contextsAfter actions) action).hasService context key =
          (contextsAfter actions).hasService context key) ∧
    ((∀ scope ∈ foreignCalls (contextsAfter actions) action,
        (contextStep (contextsAfter actions) action).Within
          (action.2.through (contextsAfter actions)) scope) →
      ∀ context < (contextsAfter actions).scopes.length,
        ¬ (contextsAfter actions).Within (action.2.through (contextsAfter actions)) context →
      ∀ key, (contextStep (contextsAfter actions) action).service context key =
          (contextsAfter actions).service context key ∧
        (contextStep (contextsAfter actions) action).hasService context key =
          (contextsAfter actions).hasService context key) ∧
    ∀ context name,
      (contextsAfter actions).findService context name = (do
        validateServiceName name
        nearestEntry name ((contextsAfter actions).chain context)) ∧
      (contextsAfter actions).hasServiceName context name = (do
        validateServiceName name
        presence name (nearestEntry name ((contextsAfter actions).chain context))) := by
  have formed := contextsAfter_wellFormed actions
  refine ⟨fun context known outside => step_lookups formed action known outside, ?_, ?_⟩
  · intro confined context known outside
    apply step_lookups formed action known
    rintro ⟨scope, isCall, inPath⟩
    rcases List.mem_append.mp isCall with own | foreign
    · exact outside ⟨scope, own, inPath⟩
    · obtain ⟨through, isThrough, above⟩ := confined scope foreign
      have found := List.getElem?_eq_getElem (formed.path_known known inPath)
      rw [(contextStep_kept formed action).1.grown.path found] at above
      exact outside ⟨through, isThrough, formed.path_subset inPath above⟩
  · intro context name
    rw [Contexts.findService, Contexts.hasServiceName, findIn_eq_nearest, hasIn_eq_presence]
    exact ⟨rfl, rfl⟩

/-- A key to look up. -/
def sampleKey : ServiceKey := ⟨"test.value", ⟨1, "u32"⟩⟩

/-- A root that provides the service, two children and a child of the first one, whose
effect provides the service in the latter. -/
def sampleTree : List (Nat × Operation Nat) :=
  [(1, .new), (1, .child 0), (1, .child 0), (1, .child 1), (1, .provide 0 sampleKey 3),
    (1, .installEffect 1 0 (.call (.provide 3 sampleKey 9) fun _ => .finish (.ok ())))]

theorem scopes_isolated_sampleTree :
    (contextStep (contextsAfter sampleTree) (3, .dispose 1)).service 2 sampleKey =
        (contextsAfter sampleTree).service 2 sampleKey ∧
      (contextStep (contextsAfter sampleTree) (3, .dispose 1)).hasService 2 sampleKey =
        (contextsAfter sampleTree).hasService 2 sampleKey := by
  have paths : foreignCalls (contextsAfter sampleTree) (3, .dispose 1) = [3] ∧
      1 ∈ (contextStep (contextsAfter sampleTree) (3, .dispose 1)).path 3 ∧
      2 < (contextsAfter sampleTree).scopes.length ∧
      1 ∉ (contextsAfter sampleTree).path 2 := by decide
  obtain ⟨foreign, below, known, beside⟩ := paths
  apply (scopes_isolated sampleTree (3, .dispose 1)).2.1 _ 2 known
  · rintro ⟨scope, isThrough, inPath⟩
    rw [List.mem_singleton.mp isThrough] at inPath
    exact beside inPath
  · intro scope isForeign
    rw [foreign] at isForeign
    rw [List.mem_singleton.mp isForeign]
    exact ⟨1, List.mem_singleton_self _, below⟩

/-- Two siblings, and an effect of the first that provides a service in the second. -/
def siblings : List (Nat × Operation Nat) :=
  [(1, .new), (1, .child 0), (1, .child 0),
    (1, .installEffect 1 0 (.call (.provide 2 sampleKey 7) fun _ => .finish (.ok ())))]

/-- Disposing a scope runs its disposers, which may provide a service in a sibling. -/
theorem disposer_reaches_sibling :
    ¬ ∀ (actions : List (Nat × Operation Nat)) (action : Nat × Operation Nat),
      ∀ context < (contextsAfter actions).scopes.length,
        ¬ (contextsAfter actions).Within (action.2.through (contextsAfter actions)) context →
        ∀ key, (contextStep (contextsAfter actions) action).service context key =
            (contextsAfter actions).service context key ∧
          (contextStep (contextsAfter actions) action).hasService context key =
            (contextsAfter actions).hasService context key := by
  intro always
  have facts : 2 < (contextsAfter siblings).scopes.length ∧
      1 ∉ (contextsAfter siblings).path 2 ∧
      (contextStep (contextsAfter siblings) (3, .dispose 1)).hasService 2 sampleKey =
        .ok true ∧
      (contextsAfter siblings).hasService 2 sampleKey = .ok false := by decide
  obtain ⟨known, beside, provided, missing⟩ := facts
  have same := (always siblings (3, .dispose 1) 2 known (by
    rintro ⟨scope, isThrough, inPath⟩
    rw [List.mem_singleton.mp isThrough] at inPath
    exact beside inPath) sampleKey).2
  rw [provided, missing] at same
  cases same

end CordisCore
end YunXi
