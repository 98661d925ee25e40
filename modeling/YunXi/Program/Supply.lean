import Mathlib.Order.FixedPoints
import Mathlib.Data.Set.Lattice
import Mathlib.Order.CompletePartialOrder

/-!
# Elements that wait for what others supply

Each element needs some resources before it can start and supplies some once it has.
Which elements ever start is a least fixed point: it does not depend on the order in
which they are tried.
-/

namespace YunXi

variable {α ρ : Type}

/-- What elements need and supply, and which of them start when they are given it. -/
structure Supply (α ρ : Type) where
  needs : α → Set ρ
  provides : α → Set ρ
  works : Set α

namespace Supply

variable (supply : Supply α ρ) (start : Set ρ) (offered : Set α)

/-- The resources there are when some elements have started. -/
def available (active : Set α) : Set ρ :=
  start ∪ ⋃ element ∈ active, supply.provides element

theorem available_mono {smaller larger : Set α} (within : smaller ⊆ larger) :
    supply.available start smaller ⊆ supply.available start larger :=
  Set.union_subset_union_right start (Set.biUnion_subset_biUnion_left within)

/-- One more element adds what it supplies. -/
theorem available_insert (element : α) (active : Set α) :
    supply.available start (insert element active) =
      supply.available start active ∪ supply.provides element := by
  unfold available
  rw [Set.biUnion_insert, Set.union_comm (supply.provides element), Set.union_assoc]

/-- The offered elements that can start when some have. -/
def ready : Set α →o Set α where
  toFun active := {element | element ∈ offered ∧ element ∈ supply.works ∧
    supply.needs element ⊆ supply.available start active}
  monotone' _ _ within _ member :=
    ⟨member.1, member.2.1, member.2.2.trans (supply.available_mono start within)⟩

/-- The elements that ever start: the least fixed point of `ready`. -/
def closure : Set α := (supply.ready start offered).lfp

variable {supply start offered}

/-- What some elements of the closure make ready is in it. -/
theorem mem_closure {element : α} {active : Set α}
    (isOffered : element ∈ offered) (works : element ∈ supply.works)
    (supplied : supply.needs element ⊆ supply.available start active)
    (within : active ⊆ supply.closure start offered) :
    element ∈ supply.closure start offered := by
  unfold closure
  rw [← OrderHom.map_lfp]
  exact ⟨isOffered, works, supplied.trans (supply.available_mono start within)⟩

/-- A set that makes nothing else ready contains the closure. -/
theorem closure_subset {active : Set α}
    (closed : ∀ element ∈ offered, element ∈ supply.works →
      supply.needs element ⊆ supply.available start active → element ∈ active) :
    supply.closure start offered ⊆ active := by
  apply OrderHom.lfp_le
  rintro element ⟨isOffered, works, supplied⟩
  exact closed element isOffered works supplied

end Supply
end YunXi
