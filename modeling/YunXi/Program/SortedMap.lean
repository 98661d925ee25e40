import Mathlib.Data.List.Pairwise
import Mathlib.Data.List.Perm.Subperm
import Mathlib.Order.Lattice

/-!
# Maps as sorted lists

A map keeps its entries in strictly increasing order of their keys, so equal maps are equal
lists and iteration follows the keys.
-/

namespace YunXi

variable {κ α : Type} [LinearOrder κ]

/-- Entries in strictly increasing order of their keys. -/
structure SortedMap (κ α : Type) [LinearOrder κ] where
  entries : List (κ × α)
  sorted : entries.Pairwise fun first second => first.1 < second.1
  deriving DecidableEq

namespace SortedMap

/-- Put an entry where its key belongs, in place of one with the same key. -/
def place (key : κ) (value : α) : List (κ × α) → List (κ × α)
  | [] => [(key, value)]
  | entry :: rest =>
      if key < entry.1 then (key, value) :: entry :: rest
      else if key = entry.1 then (key, value) :: rest
      else entry :: place key value rest

variable {entries : List (κ × α)} {key : κ} {value : α}

theorem mem_place {entry : κ × α}
    (member : entry ∈ place key value entries) :
    entry = (key, value) ∨ entry ∈ entries := by
  induction entries with
  | nil => exact .inl (List.mem_singleton.mp member)
  | cons first rest ih =>
      unfold place at member
      split at member
      · exact List.mem_cons.mp member
      · split at member
        · exact (List.mem_cons.mp member).imp_right (List.mem_cons_of_mem first)
        · rcases List.mem_cons.mp member with rfl | later
          · exact .inr List.mem_cons_self
          · exact (ih later).imp_right (List.mem_cons_of_mem first)

theorem sorted_place (sorted : entries.Pairwise fun first second => first.1 < second.1) :
    (place key value entries).Pairwise fun first second => first.1 < second.1 := by
  induction entries with
  | nil => exact List.pairwise_singleton _ _
  | cons first rest ih =>
      obtain ⟨before, restSorted⟩ := List.pairwise_cons.mp sorted
      unfold place
      split
      case isTrue less =>
        refine List.pairwise_cons.mpr ⟨?_, sorted⟩
        intro entry member
        rcases List.mem_cons.mp member with rfl | later
        · exact less
        · exact lt_trans less (before entry later)
      case isFalse notLess =>
        split
        case isTrue equal => exact List.pairwise_cons.mpr ⟨equal ▸ before, restSorted⟩
        case isFalse differ =>
          refine List.pairwise_cons.mpr ⟨?_, ih restSorted⟩
          intro entry member
          rcases mem_place member with rfl | later
          · exact lt_of_le_of_ne (not_lt.mp notLess) (Ne.symm differ)
          · exact before entry later

theorem length_place_le (key : κ) (value : α) (entries : List (κ × α)) :
    (place key value entries).length ≤ entries.length + 1 := by
  induction entries with
  | nil => exact Nat.le_refl 1
  | cons first rest ih =>
      unfold place
      split
      · exact Nat.le_refl _
      · split
        · exact Nat.le_succ _
        · exact Nat.succ_le_succ ih

/-- An entry that replaces another makes the list no longer. -/
theorem length_place_of_mem (sorted : entries.Pairwise fun first second => first.1 < second.1)
    (known : key ∈ entries.map Prod.fst) :
    (place key value entries).length = entries.length := by
  induction entries with
  | nil => cases known
  | cons first rest ih =>
      obtain ⟨before, restSorted⟩ := List.pairwise_cons.mp sorted
      unfold place
      split
      case isTrue less =>
        rcases List.mem_cons.mp known with rfl | later
        · exact absurd less (lt_irrefl _)
        · obtain ⟨entry, member, rfl⟩ := List.mem_map.mp later
          exact absurd (lt_trans less (before entry member)) (lt_irrefl _)
      case isFalse =>
        split
        case isTrue => rfl
        case isFalse differ =>
          have later : key ∈ rest.map Prod.fst := (List.mem_cons.mp known).resolve_left differ
          rw [List.length_cons, ih restSorted later, List.length_cons]

def empty : SortedMap κ α := ⟨[], .nil⟩

def size (map : SortedMap κ α) : Nat := map.entries.length

def keys (map : SortedMap κ α) : List κ := map.entries.map Prod.fst

def lookup? (map : SortedMap κ α) (key : κ) : Option α := map.entries.lookup key

def insert (map : SortedMap κ α) (key : κ) (value : α) : SortedMap κ α :=
  ⟨place key value map.entries, sorted_place map.sorted⟩

def erase (map : SortedMap κ α) (key : κ) : SortedMap κ α :=
  ⟨map.entries.filter fun entry => entry.1 ≠ key, map.sorted.filter _⟩

/-- Change every value. -/
def map {β : Type} (map : SortedMap κ α) (change : κ → α → β) : SortedMap κ β :=
  ⟨map.entries.map fun entry => (entry.1, change entry.1 entry.2),
    List.pairwise_map.mpr map.sorted⟩

/-- Insert entries one after the other. -/
def extend (map : SortedMap κ α) (entries : List (κ × α)) : SortedMap κ α :=
  entries.foldl (fun map entry => map.insert entry.1 entry.2) map

def ofList (entries : List (κ × α)) : SortedMap κ α := empty.extend entries

variable {map : SortedMap κ α} {other : κ}

theorem mem_keys_insert
    (member : other ∈ (map.insert key value).keys) : other = key ∨ other ∈ map.keys := by
  obtain ⟨entry, entryMember, rfl⟩ := List.mem_map.mp member
  rcases mem_place entryMember with rfl | later
  · exact .inl rfl
  · exact .inr (List.mem_map_of_mem later)

theorem lookup_place_self (key : κ) (value : α) (entries : List (κ × α)) :
    (place key value entries).lookup key = some value := by
  induction entries with
  | nil => simp [place]
  | cons first rest ih =>
      unfold place
      split
      · simp
      · split
        · simp
        case isFalse differ =>
          rw [List.lookup_cons, beq_false_of_ne differ]
          exact ih

theorem lookup_place_of_ne (differ : other ≠ key) (value : α)
    (entries : List (κ × α)) :
    (place key value entries).lookup other = entries.lookup other := by
  induction entries with
  | nil => simp [place, List.lookup_cons, beq_false_of_ne differ]
  | cons first rest ih =>
      unfold place
      split
      · rw [List.lookup_cons, beq_false_of_ne differ]
      · split
        case isTrue equal =>
          rw [List.lookup_cons, beq_false_of_ne differ, List.lookup_cons,
            beq_false_of_ne (equal ▸ differ)]
        · rw [List.lookup_cons, List.lookup_cons, ih]

@[simp] theorem lookup?_insert_self (map : SortedMap κ α) (key : κ) (value : α) :
    (map.insert key value).lookup? key = some value :=
  lookup_place_self key value map.entries

theorem lookup?_insert_of_ne (map : SortedMap κ α) (differ : other ≠ key)
    (value : α) : (map.insert key value).lookup? other = map.lookup? other :=
  lookup_place_of_ne differ value map.entries

@[simp] theorem lookup?_empty (key : κ) : (empty : SortedMap κ α).lookup? key = none := rfl

/-- A key is there exactly when something is found under it. -/
theorem mem_keys_iff : key ∈ map.keys ↔ ∃ value, map.lookup? key = some value := by
  unfold keys lookup?
  induction map.entries with
  | nil => simp
  | cons first rest ih =>
      rw [List.map_cons, List.mem_cons, List.lookup_cons, ih]
      by_cases here : key = first.1
      · simp [here]
      · simp [here, beq_false_of_ne here]

theorem mem_keys_insert_iff :
    other ∈ (map.insert key value).keys ↔ other = key ∨ other ∈ map.keys := by
  rw [mem_keys_iff, mem_keys_iff]
  by_cases same : other = key
  · rw [same, lookup?_insert_self]
    simp
  · rw [lookup?_insert_of_ne _ same, or_iff_right same]

theorem nodup_keys (map : SortedMap κ α) : map.keys.Nodup := by
  refine List.pairwise_map.mpr (map.sorted.imp ?_)
  exact fun less => ne_of_lt less

/-- A map whose keys are all in a list has no more entries than the list. -/
theorem size_le_of_keys_subset {keys : List κ}
    (known : ∀ key ∈ map.keys, key ∈ keys) : map.size ≤ keys.length := by
  have shorter := (List.subperm_of_subset map.nodup_keys known).length_le
  rwa [SortedMap.keys, List.length_map] at shorter

theorem mem_keys_erase (member : other ∈ (map.erase key).keys) : other ∈ map.keys := by
  obtain ⟨entry, entryMember, rfl⟩ := List.mem_map.mp member
  exact List.mem_map_of_mem (List.mem_filter.mp entryMember).1

theorem size_insert_le (map : SortedMap κ α) (key : κ) (value : α) :
    (map.insert key value).size ≤ map.size + 1 :=
  length_place_le key value map.entries

theorem size_insert_of_mem (known : key ∈ map.keys) (value : α) :
    (map.insert key value).size = map.size :=
  length_place_of_mem map.sorted known

theorem size_erase_le (map : SortedMap κ α) (key : κ) : (map.erase key).size ≤ map.size :=
  List.length_filter_le _ _

theorem lookup?_map {β : Type} (map : SortedMap κ α) (change : κ → α → β) (key : κ) :
    (map.map change).lookup? key = (map.lookup? key).map (change key) := by
  unfold SortedMap.map lookup?
  dsimp only
  induction map.entries with
  | nil => rfl
  | cons first rest ih =>
      rw [List.map_cons, List.lookup_cons, List.lookup_cons]
      by_cases here : key = first.1
      · subst here
        rw [beq_self_eq_true]
        rfl
      · rw [beq_false_of_ne here]
        exact ih

@[simp] theorem lookup?_erase_self (map : SortedMap κ α) (key : κ) :
    (map.erase key).lookup? key = none := by
  unfold erase lookup?
  dsimp only
  induction map.entries with
  | nil => rfl
  | cons first rest ih =>
      by_cases here : first.1 = key
      · rw [List.filter_cons_of_neg (by simp [here])]
        exact ih
      · rw [List.filter_cons_of_pos (by simp [here]), List.lookup_cons,
          beq_false_of_ne (Ne.symm here)]
        exact ih

theorem lookup?_erase_of_ne (map : SortedMap κ α) (differ : other ≠ key) :
    (map.erase key).lookup? other = map.lookup? other := by
  unfold erase lookup?
  dsimp only
  induction map.entries with
  | nil => rfl
  | cons first rest ih =>
      by_cases gone : first.1 = key
      · rw [List.filter_cons_of_neg (by simp [gone]), List.lookup_cons,
          beq_false_of_ne (gone ▸ differ)]
        exact ih
      · rw [List.filter_cons_of_pos (by simp [gone]), List.lookup_cons, List.lookup_cons,
          ih]

/-- What is found under a key is one of the entries. -/
theorem lookup?_eq_some_iff : map.lookup? key = some value ↔ (key, value) ∈ map.entries := by
  obtain ⟨entries, sorted⟩ := map
  change entries.lookup key = some value ↔ (key, value) ∈ entries
  induction entries with
  | nil => simp
  | cons first rest ih =>
      obtain ⟨before, restSorted⟩ := List.pairwise_cons.mp sorted
      rw [List.lookup_cons, List.mem_cons]
      by_cases here : key = first.1
      · subst here
        rw [beq_self_eq_true]
        dsimp only
        constructor
        · intro same
          exact .inl (Prod.ext rfl (Option.some_inj.mp same).symm)
        · rintro (same | later)
          · rw [← same]
          · exact absurd (before _ later) (lt_irrefl _)
      · rw [beq_false_of_ne here]
        dsimp only
        rw [ih restSorted]
        constructor
        · exact Or.inr
        · rintro (same | later)
          · exact absurd (congrArg Prod.fst same) here
          · exact later

/-- Maps with the same entries are equal. -/
theorem ext_entries {left right : SortedMap κ α} (same : left.entries = right.entries) :
    left = right := by
  obtain ⟨entries, sorted⟩ := left
  obtain ⟨others, othersSorted⟩ := right
  subst same
  rfl

/-- Maps in which the same is found under every key are equal. -/
theorem ext_lookup {left right : SortedMap κ α}
    (same : ∀ key, left.lookup? key = right.lookup? key) : left = right := by
  have alike : ∀ entry, entry ∈ left.entries ↔ entry ∈ right.entries := by
    rintro ⟨key, value⟩
    rw [← lookup?_eq_some_iff, ← lookup?_eq_some_iff, same]
  have distinct : ∀ map : SortedMap κ α, map.entries.Nodup := fun map =>
    map.sorted.imp fun less equal => absurd (equal ▸ less) (lt_irrefl _)
  have permuted : left.entries.Perm right.entries :=
    (List.perm_ext_iff_of_nodup (distinct left) (distinct right)).mpr alike
  exact ext_entries (permuted.eq_of_pairwise
    (fun _ _ _ _ less more => absurd (lt_trans less more) (lt_irrefl _)) left.sorted right.sorted)

/-- A value put under a key takes the place of the one put there before. -/
theorem insert_insert (map : SortedMap κ α) (key : κ) (first second : α) :
    (map.insert key first).insert key second = map.insert key second := by
  apply ext_lookup
  intro other
  by_cases same : other = key
  · rw [same, lookup?_insert_self, lookup?_insert_self]
  · rw [lookup?_insert_of_ne _ same, lookup?_insert_of_ne _ same, lookup?_insert_of_ne _ same]

theorem eq_empty_of_size (none : map.size = 0) : map = empty := by
  obtain ⟨entries, sorted⟩ := map
  cases entries with
  | nil => rfl
  | cons entry rest => cases none

/-- Taking out a key that was put in brings back the map, when the key was not there before. -/
theorem erase_insert (missing : map.lookup? key = none) (value : α) :
    (map.insert key value).erase key = map := by
  apply ext_lookup
  intro other
  by_cases same : other = key
  · rw [same, lookup?_erase_self, missing]
  · rw [lookup?_erase_of_ne _ same, lookup?_insert_of_ne _ same]

/-- An entry with a new key is one more entry. -/
theorem perm_place
    (isNew : key ∉ entries.map Prod.fst) : (place key value entries).Perm ((key, value) :: entries) := by
  induction entries with
  | nil => exact .refl _
  | cons first rest ih =>
      rw [List.map_cons, List.mem_cons, not_or] at isNew
      unfold place
      split
      case isTrue => exact .refl _
      case isFalse =>
        rw [if_neg isNew.1]
        exact ((ih isNew.2).cons first).trans (.swap _ _ _)

theorem perm_insert (isNew : key ∉ map.keys) (value : α) :
    (map.insert key value).entries.Perm ((key, value) :: map.entries) := perm_place isNew

/-- Entries with new keys are more entries. -/
theorem perm_extend
    (distinct : (entries.map Prod.fst).Nodup) (areNew : ∀ entry ∈ entries, entry.1 ∉ map.keys) :
    (map.extend entries).entries.Perm (entries ++ map.entries) := by
  induction entries generalizing map with
  | nil => exact .refl _
  | cons entry rest ih =>
      obtain ⟨isNew, areNew⟩ := List.forall_mem_cons.mp areNew
      rw [List.map_cons, List.nodup_cons] at distinct
      have later : ∀ other ∈ rest, other.1 ∉ (map.insert entry.1 entry.2).keys := by
        intro other member known
        rcases mem_keys_insert known with same | known
        · exact distinct.1 (same ▸ List.mem_map_of_mem member)
        · exact areNew other member known
      refine (ih distinct.2 later).trans ?_
      refine ((perm_insert isNew entry.2).append_left rest).trans ?_
      exact List.perm_middle

theorem perm_ofList (distinct : (entries.map Prod.fst).Nodup) :
    (ofList entries).entries.Perm entries := by
  have none : ∀ entry ∈ entries, entry.1 ∉ (empty : SortedMap κ α).keys :=
    fun _ _ => List.not_mem_nil
  have perm := perm_extend distinct none
  rwa [show (empty : SortedMap κ α).entries = [] from rfl, List.append_nil] at perm

/-- What is found after entries with distinct keys were added. -/
theorem lookup?_extend (distinct : (entries.map Prod.fst).Nodup)
    (map : SortedMap κ α) (key : κ) :
    (map.extend entries).lookup? key = (entries.lookup key).or (map.lookup? key) := by
  induction entries generalizing map with
  | nil => rfl
  | cons entry rest ih =>
      obtain ⟨isNew, distinct⟩ := List.nodup_cons.mp distinct
      refine (ih distinct (map.insert entry.1 entry.2)).trans ?_
      rw [List.lookup_cons]
      by_cases same : key = entry.1
      · subst same
        have absent : rest.lookup entry.1 = none := by
          refine List.lookup_eq_none_iff.mpr fun other member => ?_
          exact bne_iff_ne.mpr fun equal => isNew (equal.symm ▸ List.mem_map_of_mem member)
        rw [beq_self_eq_true, lookup?_insert_self, absent]
        rfl
      · rw [beq_false_of_ne same, lookup?_insert_of_ne map same]

/-- What is found after the entries of another map were added. -/
theorem lookup?_extend_entries (map other : SortedMap κ α) (key : κ) :
    (map.extend other.entries).lookup? key = (other.lookup? key).or (map.lookup? key) :=
  lookup?_extend other.nodup_keys map key

/-- A map is made of its entries. -/
theorem ofList_entries (map : SortedMap κ α) : ofList map.entries = map := by
  apply ext_entries
  exact (perm_ofList map.nodup_keys).eq_of_pairwise
    (fun _ _ _ _ less more => absurd (lt_trans less more) (lt_irrefl _))
    (ofList map.entries).sorted map.sorted

end SortedMap
end YunXi
