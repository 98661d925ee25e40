import Mathlib.Data.List.Nodup
import YunXi.Program.SortedMap
import Mathlib.Algebra.GroupWithZero.Nat

/-!
# Selecting from a list

Two ways to select.  Of the values with one key the best is kept: the first, unless a later one
replaces it.  And a list is taken from the front into a part that is bounded in its number and in
its total size; what does not fit is passed over, and the rest is still tried.
-/

namespace YunXi
namespace Selection

section Best

variable {κ α ι : Type} [LinearOrder κ]

/-- The better of a value and the one kept so far. -/
def better (replaces : α → α → Bool) (kept : Option α) (value : α) : α :=
  match kept with
  | none => value
  | some kept => if replaces kept value then value else kept

/-- Go through the values, keeping the best under every key. -/
def keepBest (key : α → κ) (replaces : α → α → Bool) (kept : SortedMap κ α) :
    List α → SortedMap κ α
  | [] => kept
  | value :: rest =>
      keepBest key replaces
        (kept.insert (key value) (better replaces (kept.lookup? (key value)) value)) rest

/-- The best value under every key, in the order of the keys. -/
def bestOf (key : α → κ) (replaces : α → α → Bool) (values : List α) : List α :=
  (keepBest key replaces .empty values).entries.map Prod.snd

variable {key : α → κ} {replaces : α → α → Bool} {values : List α} {kept : SortedMap κ α}

theorem better_eq (replaces : α → α → Bool) (kept : Option α) (value : α) :
    better replaces kept value = value ∨ kept = some (better replaces kept value) := by
  cases kept with
  | none => exact .inl rfl
  | some kept =>
      unfold better
      dsimp only
      split
      · exact .inl rfl
      · exact .inr rfl

/-- Every value is kept under its own key. -/
def OwnKeys (key : α → κ) (kept : SortedMap κ α) : Prop :=
  ∀ entry ∈ kept.entries, key entry.2 = entry.1

theorem mem_entries_insert {key : κ} {value : α} {entry : κ × α}
    (member : entry ∈ (kept.insert key value).entries) :
    entry = (key, value) ∨ entry ∈ kept.entries :=
  SortedMap.mem_place member

theorem ownKeys_keepBest (own : OwnKeys key kept) :
    OwnKeys key (keepBest key replaces kept values) := by
  induction values generalizing kept with
  | nil => exact own
  | cons value rest ih =>
      refine ih fun entry member => ?_
      rcases mem_entries_insert member with rfl | earlier
      · rcases better_eq replaces (kept.lookup? (key value)) value with
          same | before
        · exact congrArg key same
        · exact own _ (SortedMap.lookup?_eq_some_iff.mp before)
      · exact own entry earlier

theorem mem_keepBest {entry : κ × α}
    (member : entry ∈ (keepBest key replaces kept values).entries) :
    entry.2 ∈ values ∨ ∃ before ∈ kept.entries, before.2 = entry.2 := by
  induction values generalizing kept with
  | nil => exact .inr ⟨entry, member, rfl⟩
  | cons value rest ih =>
      rcases ih member with later | ⟨before, placed, same⟩
      · exact .inl (List.mem_cons_of_mem value later)
      · rcases mem_entries_insert placed with rfl | earlier
        · rcases better_eq replaces (kept.lookup? (key value)) value with
            isValue | isKept
          · refine .inl (List.mem_cons.mpr (.inl ?_))
            exact same.symm.trans isValue
          · exact .inr ⟨_, SortedMap.lookup?_eq_some_iff.mp isKept, same⟩
        · exact .inr ⟨before, earlier, same⟩

/-- The best values are among the values. -/
theorem mem_of_mem_bestOf {value : α} (member : value ∈ bestOf key replaces values) :
    value ∈ values := by
  obtain ⟨entry, isEntry, rfl⟩ := List.mem_map.mp member
  rcases mem_keepBest isEntry with isValue | ⟨before, isBefore, -⟩
  · exact isValue
  · exact absurd isBefore List.not_mem_nil

theorem map_key_bestOf :
    (bestOf key replaces values).map key = (keepBest key replaces .empty values).keys := by
  have own : OwnKeys key (keepBest key replaces .empty values) :=
    ownKeys_keepBest fun _ member => absurd member List.not_mem_nil
  unfold bestOf SortedMap.keys
  rw [List.map_map]
  exact List.map_congr_left own

/-- The best values have different keys. -/
theorem nodup_keys_bestOf : ((bestOf key replaces values).map key).Nodup := by
  rw [map_key_bestOf]
  exact SortedMap.nodup_keys _

theorem mem_keys_keepBest
    {name : κ}
    (known : name ∈ kept.keys ∨ name ∈ values.map key) :
    name ∈ (keepBest key replaces kept values).keys := by
  induction values generalizing kept with
  | nil => exact known.resolve_right List.not_mem_nil
  | cons value rest ih =>
      refine ih ?_
      rw [SortedMap.mem_keys_insert_iff]
      rcases known with earlier | known
      · exact .inl (.inr earlier)
      rcases List.mem_cons.mp known with same | later
      · exact .inl (.inl same)
      · exact .inr later

/-- Under the key of every value there is a best one. -/
theorem exists_mem_bestOf {value : α} (member : value ∈ values) :
    ∃ best ∈ bestOf key replaces values, key best = key value := by
  have known : key value ∈ (bestOf key replaces values).map key := by
    rw [map_key_bestOf]
    exact mem_keys_keepBest (.inr (List.mem_map_of_mem member))
  exact List.mem_map.mp known

/-- What differs between all values differs between the best. -/
theorem nodup_map_bestOf {name : α → ι} (distinct : (values.map name).Nodup) :
    ((bestOf key replaces values).map name).Nodup := by
  refine List.Nodup.map_on ?_ (List.Nodup.of_map key nodup_keys_bestOf)
  intro first isFirst second isSecond same
  exact List.inj_on_of_nodup_map distinct (mem_of_mem_bestOf isFirst)
    (mem_of_mem_bestOf isSecond) same

end Best

section Fill

variable {α : Type}

/-- A part filled from a list: what it takes, and whether something did not fit. -/
structure Filled (α : Type) where
  taken : List α
  leftOut : Bool

/-- Fill a part that holds `count` values of total size `used` already. -/
def fill (size : α → Nat) (most budget : Nat) : Nat → Nat → List α → Filled α
  | _, _, [] => ⟨[], false⟩
  | count, used, value :: rest =>
      if count ≥ most ∨ used + size value > budget then
        { fill size most budget count used rest with leftOut := true }
      else
        let filled := fill size most budget (count + 1) (used + size value) rest
        { filled with taken := value :: filled.taken }

variable {size : α → Nat} {most budget count used : Nat} {values : List α}

theorem taken_sublist : (fill size most budget count used values).taken.Sublist values := by
  induction values generalizing count used with
  | nil => exact .slnil
  | cons value rest ih =>
      unfold fill
      split
      case isTrue => exact ih.cons value
      case isFalse => exact ih.cons_cons value

theorem count_taken_le (room : count ≤ most) :
    count + (fill size most budget count used values).taken.length ≤ most := by
  induction values generalizing count used with
  | nil => exact room
  | cons value rest ih =>
      unfold fill
      split
      case isTrue => exact ih room
      case isFalse fits =>
        have more := @ih (count + 1) (used + size value) (by omega)
        simp only [List.length_cons]
        omega

theorem size_taken_le (room : used ≤ budget) :
    used + ((fill size most budget count used values).taken.map size).sum ≤ budget := by
  induction values generalizing count used with
  | nil => exact room
  | cons value rest ih =>
      unfold fill
      split
      case isTrue => exact ih room
      case isFalse fits =>
        have more := @ih (count + 1) (used + size value) (by omega)
        simp only [List.map_cons, List.sum_cons]
        omega

/-- A part filled from nothing is within its bounds. -/
theorem length_taken_le : (fill size most budget 0 0 values).taken.length ≤ most := by
  have within : 0 + (fill size most budget 0 0 values).taken.length ≤ most :=
    count_taken_le (Nat.zero_le most)
  omega

theorem sum_taken_le : ((fill size most budget 0 0 values).taken.map size).sum ≤ budget := by
  have within : 0 + ((fill size most budget 0 0 values).taken.map size).sum ≤ budget :=
    size_taken_le (Nat.zero_le budget)
  omega

/-- A value that is not taken did not fit behind what was taken before its turn. -/
theorem mem_taken_or_noRoom
    {value : α}
    (member : value ∈ values) :
    value ∈ (fill size most budget count used values).taken ∨
      ∃ earlier, earlier <+: (fill size most budget count used values).taken ∧
        (most ≤ count + earlier.length ∨
          budget < used + (earlier.map size).sum + size value) := by
  induction values generalizing count used with
  | nil => cases member
  | cons first rest ih =>
      unfold fill
      rcases List.mem_cons.mp member with rfl | later
      · split
        case isTrue full => exact .inr ⟨[], List.nil_prefix, full⟩
        case isFalse => exact .inl List.mem_cons_self
      · split
        case isTrue => exact ih later
        case isFalse =>
          rcases @ih (count + 1) (used + size first) later with
            taken | ⟨earlier, before, full⟩
          · exact .inl (List.mem_cons_of_mem first taken)
          · refine .inr ⟨first :: earlier, List.cons_prefix_cons.mpr ⟨rfl, before⟩, ?_⟩
            simp only [List.length_cons, List.map_cons, List.sum_cons]
            omega

/-- A part leaves something out exactly when it does not take every value. -/
theorem leftOut_iff (distinct : values.Nodup) :
    (fill size most budget count used values).leftOut = true ↔
      ∃ value ∈ values, value ∉ (fill size most budget count used values).taken := by
  induction values generalizing count used with
  | nil => simp [fill]
  | cons value rest ih =>
      obtain ⟨isNew, distinctRest⟩ := List.nodup_cons.mp distinct
      have notTaken : ∀ {count used},
          value ∉ (fill size most budget count used rest).taken :=
        fun taken => isNew (taken_sublist.mem taken)
      unfold fill
      split
      case isTrue =>
        exact iff_of_true rfl ⟨value, List.mem_cons_self, notTaken⟩
      case isFalse =>
        dsimp only
        rw [ih distinctRest]
        constructor
        · rintro ⟨other, member, left⟩
          refine ⟨other, List.mem_cons_of_mem value member, ?_⟩
          rw [List.mem_cons, not_or]
          exact ⟨fun same => isNew (same ▸ member), left⟩
        · rintro ⟨other, member, left⟩
          rw [List.mem_cons, not_or] at left
          exact ⟨other, (List.mem_cons.mp member).resolve_left left.1, left.2⟩

end Fill

end Selection
end YunXi
