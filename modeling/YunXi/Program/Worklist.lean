import Mathlib.Data.List.Basic
import Mathlib.Data.List.Nodup
import Mathlib.Logic.Relation

/-!
# Worklist closure

A worklist starts from some seen elements, takes one at a time from a queue and
queues those of its successors that were not seen before.  Every successor lies in a
finite domain, so the queue runs empty, and what was seen by then is what the start
reaches.
-/

namespace YunXi

variable {α : Type} [DecidableEq α]

/-- The elements that were not seen, each once, in order. -/
def unseen (seen : List α) : List α → List α
  | [] => []
  | element :: rest =>
      if element ∈ seen then unseen seen rest
      else element :: unseen (seen ++ [element]) rest

variable {seen : List α}

theorem mem_unseen {elements : List α} {element : α} :
    element ∈ unseen seen elements ↔ element ∈ elements ∧ element ∉ seen := by
  induction elements generalizing seen with
  | nil => simp [unseen]
  | cons first rest ih =>
      unfold unseen
      by_cases known : first ∈ seen
      · rw [if_pos known, ih, List.mem_cons]
        constructor
        · rintro ⟨later, fresh⟩
          exact ⟨.inr later, fresh⟩
        · rintro ⟨same | later, fresh⟩
          · exact absurd (same ▸ known) fresh
          · exact ⟨later, fresh⟩
      · rw [if_neg known, List.mem_cons, List.mem_cons, ih]
        simp only [List.mem_append, List.mem_singleton, not_or]
        constructor
        · rintro (same | ⟨later, fresh, -⟩)
          · exact ⟨.inl same, same ▸ known⟩
          · exact ⟨.inr later, fresh⟩
        · rintro ⟨same | later, fresh⟩
          · exact .inl same
          · by_cases same : element = first
            · exact .inl same
            · exact .inr ⟨later, fresh, same⟩

theorem nodup_append_unseen {elements : List α} (distinct : seen.Nodup) :
    (seen ++ unseen seen elements).Nodup := by
  induction elements generalizing seen with
  | nil => simpa [unseen] using distinct
  | cons first rest ih =>
      unfold unseen
      by_cases known : first ∈ seen
      · rw [if_pos known]
        exact ih distinct
      · rw [if_neg known]
        have extended : (seen ++ [first]).Nodup := by
          apply List.Nodup.append distinct (List.nodup_singleton first)
          simpa using known
        simpa using ih extended

/-- Elements of the domain that were not seen yet. -/
def unseenCount (domain seen : List α) : Nat :=
  (domain.filter (· ∉ seen)).length

variable {domain : List α}

/-- Seeing a new element of the domain leaves fewer to see. -/
theorem unseenCount_lt {found : List α} {element : α}
    (first : element ∈ found) (member : element ∈ domain) (fresh : element ∉ seen) :
    unseenCount domain (seen ++ found) < unseenCount domain seen := by
  unfold unseenCount
  have sublist : (domain.filter (· ∉ seen ++ found)).Sublist
      (domain.filter (· ∉ seen)) := by
    apply List.monotone_filter_right
    intro other unseenOther
    simp only [List.mem_append, not_or, decide_eq_true_eq] at unseenOther ⊢
    exact unseenOther.1
  apply Nat.lt_of_le_of_ne sublist.length_le
  intro sameLength
  have sameList := sublist.eq_of_length sameLength
  have still : element ∈ domain.filter (· ∉ seen ++ found) := by
    rw [sameList]
    simp [member, fresh]
  simp [first] at still

/-- Run the worklist: `seen` grows by the unseen successors of what is queued. -/
def worklist (next : α → List α) (domain : List α)
    (within : ∀ element, ∀ other ∈ next element, other ∈ domain) :
    List α → List α → List α
  | seen, [] => seen
  | seen, element :: queue =>
      worklist next domain within (seen ++ unseen seen (next element))
        (queue ++ unseen seen (next element))
  termination_by seen queue => (unseenCount domain seen, queue.length)
  decreasing_by
    cases found : unseen seen (next element) with
    | nil =>
        rw [List.append_nil, List.append_nil]
        exact Prod.Lex.right _ (by simp)
    | cons first rest =>
        have member : first ∈ unseen seen (next element) := by simp [found]
        obtain ⟨successor, fresh⟩ := mem_unseen.mp member
        apply Prod.Lex.left
        exact unseenCount_lt (by simp) (within element first successor) fresh

/-- What the worklist has to keep: the queue was seen, and everything seen is queued or
has had its successors seen. -/
structure WorklistInvariant (next : α → List α) (reached : α → Prop)
    (seen queue : List α) : Prop where
  distinct : seen.Nodup
  queued : ∀ element ∈ queue, element ∈ seen
  sound : ∀ element ∈ seen, reached element
  closed : ∀ element ∈ seen, element ∈ queue ∨ ∀ other ∈ next element, other ∈ seen

variable {next : α → List α}

theorem WorklistInvariant.step {reached : α → Prop}
    {queue : List α} {element : α}
    (invariant : WorklistInvariant next reached seen (element :: queue))
    (extend : ∀ element other, reached element → other ∈ next element → reached other) :
    WorklistInvariant next reached (seen ++ unseen seen (next element))
      (queue ++ unseen seen (next element)) where
  distinct := nodup_append_unseen invariant.distinct
  queued other member := by
    rcases List.mem_append.mp member with old | found
    · exact List.mem_append_left _ (invariant.queued other (List.mem_cons_of_mem _ old))
    · exact List.mem_append_right _ found
  sound other member := by
    rcases List.mem_append.mp member with old | found
    · exact invariant.sound other old
    · apply extend element other
      · exact invariant.sound element (invariant.queued element (by simp))
      · exact (mem_unseen.mp found).1
  closed other member := by
    rcases List.mem_append.mp member with old | found
    · rcases invariant.closed other old with queued | done
      · rcases List.mem_cons.mp queued with same | later
        · right
          intro successor isNext
          rw [same] at isNext
          by_cases known : successor ∈ seen
          · exact List.mem_append_left _ known
          · exact List.mem_append_right _ (mem_unseen.mpr ⟨isNext, known⟩)
        · exact .inl (List.mem_append_left _ later)
      · exact .inr fun successor isNext => List.mem_append_left _ (done successor isNext)
    · exact .inl (List.mem_append_right _ found)

/-- When the queue has run empty the invariant still holds, and nothing seen is lost. -/
theorem worklist_invariant
    (within : ∀ element, ∀ other ∈ next element, other ∈ domain) {reached : α → Prop}
    (extend : ∀ element other, reached element → other ∈ next element → reached other)
    (seen queue : List α) (invariant : WorklistInvariant next reached seen queue) :
    WorklistInvariant next reached (worklist next domain within seen queue) [] ∧
      ∀ element ∈ seen, element ∈ worklist next domain within seen queue := by
  fun_induction worklist next domain within seen queue with
  | case1 seen => exact ⟨invariant, fun _ member => member⟩
  | case2 seen element queue ih =>
      obtain ⟨final, grows⟩ := ih (invariant.step extend)
      exact ⟨final, fun other member => grows other (List.mem_append_left _ member)⟩

/-- The worklist from one element sees exactly what that element reaches. -/
theorem mem_worklist_iff
    (within : ∀ element, ∀ other ∈ next element, other ∈ domain) (start element : α) :
    element ∈ worklist next domain within [start] [start] ↔
      Relation.ReflTransGen (fun parent child => child ∈ next parent) start element := by
  have initial : WorklistInvariant next
      (Relation.ReflTransGen (fun parent child => child ∈ next parent) start)
      [start] [start] := by
    refine ⟨List.nodup_singleton start, fun _ member => member, ?_, fun _ member => .inl member⟩
    intro other member
    rw [List.mem_singleton.mp member]
  obtain ⟨final, grows⟩ := worklist_invariant within
    (fun parent child reached isNext => reached.tail isNext) _ _ initial
  constructor
  · exact final.sound element
  · intro reached
    induction reached with
    | refl => exact grows start (by simp)
    | tail _ isNext ih =>
        rcases final.closed _ ih with queued | done
        · cases queued
        · exact done _ isNext

/-- No element is seen twice. -/
theorem nodup_worklist
    (within : ∀ element, ∀ other ∈ next element, other ∈ domain) (start : α) :
    (worklist next domain within [start] [start]).Nodup := by
  have initial : WorklistInvariant next (fun _ => True) [start] [start] :=
    ⟨List.nodup_singleton start, fun _ member => member, fun _ _ => trivial,
      fun _ member => .inl member⟩
  exact (worklist_invariant within (fun _ _ _ _ => trivial) _ _ initial).1.distinct

end YunXi
