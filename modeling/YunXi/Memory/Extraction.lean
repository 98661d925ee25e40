import Mathlib.Data.List.ReduceOption
import YunXi.Memory.Write

/-!
# Duplicates and contradictions

Candidates are compared with the records of the load and not with what the same extraction has
stored before them, and languages are compared only if they are Chinese or English.  So what is
stored repeats no record of the load, and it is without repetition and contradiction exactly if the
prompt says nothing twice and no two languages.
-/

namespace YunXi
namespace Memory

open Fallible
open Protocol

section Languages

variable {Λ : Type} (language : String → Option Λ)

/-- Two texts do not ask for different languages. -/
def Agree (first second : Option Λ) : Prop :=
  ∀ one ∈ first, ∀ other ∈ second, one = other

instance [DecidableEq Λ] (first second : Option Λ) : Decidable (Agree first second) :=
  inferInstanceAs (Decidable (∀ one ∈ first, ∀ other ∈ second, one = other))

/-- The language that a record prefers, as its text is read. -/
def statedLanguage (record : StoredMemoryRecord) : Option Λ :=
  if record.kind = .preference then language record.content else none

/-- Two active records prefer different languages, and the first asks for no review of the
second. -/
@[mk_iff contradicts_fields]
structure Contradicts (first second : StoredMemoryRecord) : Prop where
  firstActive : first.status = .active
  secondActive : second.status = .active
  differ : ¬ Agree (statedLanguage language first) (statedLanguage language second)
  unreviewed : second.id ∉ first.invalidation.conflictsWith

instance [DecidableEq Λ] (first second : StoredMemoryRecord) :
    Decidable (Contradicts language first second) :=
  decidable_of_iff' _ (contradicts_fields language first second)

/-- What was stored neither repeats nor contradicts itself or the records of the load. -/
@[mk_iff sound_fields]
structure Sound (loaded stored : List StoredMemoryRecord) : Prop where
  once : (stored.map (·.dedupKey)).Nodup
  isNew : ∀ record ∈ stored, ∀ held ∈ loaded,
    held.status = .active ∨ held.status = .pending → held.dedupKey ≠ record.dedupKey
  consistent : ∀ record ∈ stored, ∀ held ∈ loaded, ¬ Contradicts language record held
  agreeing : stored.Pairwise fun first second =>
    ¬ (Contradicts language first second ∧ Contradicts language second first)

instance [DecidableEq Λ] (loaded stored : List StoredMemoryRecord) :
    Decidable (Sound language loaded stored) :=
  decidable_of_iff' _ (sound_fields language loaded stored)

end Languages

section Extraction

variable (store : MemoryStore) (outside : Outside) (request : MemoryWriteRequest)
  (load : MemoryLoad)

variable (candidate : Candidate)

/-- The candidate is no secret, and no record of the load has its key. -/
def isFresh : Bool :=
  !(containsSecret candidate.content || containsSecret request.prompt) &&
    (load.records.find? fun existing => existing.dedupKey =
      (candidateRecord store outside request "" candidate).dedupKey).isNone

/-- What a candidate is stored as, but for its id. -/
def prepared : StoredMemoryRecord :=
  reviewed load (candidateRecord store outside request "" candidate)

/-- What the candidates are stored as, but for their ids. -/
def preparedRecords (candidates : List Candidate) : List StoredMemoryRecord :=
  (candidates.filter (isFresh store outside request load)).map
    (prepared store outside request load)

def withoutId (record : StoredMemoryRecord) : StoredMemoryRecord := { record with id := "" }

/-- The records that were appended. -/
def Journal.records (journal : Journal) : List StoredMemoryRecord := journal.written.map Prod.snd

/-- The journal at the start of an extraction. -/
def Journal.start (counter : Nat) : Journal := ⟨counter, 0, []⟩

variable {store outside request load}

/-- The key of a candidate's record is made from what the candidate says. -/
theorem dedupKey_candidateRecord (id : String) (candidate : Candidate) :
    (candidateRecord store outside request id candidate).dedupKey =
      StoredMemoryRecord.contentKey (scopeForKind store.workspaceFingerprint candidate.kind)
        candidate.kind candidate.content := by
  unfold StoredMemoryRecord.dedupKey
  split
  case isTrue => rfl
  case isFalse => rfl

/-- A conflict depends on the kind and the key of a record alone. -/
theorem languageConflict_congr (records : List StoredMemoryRecord)
    {first second : StoredMemoryRecord} (kinds : first.kind = second.kind)
    (keys : first.dedupKey = second.dedupKey) :
    languageConflict records first = languageConflict records second := by
  unfold languageConflict
  rw [kinds, keys]

theorem withoutId_reviewed (id : String) (candidate : Candidate) :
    withoutId (reviewed load (candidateRecord store outside request id candidate)) =
      prepared store outside request load candidate := by
  have sameConflict :
      languageConflict load.records (candidateRecord store outside request id candidate) =
        languageConflict load.records (candidateRecord store outside request "" candidate) :=
    languageConflict_congr load.records rfl
      ((dedupKey_candidateRecord id candidate).trans (dedupKey_candidateRecord "" candidate).symm)
  unfold prepared reviewed
  rw [sameConflict]
  cases languageConflict load.records (candidateRecord store outside request "" candidate) with
  | none =>
      dsimp only [withoutId, candidateRecord, StoredMemoryRecord.new]
  | some conflicting =>
      dsimp only [withoutId, candidateRecord, StoredMemoryRecord.new]

/-- An append adds the record, unless it fails. -/
theorem wp_append (record : StoredMemoryRecord) (journal : Journal) :
    (store.append outside record).wp (fun result after =>
      (result = .ok () ∧ after.records = journal.records ++ [record]) ∨
      ((∃ error, result = .error error) ∧ after.records = journal.records)) journal := by
  unfold MemoryStore.append
  simp only [wp_bind, wp_get, andThen_ok, wp_modify]
  split
  case h_1 error _ => exact .inr ⟨⟨_, rfl⟩, rfl⟩
  case h_2 =>
    split
    case h_1 error _ => exact .inr ⟨⟨_, rfl⟩, rfl⟩
    case h_2 size _ =>
      simp only [wp_bind, wp_throwIf, andThen_ok,
        andThen_error]
      refine ⟨fun _ => .inr ⟨⟨_, rfl⟩, rfl⟩, fun _ => ?_⟩
      split
      case h_1 error _ => exact .inr ⟨⟨_, rfl⟩, rfl⟩
      case h_2 =>
        refine .inl ⟨rfl, ?_⟩
        change List.map Prod.snd (journal.written ++ [(_, record)]) = _
        rw [List.map_append]
        rfl

/-- What becomes of a candidate. -/
inductive CandidateFate (store : MemoryStore) (outside : Outside) (request : MemoryWriteRequest)
    (load : MemoryLoad) (candidate : Candidate) (before : List StoredMemoryRecord) :
    Except MemoryWriteError MemoryWriteSummary → List StoredMemoryRecord → Prop
  | passed (summary : MemoryWriteSummary)
      (stale : isFresh store outside request load candidate = false) :
      CandidateFate store outside request load candidate before (.ok summary) before
  | stored (summary : MemoryWriteSummary) (record : StoredMemoryRecord)
      (fresh : isFresh store outside request load candidate = true)
      (same : withoutId record = prepared store outside request load candidate) :
      CandidateFate store outside request load candidate before (.ok summary)
        (before ++ [record])
  | failed (error : MemoryWriteError)
      (fresh : isFresh store outside request load candidate = true) :
      CandidateFate store outside request load candidate before (.error error) before

theorem storeCandidate_fate (journal : Journal) :
    (storeCandidate store outside request load candidate).wp (fun result after =>
      CandidateFate store outside request load candidate journal.records result after.records)
      journal := by
  unfold storeCandidate
  split
  case isTrue secret =>
    refine .passed _ ?_
    unfold isFresh
    rw [secret]
    rfl
  case isFalse harmless =>
    have harmless := Bool.eq_false_of_not_eq_true harmless
    rw [wp_bind]
    unfold generateMemoryId
    rw [wp_ofFunction, andThen_ok]
    generalize "yn-mem-" ++ toString outside.now ++ "-" ++ toString journal.nextCounter = id
    dsimp only
    have sameKey : (candidateRecord store outside request id candidate).dedupKey =
        (candidateRecord store outside request "" candidate).dedupKey :=
      (dedupKey_candidateRecord id candidate).trans (dedupKey_candidateRecord "" candidate).symm
    split
    case h_1 existing found =>
      refine .passed _ ?_
      unfold isFresh
      rw [← sameKey, found]
      exact Bool.and_false _
    case h_2 missing =>
      have fresh : isFresh store outside request load candidate = true := by
        unfold isFresh
        rw [← sameKey, missing, harmless]
        rfl
      rw [wp_bind]
      refine wp_mono (wp_append _ _) ?_
      rintro result after (⟨rfl, added⟩ | ⟨⟨error, rfl⟩, same⟩)
      · change CandidateFate _ _ _ _ _ _ (.ok _) after.records
        rw [added]
        exact .stored _ (reviewed load (candidateRecord store outside request id candidate)) fresh
          (withoutId_reviewed id candidate)
      · change CandidateFate _ _ _ _ _ _ (.error _) after.records
        rw [same]
        exact .failed error fresh

/-- The loop stores the prepared records from the first on, and all of them unless an append
fails. -/
theorem storeCandidates_stores (candidates : List Candidate) (journal : Journal) :
    (storeCandidates store outside request load candidates).wp (fun result after =>
      ∃ stored, after.records = journal.records ++ stored ∧
        stored.map withoutId <+: preparedRecords store outside request load candidates ∧
        ∀ summaries, result = .ok summaries →
          stored.map withoutId = preparedRecords store outside request load candidates)
      journal := by
  induction candidates generalizing journal with
  | nil => exact ⟨[], (List.append_nil _).symm, List.prefix_refl _, fun _ _ => rfl⟩
  | cons candidate rest ih =>
      unfold storeCandidates
      rw [wp_bind]
      refine wp_mono (storeCandidate_fate candidate journal) ?_
      intro result middle fate
      generalize isMiddle : middle.records = records at fate
      cases fate with
      | passed summary stale =>
          rw [andThen_ok, wp_bind]
          refine wp_mono (ih middle) ?_
          rintro others after ⟨stored, isAfter, isPrefix, isAll⟩
          have same : preparedRecords store outside request load (candidate :: rest) =
              preparedRecords store outside request load rest := by
            unfold preparedRecords
            rw [List.filter_cons_of_neg (by simp [stale])]
          rw [same]
          cases others with
          | ok summaries =>
              exact ⟨stored, isMiddle ▸ isAfter, isPrefix, fun _ _ => isAll summaries rfl⟩
          | error error =>
              exact ⟨stored, isMiddle ▸ isAfter, isPrefix, nofun⟩
      | stored summary record fresh same =>
          rw [andThen_ok, wp_bind]
          refine wp_mono (ih middle) ?_
          rintro others after ⟨stored, isAfter, isPrefix, isAll⟩
          have all : preparedRecords store outside request load (candidate :: rest) =
              withoutId record :: preparedRecords store outside request load rest := by
            unfold preparedRecords
            rw [List.filter_cons_of_pos fresh, List.map_cons, same]
          have appended : after.records = journal.records ++ (record :: stored) := by
            rw [isAfter, isMiddle, List.append_assoc, List.singleton_append]
          rw [all]
          cases others with
          | ok summaries =>
              refine ⟨record :: stored, appended, List.prefix_cons_inj _ |>.mpr isPrefix, ?_⟩
              exact fun _ _ => congrArg _ (isAll summaries rfl)
          | error error =>
              exact ⟨record :: stored, appended, List.prefix_cons_inj _ |>.mpr isPrefix, nofun⟩
      | failed error fresh =>
          rw [andThen_error]
          exact ⟨[], by rw [isMiddle, List.append_nil], List.nil_prefix, nofun⟩

theorem dedupKey_reviewed (record : StoredMemoryRecord) :
    (reviewed load record).dedupKey = record.dedupKey := by
  unfold reviewed
  split <;> rfl

theorem dedupKey_prepared : (prepared store outside request load candidate).dedupKey =
      StoredMemoryRecord.contentKey (scopeForKind store.workspaceFingerprint candidate.kind)
        candidate.kind candidate.content :=
  (dedupKey_reviewed _).trans (dedupKey_candidateRecord "" candidate)

theorem kind_prepared :
    (prepared store outside request load candidate).kind = candidate.kind := by
  unfold prepared reviewed
  split <;> rfl

theorem content_prepared :
    (prepared store outside request load candidate).content = candidate.content := by
  unfold prepared reviewed
  split <;> rfl

/-- A record is active if nothing asks for a review. -/
theorem active_prepared_iff : (prepared store outside request load candidate).status = .active ↔
      writeStatus candidate.kind (classifySensitivity candidate.content) = .active ∧
        languageConflict load.records (candidateRecord store outside request "" candidate) =
          none := by
  unfold prepared reviewed
  cases languageConflict load.records (candidateRecord store outside request "" candidate) with
  | none => simp only [candidateRecord, and_true]
  | some conflicting => exact iff_of_false nofun fun both => nomatch both.2

variable {candidate : Candidate}

theorem conflictsWith_prepared
    (active : (prepared store outside request load candidate).status = .active) :
    (prepared store outside request load candidate).invalidation.conflictsWith = [] := by
  have unchallenged := ((active_prepared_iff candidate).mp active).2
  unfold prepared reviewed
  rw [unchallenged]
  rfl

theorem isFresh_iff (candidate : Candidate) :
    isFresh store outside request load candidate = true ↔
      (containsSecret candidate.content || containsSecret request.prompt) = false ∧
        ∀ held ∈ load.records,
          held.dedupKey ≠ (prepared store outside request load candidate).dedupKey := by
  unfold isFresh
  rw [Bool.and_eq_true, Option.isNone_iff_eq_none, List.find?_eq_none, Bool.not_eq_true',
    dedupKey_prepared, dedupKey_candidateRecord]
  simp only [decide_eq_true_eq, ne_eq]

variable (store outside request load) in
/-- A candidate becomes an active preference: it is no secret, no record of the load has its key,
it is not sensitive, and if it is about Chinese or English, no active preference of the load is. -/
structure StaysActive (candidate : Candidate) : Prop where
  preference : candidate.kind = .preference
  fresh : isFresh store outside request load candidate = true
  low : classifySensitivity candidate.content = .low
  unchallenged :
    saysLanguage (StoredMemoryRecord.contentKey .globalUser .preference candidate.content) = true →
      ∀ held ∈ load.records, held.kind = .preference → held.status = .active →
        saysLanguage held.dedupKey = false

theorem languageConflict_eq_none {records : List StoredMemoryRecord}
    {incoming : StoredMemoryRecord}
    (preference : incoming.kind = .preference)
    (isNew : ∀ held ∈ records, held.dedupKey ≠ incoming.dedupKey) :
    languageConflict records incoming = none ↔
      (saysLanguage incoming.dedupKey = true → ∀ held ∈ records, held.kind = .preference →
        held.status = .active → saysLanguage held.dedupKey = false) := by
  unfold languageConflict
  rw [if_neg (not_not_intro preference)]
  dsimp only
  cases saysLanguage incoming.dedupKey with
  | false => exact iff_of_true rfl nofun
  | true =>
      rw [if_neg (by decide), List.find?_eq_none]
      rw [forall_prop_of_true rfl]
      refine forall₂_congr fun held member => ?_
      simp [isNew held member]

theorem staysActive_iff (preference : candidate.kind = .preference)
    (fresh : isFresh store outside request load candidate = true) :
    (prepared store outside request load candidate).status = .active ↔
      StaysActive store outside request load candidate := by
  have isNew := ((isFresh_iff candidate).mp fresh).2
  have key : (candidateRecord store outside request "" candidate).dedupKey =
      StoredMemoryRecord.contentKey .globalUser .preference candidate.content := by
    rw [dedupKey_candidateRecord, preference]
    rfl
  have low : writeStatus candidate.kind (classifySensitivity candidate.content) = .active ↔
      classifySensitivity candidate.content = .low := by
    rw [preference]
    unfold writeStatus
    split
    case isTrue sensitive => exact iff_of_false nofun sensitive
    case isFalse low => exact iff_of_true rfl (not_not.mp low)
  simp only [prepared, dedupKey_reviewed] at isNew
  rw [active_prepared_iff, low, languageConflict_eq_none preference isNew, key]
  exact ⟨fun ⟨low, unchallenged⟩ => ⟨preference, fresh, low, unchallenged⟩,
    fun stays => ⟨stays.low, stays.unchallenged⟩⟩

theorem rank_injective : Function.Injective MemoryKind.rank := by
  intro first second same
  cases first <;> cases second <;> first | rfl | cases same

variable {candidates : List Candidate}

theorem exists_kept (member : candidate ∈ candidates) :
    ∃ kept ∈ deduplicateCandidates candidates,
      kept.kind = candidate.kind ∧ kept.content = candidate.content := by
  have known : ∃ kept ∈ deduplicateCandidates candidates,
      toLex (kept.kind.rank, kept.content) = toLex (candidate.kind.rank, candidate.content) :=
    Selection.exists_mem_bestOf member
  obtain ⟨kept, isKept, same⟩ := known
  obtain ⟨rank, content⟩ := Prod.ext_iff.mp same
  exact ⟨kept, isKept, rank_injective rank, content⟩

/-- The reason of a candidate does not matter. -/
theorem prepared_congr {first second : Candidate}
    (kinds : first.kind = second.kind)
    (contents : first.content = second.content) :
    isFresh store outside request load first = isFresh store outside request load second ∧
      prepared store outside request load first = prepared store outside request load second := by
  obtain ⟨kind, content, reason⟩ := first
  obtain ⟨_, _, other⟩ := second
  cases kinds
  cases contents
  exact ⟨rfl, rfl⟩

theorem mem_preparedRecords (member : candidate ∈ candidates)
    (fresh : isFresh store outside request load candidate = true) :
    prepared store outside request load candidate ∈
      preparedRecords store outside request load (deduplicateCandidates candidates) := by
  obtain ⟨kept, isKept, kinds, contents⟩ := exists_kept member
  obtain ⟨sameFresh, same⟩ := @prepared_congr store outside request load _ _ kinds contents
  exact List.mem_map.mpr ⟨kept, List.mem_filter.mpr ⟨isKept, sameFresh.trans fresh⟩, same⟩

/-- The records of the candidates are pairwise related if those of different candidates are. -/
theorem pairwise_preparedRecords {related : StoredMemoryRecord → StoredMemoryRecord → Prop}
    [Std.Symm related] :
    (preparedRecords store outside request load (deduplicateCandidates candidates)).Pairwise
        related ↔
      ∀ first ∈ candidates, ∀ second ∈ candidates,
        isFresh store outside request load first = true →
        isFresh store outside request load second = true →
        (first.kind = second.kind → first.content ≠ second.content) →
          related (prepared store outside request load first)
            (prepared store outside request load second) := by
  have keys : ((deduplicateCandidates candidates).map fun candidate =>
      toLex (candidate.kind.rank, candidate.content)).Nodup := Selection.nodup_keys_bestOf
  have : Std.Symm fun first second => related (prepared store outside request load first)
      (prepared store outside request load second) := ⟨fun _ _ => symm⟩
  unfold preparedRecords
  rw [List.pairwise_map]
  constructor
  · intro pairwise first isFirst second isSecond firstFresh secondFresh differ
    obtain ⟨one, isOne, oneKind, oneContent⟩ := exists_kept isFirst
    obtain ⟨other, isOther, otherKind, otherContent⟩ := exists_kept isSecond
    obtain ⟨oneFresh, onePrepared⟩ := @prepared_congr store outside request load _ _ oneKind oneContent
    obtain ⟨otherFresh, otherPrepared⟩ :=
      @prepared_congr store outside request load _ _ otherKind otherContent
    rw [← onePrepared, ← otherPrepared]
    refine pairwise.forall
      (List.mem_filter.mpr ⟨isOne, oneFresh.trans firstFresh⟩)
      (List.mem_filter.mpr ⟨isOther, otherFresh.trans secondFresh⟩) ?_
    rintro rfl
    exact differ (oneKind.symm.trans otherKind) (oneContent.symm.trans otherContent)
  · intro related
    refine List.Nodup.pairwise_of_forall_ne ((List.Nodup.of_map _ keys).filter _) ?_
    intro one isOne other isOther differ
    obtain ⟨isOne, oneFresh⟩ := List.mem_filter.mp isOne
    obtain ⟨isOther, otherFresh⟩ := List.mem_filter.mp isOther
    refine related one (Selection.mem_of_mem_bestOf isOne) other
      (Selection.mem_of_mem_bestOf isOther) oneFresh otherFresh fun kind content => differ ?_
    refine List.inj_on_of_nodup_map keys isOne isOther ?_
    rw [kind, content]

section Readings

variable {Λ : Type} {language : String → Option Λ}

theorem Agree.symm {first second : Option Λ} (agree : Agree first second) : Agree second first :=
  fun other isOther one isOne => (agree one isOne other isOther).symm

variable (language) in
/-- Two records have different keys and, if both are active, agree on the language. -/
structure Apart (first second : StoredMemoryRecord) : Prop where
  keys : first.dedupKey ≠ second.dedupKey
  languages : first.status = .active → second.status = .active →
    Agree (statedLanguage language first) (statedLanguage language second)

instance : Std.Symm (Apart language) where
  symm _ _ apart :=
    ⟨apart.keys.symm, fun second first => (apart.languages first second).symm⟩

/-- What a prompt asks to remember. -/
def remembered (prompt : String) : Option Candidate :=
  if (trimText prompt).isEmpty then none
  else detectExplicit (trimText prompt) (toAsciiLowercase (trimText prompt))

/-- What the rules make of a prompt. -/
def ruled (prompt : String) : List Candidate :=
  if (trimText prompt).isEmpty then []
  else (detectByRules (trimText prompt) (toAsciiLowercase (trimText prompt))).reduceOption

theorem detectPromptMemories_eq (prompt : String) :
    detectPromptMemories prompt = (remembered prompt).toList ++ ruled prompt := by
  unfold detectPromptMemories remembered ruled
  dsimp only
  split
  · rfl
  · cases detectExplicit (trimText prompt) (toAsciiLowercase (trimText prompt)) with
    | none => rw [List.reduceOption_cons_of_none, Option.toList_none, List.nil_append]
    | some candidate => rw [List.reduceOption_cons_of_some, Option.toList_some, List.singleton_append]

variable (store outside request load language) in
/-- A prompt says nothing twice and no two languages: what it asks to remember is not what a rule
of the same kind makes of it, and the active preferences that come of it state no two languages,
and none that an active preference of the load does not state. -/
structure Clear : Prop where
  once : ∀ candidate ∈ remembered request.prompt, ∀ other ∈ ruled request.prompt,
    isFresh store outside request load candidate = true →
    isFresh store outside request load other = true →
    candidate.kind = other.kind → candidate.content ≠ other.content →
      normalizedContent candidate.kind candidate.content ≠
        normalizedContent other.kind other.content
  agreeing : ∀ candidate ∈ detectPromptMemories request.prompt,
    ∀ other ∈ detectPromptMemories request.prompt,
      StaysActive store outside request load candidate →
      StaysActive store outside request load other →
        Agree (language candidate.content) (language other.content)
  consistent : ∀ candidate ∈ detectPromptMemories request.prompt,
    StaysActive store outside request load candidate →
      ∀ held ∈ load.records, held.kind = .preference → held.status = .active →
        Agree (language candidate.content) (language held.content)

/-- Candidates of one kind with different contents have different keys. -/
def DifferentKeys (first second : Option Candidate) : Prop :=
  ∀ one ∈ first, ∀ other ∈ second, one.kind = other.kind → one.content ≠ other.content →
    normalizedContent one.kind one.content ≠ normalizedContent other.kind other.content

instance : Std.Symm DifferentKeys where
  symm _ _ differ other isOther one isOne kinds contents :=
    (differ one isOne other isOther kinds.symm contents.symm).symm

theorem mem_detected {test : Bool}
    {kind : MemoryKind}
    {content reason : String}
    (found : candidate ∈ detected test kind content reason) :
    candidate.kind = kind ∧ candidate.content = content := by
  unfold detected at found
  split at found
  · cases found
    exact ⟨rfl, rfl⟩
  · cases found

/-- No two rules give candidates with one key. -/
theorem pairwise_detectByRules (value lower : String) :
    (detectByRules value lower).Pairwise DifferentKeys := by
  have others : ∀ {test test' : Bool} {kind kind' : MemoryKind}
      {content content' reason reason' : String}, kind ≠ kind' →
        DifferentKeys (detected test kind content reason)
          (detected test' kind' content' reason') := by
    intro _ _ _ _ _ _ _ _ differ one isOne other isOther kinds
    exact absurd ((mem_detected isOne).1.symm.trans (kinds.trans (mem_detected isOther).1)) differ
  have languages : ∀ {test test' : Bool} {reason : String},
      DifferentKeys (detected test .preference "用户偏好后续默认使用中文交流。" reason)
        (detected test' .preference "用户偏好后续默认使用英文交流。" reason) := by
    intro _ _ _ one isOne other isOther _ _
    obtain ⟨oneKind, oneContent⟩ := mem_detected isOne
    obtain ⟨otherKind, otherContent⟩ := mem_detected isOther
    rw [oneKind, oneContent, otherKind, otherContent]
    decide
  unfold detectByRules
  simp only [List.pairwise_cons, List.forall_mem_cons, List.not_mem_nil, false_imp_iff,
    implies_true, List.Pairwise.nil, and_true]
  refine ⟨⟨languages, ?_⟩, ?_⟩ <;> repeat' apply And.intro
  all_goals
    apply others
    decide

theorem ruled_apart {prompt : String}
    {first second : Candidate}
    (isFirst : first ∈ ruled prompt)
    (isSecond : second ∈ ruled prompt)
    (kinds : first.kind = second.kind)
    (differ : first.content ≠ second.content) :
    normalizedContent first.kind first.content ≠
      normalizedContent second.kind second.content := by
  unfold ruled at isFirst isSecond
  split at isFirst
  case isTrue => cases isFirst
  case isFalse said =>
    rw [if_neg said] at isSecond
    have itself : ∀ rule ∈ detectByRules (trimText prompt) (toAsciiLowercase (trimText prompt)),
        DifferentKeys rule rule := by
      rintro rule - one isOne other isOther - contents
      exact absurd (congrArg _ (Option.mem_unique isOne isOther)) contents
    exact (pairwise_detectByRules _ _).forall_of_forall itself (List.reduceOption_mem_iff.mp isFirst)
      (List.reduceOption_mem_iff.mp isSecond) first rfl second rfl kinds differ

/-- The first letter of the label of a scope. -/
def MemoryScope.initial : MemoryScope → Char
  | globalUser => 'g'
  | workspace _ => 'w'
  | agentIdentity => 'a'
  | relationship => 'r'

theorem MemoryScope.head?_label (scope : MemoryScope) (rest : List Char) :
    (scope.label.toList ++ rest).head? = some scope.initial := by
  cases scope with
  | workspace fingerprint =>
      rw [label, String.toList_append, List.append_assoc]
      rfl
  | globalUser | agentIdentity | relationship => rfl

theorem contentKey_ne_of_kind {fingerprint : String}
    {first second : MemoryKind}
    (kinds : first ≠ second)
    (content other : String) :
    StoredMemoryRecord.contentKey (scopeForKind fingerprint first) first content ≠
      StoredMemoryRecord.contentKey (scopeForKind fingerprint second) second other := by
  have plain : ∀ kind : MemoryKind, ∀ character ∈ kind.storageKey.toList,
      decide (character ≠ '|') = true := by
    intro kind
    exact List.all_eq_true.mp (by cases kind <;> rfl)
  intro same
  unfold StoredMemoryRecord.contentKey at same
  rw [← String.toList_inj] at same
  simp only [String.toList_append, List.append_assoc] at same
  by_cases scopes : scopeForKind fingerprint first = scopeForKind fingerprint second
  · rw [scopes] at same
    have keys := congrArg (List.takeWhile (· ≠ '|'))
      (List.append_cancel_left (List.append_cancel_left same))
    rw [List.takeWhile_append_of_pos (plain first), List.takeWhile_append_of_pos (plain second),
      show "|".toList = ['|'] from rfl, List.singleton_append, List.singleton_append,
      List.takeWhile_cons_of_neg (by decide), List.takeWhile_cons_of_neg (by decide),
      List.append_nil, List.append_nil, String.toList_inj] at keys
    revert kinds keys
    cases first <;> cases second <;> decide
  · have heads := congrArg List.head? same
    rw [MemoryScope.head?_label, MemoryScope.head?_label] at heads
    revert scopes heads
    cases first <;> cases second <;> intro scopes heads <;>
      first | exact scopes rfl | cases heads

theorem statedLanguage_prepared (candidate : Candidate) :
    statedLanguage language (prepared store outside request load candidate) =
      if candidate.kind = .preference then language candidate.content else none := by
  unfold statedLanguage
  rw [kind_prepared, content_prepared]

theorem Agree.refl (states : Option Λ) : Agree states states :=
  fun _ isOne _ isOther => Option.mem_unique isOne isOther

theorem contentKey_eq_iff {scope : MemoryScope} {kind : MemoryKind} {content other : String} :
    StoredMemoryRecord.contentKey scope kind content =
        StoredMemoryRecord.contentKey scope kind other ↔
      normalizedContent kind content = normalizedContent kind other := by
  unfold StoredMemoryRecord.contentKey
  rw [← String.toList_inj]
  generalize scope.label ++ "|" ++ kind.storageKey ++ "|" = start
  rw [String.toList_append, String.toList_append, List.append_cancel_left_eq, String.toList_inj]

/-- The candidates of a clear prompt are apart from each other and from the load. -/
theorem clear_iff : (∀ first ∈ detectPromptMemories request.prompt,
      ∀ second ∈ detectPromptMemories request.prompt,
        isFresh store outside request load first = true →
        isFresh store outside request load second = true →
        (first.kind = second.kind → first.content ≠ second.content) →
          Apart language (prepared store outside request load first)
            (prepared store outside request load second)) ∧
      (∀ candidate ∈ detectPromptMemories request.prompt,
        isFresh store outside request load candidate = true →
        (prepared store outside request load candidate).status = .active →
        ∀ held ∈ load.records, held.status = .active →
          Agree (statedLanguage language (prepared store outside request load candidate))
            (statedLanguage language held)) ↔
      Clear store outside request load language := by
  have among : ∀ candidate, candidate ∈ detectPromptMemories request.prompt ↔
      candidate ∈ remembered request.prompt ∨ candidate ∈ ruled request.prompt := by
    intro candidate
    rw [detectPromptMemories_eq, List.mem_append, Option.mem_toList, Option.mem_def]
  constructor
  · rintro ⟨apart, consistent⟩
    refine ⟨?_, ?_, ?_⟩
    · intro candidate isRemembered other isRuled fresh otherFresh kinds contents same
      refine (apart candidate ((among _).mpr (.inl isRemembered)) other
        ((among _).mpr (.inr isRuled)) fresh otherFresh fun _ => contents).keys ?_
      rw [dedupKey_prepared, dedupKey_prepared, kinds, contentKey_eq_iff, ← same, kinds]
    · intro candidate member other otherMember stays otherStays
      by_cases contents : candidate.content = other.content
      · rw [contents]
        exact .refl _
      have agree := (apart candidate member other otherMember stays.fresh otherStays.fresh
        fun _ => contents).languages ((staysActive_iff stays.preference stays.fresh).mpr stays)
          ((staysActive_iff otherStays.preference otherStays.fresh).mpr otherStays)
      rwa [statedLanguage_prepared, statedLanguage_prepared, if_pos stays.preference,
        if_pos otherStays.preference] at agree
    · intro candidate member stays held loaded preference active
      have agree := consistent candidate member stays.fresh
        ((staysActive_iff stays.preference stays.fresh).mpr stays) held loaded active
      rwa [statedLanguage_prepared, if_pos stays.preference, statedLanguage,
        if_pos preference] at agree
  · intro clear
    constructor
    · intro first isFirst second isSecond firstFresh secondFresh contents
      constructor
      · rw [dedupKey_prepared, dedupKey_prepared]
        by_cases kinds : first.kind = second.kind
        · have differ : normalizedContent first.kind first.content ≠
              normalizedContent second.kind second.content := by
            rcases (among first).mp isFirst with firstSaid | firstRuled <;>
              rcases (among second).mp isSecond with secondSaid | secondRuled
            · exact absurd (congrArg _ (Option.mem_unique firstSaid secondSaid)) (contents kinds)
            · exact clear.once first firstSaid second secondRuled firstFresh secondFresh kinds
                (contents kinds)
            · exact (clear.once second secondSaid first firstRuled secondFresh firstFresh kinds.symm
                (contents kinds).symm).symm
            · exact ruled_apart firstRuled secondRuled kinds (contents kinds)
          rw [kinds] at differ ⊢
          exact contentKey_eq_iff.not.mpr differ
        · exact contentKey_ne_of_kind kinds _ _
      · intro firstActive secondActive
        rw [statedLanguage_prepared, statedLanguage_prepared]
        split
        case isFalse => exact nofun
        case isTrue firstPreference =>
          split
          case isFalse => exact fun _ _ => nofun
          case isTrue secondPreference =>
            exact clear.agreeing first isFirst second isSecond
              ((staysActive_iff firstPreference firstFresh).mp firstActive)
              ((staysActive_iff secondPreference secondFresh).mp secondActive)
    · intro candidate member fresh active held loaded heldActive
      rw [statedLanguage_prepared, statedLanguage]
      split
      case isFalse => exact nofun
      case isTrue preference =>
        split
        case isFalse => exact fun _ _ => nofun
        case isTrue heldPreference =>
          exact clear.consistent candidate member ((staysActive_iff preference fresh).mp active)
            held loaded heldPreference heldActive

/-- A record that an extraction stored. -/
def IsStored (store : MemoryStore) (outside : Outside) (request : MemoryWriteRequest)
    (load : MemoryLoad) (record : StoredMemoryRecord) : Prop :=
  ∃ candidate ∈ detectPromptMemories request.prompt,
    isFresh store outside request load candidate = true ∧
      withoutId record = prepared store outside request load candidate

theorem IsStored.isNew {record : StoredMemoryRecord}
    (isStored : IsStored store outside request load record) :
    ∀ held ∈ load.records, held.dedupKey ≠ record.dedupKey := by
  obtain ⟨candidate, -, fresh, same⟩ := isStored
  have keys : (withoutId record).dedupKey =
      (prepared store outside request load candidate).dedupKey := congrArg _ same
  change record.dedupKey = _ at keys
  rw [keys]
  exact ((isFresh_iff candidate).mp fresh).2

theorem IsStored.conflictsWith {record : StoredMemoryRecord}
    (isStored : IsStored store outside request load record)
    (active : record.status = .active) :
    record.invalidation.conflictsWith = [] := by
  obtain ⟨candidate, -, -, same⟩ := isStored
  have status := congrArg StoredMemoryRecord.status same
  have conflicts := congrArg (·.invalidation.conflictsWith) same
  exact conflicts.trans (conflictsWith_prepared (status.symm.trans active))

/-- What was stored is sound if its records are apart from each other and agree with the load. -/
theorem sound_iff {stored : List StoredMemoryRecord}
    (areStored : ∀ record ∈ stored, IsStored store outside request load record) :
    Sound language load.records stored ↔
      stored.Pairwise (Apart language) ∧
        ∀ record ∈ stored, record.status = .active → ∀ held ∈ load.records,
          held.status = .active →
            Agree (statedLanguage language record) (statedLanguage language held) := by
  have unreviewed : ∀ record ∈ stored, record.status = .active → ∀ id : String,
      id ∉ record.invalidation.conflictsWith := by
    intro record member active id
    rw [(areStored record member).conflictsWith active]
    exact List.not_mem_nil
  constructor
  · intro sound
    have keys := List.pairwise_map.mp sound.once
    constructor
    · refine (keys.and sound.agreeing).imp_of_mem fun {first second} isFirst isSecond both => ?_
      refine ⟨both.1, fun firstActive secondActive => ?_⟩
      by_contra differ
      exact both.2 ⟨⟨firstActive, secondActive, differ, unreviewed first isFirst firstActive _⟩,
        ⟨secondActive, firstActive, fun agree => differ agree.symm,
          unreviewed second isSecond secondActive _⟩⟩
    · intro record member active held loaded heldActive
      by_contra differ
      exact sound.consistent record member held loaded
        ⟨active, heldActive, differ, unreviewed record member active _⟩
  · rintro ⟨apart, agree⟩
    refine ⟨List.pairwise_map.mpr (apart.imp Apart.keys), ?_, ?_, ?_⟩
    · exact fun record member held loaded _ => (areStored record member).isNew held loaded
    · exact fun record member held loaded contradicts => contradicts.differ
        (agree record member contradicts.firstActive held loaded contradicts.secondActive)
    · exact apart.imp fun apart both => both.1.differ
        (apart.languages both.1.firstActive both.1.secondActive)

end Readings

variable (store outside request) in
/-- What an extraction from a store appends: the prepared records from the first on. -/
theorem extractAndStore_stores (counter : Nat) :
    (extractAndStore (.ok store) outside request).wp (fun result after =>
      after.records.map withoutId <+:
          preparedRecords store outside request (store.load outside.deserialize outside.disk)
            (deduplicateCandidates (detectPromptMemories request.prompt)) ∧
        ∀ value, result = .ok value → after.records.map withoutId =
          preparedRecords store outside request (store.load outside.deserialize outside.disk)
            (deduplicateCandidates (detectPromptMemories request.prompt)))
      (.start counter) := by
  unfold extractAndStore
  generalize deduplicateCandidates (detectPromptMemories request.prompt) = candidates
  simp only [wp_bind, wp_throwIf, andThen_ok, andThen_error,
    wp_ofExcept]
  have nothing : ∀ (error : MemoryWriteError) (records : List StoredMemoryRecord),
      (Journal.start counter).records.map withoutId <+: records ∧
        ∀ value : MemoryWriteResult, Except.error error = .ok value →
          (Journal.start counter).records.map withoutId = records := by
    intro error records
    refine ⟨List.nil_prefix, fun value isOk => ?_⟩
    cases isOk
  refine ⟨fun _ => nothing _ _, fun _ => ⟨fun _ => nothing _ _, fun _ => ⟨fun _ => nothing _ _,
    fun _ => ?_⟩⟩⟩
  change Fallible.andThen _ _ (.ok store) _
  rw [andThen_ok, wp_bind]
  refine wp_mono (storeCandidates_stores _ _) ?_
  rintro result after ⟨stored, isAfter, isPrefix, isAll⟩
  have same : after.records = stored := isAfter
  cases result with
  | ok summaries =>
      rw [andThen_ok, wp_pure, same]
      exact ⟨isPrefix, fun _ _ => isAll summaries rfl⟩
  | error error =>
      rw [andThen_error, same]
      refine ⟨isPrefix, fun value isOk => ?_⟩
      cases isOk

end Extraction

/-- What an extraction stores is sound if the prompt is clear, and an extraction that succeeds is
sound only then, in whatever way the languages of texts are read. -/
theorem extraction_sound_iff {Λ : Type} (language : String → Option Λ) (store : MemoryStore)
    (outside : Outside) (request : MemoryWriteRequest) (counter : Nat) :
    (Clear store outside request (store.load outside.deserialize outside.disk) language →
      Sound language (store.load outside.deserialize outside.disk).records
        ((extractAndStore (.ok store) outside request).exec (.start counter)).2.records) ∧
    ∀ result, ((extractAndStore (.ok store) outside request).exec (.start counter)).1 =
        .ok result →
      (Sound language (store.load outside.deserialize outside.disk).records
          ((extractAndStore (.ok store) outside request).exec (.start counter)).2.records ↔
        Clear store outside request (store.load outside.deserialize outside.disk) language) := by
  obtain ⟨isPrefix, isAll⟩ := extractAndStore_stores store outside request counter
  generalize store.load outside.deserialize outside.disk = load at isPrefix isAll ⊢
  generalize ((extractAndStore (.ok store) outside request).exec (.start counter)).2.records =
    stored at isPrefix isAll ⊢
  have areStored : ∀ record ∈ stored, IsStored store outside request load record := by
    intro record member
    obtain ⟨candidate, isCandidate, same⟩ :=
      List.mem_map.mp (isPrefix.subset (List.mem_map_of_mem member))
    obtain ⟨isKept, fresh⟩ := List.mem_filter.mp isCandidate
    exact ⟨candidate, Selection.mem_of_mem_bestOf isKept, fresh, same.symm⟩
  have apart_withoutId : ∀ {first second : StoredMemoryRecord},
      Apart language (withoutId first) (withoutId second) → Apart language first second :=
    fun apart => ⟨apart.keys, apart.languages⟩
  have sufficient : Clear store outside request load language →
      Sound language load.records stored := by
    intro clear
    obtain ⟨apart, agree⟩ := clear_iff.mpr clear
    refine (sound_iff areStored).mpr ⟨?_, ?_⟩
    · have pairwise := (pairwise_preparedRecords.mpr apart).sublist isPrefix.sublist
      rw [List.pairwise_map] at pairwise
      exact pairwise.imp apart_withoutId
    · intro record member active
      obtain ⟨candidate, isCandidate, fresh, same⟩ := areStored record member
      have agrees := agree candidate isCandidate fresh (same ▸ active)
      rwa [← same] at agrees
  refine ⟨sufficient, fun result returned => ⟨fun sound => clear_iff.mp ?_, sufficient⟩⟩
  obtain ⟨apart, agree⟩ := (sound_iff areStored).mp sound
  constructor
  · refine pairwise_preparedRecords.mp ?_
    rw [← isAll result returned, List.pairwise_map]
    exact apart.imp fun apart => ⟨apart.keys, apart.languages⟩
  · intro candidate isCandidate fresh active
    have member := mem_preparedRecords isCandidate fresh
    rw [← isAll result returned] at member
    obtain ⟨record, isRecord, same⟩ := List.mem_map.mp member
    have agrees := agree record isRecord ((congrArg StoredMemoryRecord.status same).trans active)
    rwa [← same]

/-- Files of which there is none, and appends that succeed. -/
def freshOutside : Outside where
  deserialize := fun _ => .error "no record"
  serializedSize := fun record => .ok record.content.utf8ByteSize
  disk := fun _ => .notFound
  directoryFault := fun _ => none
  writeFault := fun _ => none
  now := 1

def freshStore : MemoryStore := ⟨"old", "new", "work/old", "work/new", "fingerprint"⟩

def promptRequest (prompt : String) : MemoryWriteRequest := ⟨true, prompt, none, none⟩

inductive Language
  | chinese
  | english
  | japanese
  deriving DecidableEq

/-- The language that a text names. -/
def namedLanguage (text : String) : Option Language :=
  if containsText text "中文" then some .chinese
  else if containsText text "英文" then some .english
  else if containsText text "日语" then some .japanese
  else none

/-- What an extraction from an empty store appends for a prompt. -/
def storedFor (prompt : String) : List StoredMemoryRecord :=
  ((extractAndStore (.ok freshStore) freshOutside (promptRequest prompt)).exec (.start 1)).2.records

theorem returns_chinese : ∃ result,
    ((extractAndStore (.ok freshStore) freshOutside
      (promptRequest "请用中文，请记住我的目标")).exec (.start 1)).1 = .ok result := by
  have isOk : ((extractAndStore (.ok freshStore) freshOutside
      (promptRequest "请用中文，请记住我的目标")).exec (.start 1)).1.isOk = true := by
    decide +kernel
  generalize ((extractAndStore (.ok freshStore) freshOutside
    (promptRequest "请用中文，请记住我的目标")).exec (.start 1)).1 = outcome at isOk ⊢
  cases outcome with
  | ok result => exact ⟨result, rfl⟩
  | error error => cases isOk

/-- A prompt that asks for one language and to remember something else is clear. -/
theorem extraction_sound_iff_chinese :
    Clear freshStore freshOutside (promptRequest "请用中文，请记住我的目标")
      (freshStore.load freshOutside.deserialize freshOutside.disk) namedLanguage := by
  obtain ⟨result, returned⟩ := returns_chinese
  have sound : Sound namedLanguage
      (freshStore.load freshOutside.deserialize freshOutside.disk).records
      (storedFor "请用中文，请记住我的目标") := by
    decide +kernel
  rw [storedFor] at sound
  exact ((extraction_sound_iff namedLanguage freshStore freshOutside
    (promptRequest "请用中文，请记住我的目标") 1).2 result returned).mp sound

/-- One prompt is stored twice under one key, and two other prompts leave two active records that
prefer different languages. -/
theorem extraction_repeats_and_contradicts :
    ¬ Sound namedLanguage (freshStore.load freshOutside.deserialize freshOutside.disk).records
      (storedFor "请记住以后说中文") ∧
    ¬ Sound namedLanguage (freshStore.load freshOutside.deserialize freshOutside.disk).records
      (storedFor "以后用中文和英文") ∧
    ¬ Sound namedLanguage (freshStore.load freshOutside.deserialize freshOutside.disk).records
      (storedFor "说中文，请记住以后用日语") := by
  decide +kernel

end Memory
end YunXi
