import YunXi.Memory.Recall

/-!
# What a recall shares

Both parts are filled from the records that may be shared with the workspace, in some order, and
a record that is in the boot part is no candidate for the dynamic part.
-/

namespace YunXi
namespace Memory

open Protocol Selection

section Parts

variable (load : MemoryLoad) (workspaceFingerprint query : String) (includeBootContext : Bool)
  (now : Nat)

/-- The record may be shared with the workspace: it is active, not sensitive and not of another
workspace. -/
structure Shared (record : StoredMemoryRecord) : Prop where
  loaded : record ∈ load.records
  ofWorkspace : ∀ fingerprint, record.scope = .workspace fingerprint →
    fingerprint = workspaceFingerprint
  notSensitive : record.sensitivity ≠ .high
  active : record.status = .active

/-- The record is a candidate for the boot part. -/
structure BootEligible (record : StoredMemoryRecord) : Prop
    extends Shared load workspaceFingerprint record where
  recallable : record.isRecallable now = true
  important : isBootCandidate record = true
  outsideTimeline : ¬ (isRelationshipTimelineQuery query = true ∧
    isGraphMemory record.kind = true)

/-- The record is historical context of a query for a time line. -/
structure IsHistorical (record : StoredMemoryRecord) : Prop where
  timeline : isRelationshipTimelineQuery query = true
  graph : isGraphMemory record.kind = true
  notRecallable : record.isRecallable now = false

/-- The record is a candidate for the dynamic part behind a boot part. -/
structure DynamicEligible (boot : List MemoryContextRecord) (record : StoredMemoryRecord) : Prop
    extends Shared load workspaceFingerprint record where
  current : (record.isRecallable now = true ∧ record.id ∉ boot.map (·.id)) ∨
    IsHistorical query now record
  relevant : isRelationshipTimelineQuery query = true ∨
    (isBlank query = false ∧ scoreRecord record query ≥ recallRelevanceThreshold)

/-- At its turn, behind the records before it, a record did not fit into the part any more. -/
def NoRoom (most budget : Nat)
    (part : List MemoryContextRecord)
    (record : StoredMemoryRecord) : Prop :=
  ∃ earlier, earlier <+: part ∧
    (most ≤ earlier.length ∨
      budget < (earlier.map fun context => context.content.length).sum +
        record.content.length)

/-- A part holds every candidate that fits into it at its turn. -/
def HoldsWhatFits (eligible : StoredMemoryRecord → Prop)
    (most budget : Nat)
    (part : List MemoryContextRecord) : Prop :=
  ∀ record, eligible record →
    record.toContextRecord ∈ part ∨ NoRoom most budget part record

/-- Some candidate for a part is not in it, for space. -/
def LeavesOut (eligible : StoredMemoryRecord → Prop)
    (most budget : Nat)
    (part : List MemoryContextRecord) : Prop :=
  ∃ record, eligible record ∧
    record.toContextRecord ∉ part ∧ NoRoom most budget part record

/-- What holds of the result of a recall. -/
structure RecallKept (result : MemoryRecallResult) : Prop where
  boot : ∀ context ∈ result.boot, ∃ record, record.toContextRecord = context ∧
    BootEligible load workspaceFingerprint query now record
  dynamic : ∀ context ∈ result.dynamic, ∃ record, record.toContextRecord = context ∧
    DynamicEligible load workspaceFingerprint query now result.boot record
  apart : ∀ first ∈ result.boot, ∀ second ∈ result.dynamic, first.id ≠ second.id
  bootRecords : result.boot.length ≤ 6
  bootChars : (result.boot.map fun context => context.content.length).sum ≤ 1000
  dynamicRecords : result.dynamic.length ≤ 8
  dynamicChars : (result.dynamic.map fun context => context.content.length).sum ≤ 1200
  bootFilled : includeBootContext = true →
    HoldsWhatFits (BootEligible load workspaceFingerprint query now) 6 1000 result.boot
  dynamicFilled :
    HoldsWhatFits (DynamicEligible load workspaceFingerprint query now result.boot) 8 1200
      result.dynamic
  truncated : result.truncated = true ↔
    (includeBootContext = true ∧
      LeavesOut (BootEligible load workspaceFingerprint query now) 6 1000 result.boot) ∨
    LeavesOut (DynamicEligible load workspaceFingerprint query now result.boot) 8 1200
      result.dynamic

variable {load workspaceFingerprint query includeBootContext now}

theorem matchesWorkspace_iff {scope : MemoryScope} :
    scope.matchesWorkspace workspaceFingerprint = true ↔
      ∀ fingerprint, scope = .workspace fingerprint → fingerprint = workspaceFingerprint := by
  cases scope with
  | workspace rootFingerprint => simp [MemoryScope.matchesWorkspace]
  | globalUser => exact iff_of_true rfl nofun
  | agentIdentity => exact iff_of_true rfl nofun
  | relationship => exact iff_of_true rfl nofun

variable {record : StoredMemoryRecord}

theorem active_of_isRecallable
    (recallable : record.isRecallable now = true) : record.status = .active := by
  unfold StoredMemoryRecord.isRecallable at recallable
  simp only [Bool.and_eq_true, decide_eq_true_eq] at recallable
  exact recallable.1.1.1.1

theorem mem_recallable : record ∈ recallable load workspaceFingerprint now ↔
      Shared load workspaceFingerprint record ∧ record.isRecallable now = true := by
  unfold recallable isShareable
  rw [List.mem_filter, Bool.and_eq_true, Bool.and_eq_true, decide_eq_true_eq,
    matchesWorkspace_iff]
  constructor
  · rintro ⟨loaded, ⟨notSensitive, ofWorkspace⟩, recallable⟩
    exact ⟨⟨loaded, ofWorkspace, notSensitive, active_of_isRecallable recallable⟩, recallable⟩
  · rintro ⟨shared, recallable⟩
    exact ⟨shared.loaded, ⟨shared.notSensitive, shared.ofWorkspace⟩, recallable⟩

theorem mem_historical : record ∈ historical load workspaceFingerprint query now ↔
      Shared load workspaceFingerprint record ∧ IsHistorical query now record := by
  unfold historical isShareable
  simp only [List.mem_filter, Bool.and_eq_true, decide_eq_true_eq, Bool.not_eq_true',
    matchesWorkspace_iff]
  constructor
  · rintro ⟨loaded, ⟨⟨notSensitive, ofWorkspace⟩, notRecallable⟩, ⟨timeline, active⟩, graph⟩
    exact ⟨⟨loaded, ofWorkspace, notSensitive, active⟩, timeline, graph, notRecallable⟩
  · rintro ⟨shared, timeline, graph, notRecallable⟩
    exact ⟨shared.loaded, ⟨⟨shared.notSensitive, shared.ofWorkspace⟩, notRecallable⟩,
      ⟨timeline, shared.active⟩, graph⟩

theorem mem_bootCandidates : record ∈ bootCandidates load workspaceFingerprint query now ↔
      BootEligible load workspaceFingerprint query now record := by
  unfold bootCandidates
  rw [List.mem_filter, mem_recallable]
  simp only [Bool.and_eq_true, Bool.not_eq_true', ← Bool.not_eq_true]
  constructor
  · rintro ⟨⟨shared, recallable⟩, important, outside⟩
    exact { shared with recallable, important, outsideTimeline := outside }
  · intro eligible
    exact ⟨⟨eligible.toShared, eligible.recallable⟩, eligible.important,
      eligible.outsideTimeline⟩

theorem mem_dynamicCandidates :
    record ∈ dynamicCandidates load workspaceFingerprint query includeBootContext now ↔
      DynamicEligible load workspaceFingerprint query now
        (recallLoaded load workspaceFingerprint query includeBootContext now).boot record := by
  have ids : ((recallLoaded load workspaceFingerprint query includeBootContext now).boot.map
      (·.id)) =
      (bootPart load workspaceFingerprint query includeBootContext now).taken.map (·.id) :=
    List.map_map
  have current : record ∈
      (recallable load workspaceFingerprint now).filter (fun record =>
        !((bootPart load workspaceFingerprint query includeBootContext now).taken.map
          (·.id)).contains record.id) ++ historical load workspaceFingerprint query now ↔
      Shared load workspaceFingerprint record ∧
        ((record.isRecallable now = true ∧ record.id ∉
          (recallLoaded load workspaceFingerprint query includeBootContext now).boot.map
            (·.id)) ∨ IsHistorical query now record) := by
    rw [List.mem_append, List.mem_filter, mem_recallable, mem_historical, ids,
      Bool.not_eq_true', ← Bool.not_eq_true, List.contains_iff_mem, and_assoc, ← and_or_left]
  unfold dynamicCandidates
  dsimp only
  split
  case isTrue timeline =>
    rw [(perm_sortBy _ _).mem_iff, current]
    constructor
    · rintro ⟨shared, current⟩
      exact { shared with current, relevant := .inl timeline }
    · exact fun eligible => ⟨eligible.toShared, eligible.current⟩
  case isFalse timeless =>
    rw [(perm_sortBy _ _).mem_iff, List.mem_filter, current, Bool.and_eq_true,
      Bool.not_eq_true', decide_eq_true_eq]
    constructor
    · rintro ⟨⟨shared, current⟩, relevant⟩
      exact { shared with current, relevant := .inr relevant }
    · intro eligible
      exact ⟨⟨eligible.toShared, eligible.current⟩, eligible.relevant.resolve_left timeless⟩

section Filling

variable (distinct : (load.records.map (·.id)).Nodup)

include distinct

/-- A loaded record is in a part if its context is. -/
theorem mem_of_context_mem {taken : List StoredMemoryRecord}
    (loaded : record ∈ load.records) (within : ∀ other ∈ taken, other ∈ load.records)
    (member : record.toContextRecord ∈ taken.map (·.toContextRecord)) : record ∈ taken := by
  obtain ⟨other, isTaken, same⟩ := List.mem_map.mp member
  have sameId : other.id = record.id := congrArg MemoryContextRecord.id same
  rwa [← List.inj_on_of_nodup_map distinct (within other isTaken) loaded sameId]

omit distinct in
theorem chars_context (records : List StoredMemoryRecord) :
    ((records.map (·.toContextRecord)).map fun context => context.content.length) =
      records.map (·.chars) := by
  rw [List.map_map]
  rfl

omit distinct in
/-- A part that is filled from the candidates holds those that fit. -/
theorem holdsWhatFits {eligible : StoredMemoryRecord → Prop}
    {candidates : List StoredMemoryRecord}
    {most budget : Nat}
    (isCandidate : ∀ record, eligible record → record ∈ candidates) :
    HoldsWhatFits eligible most budget
      ((fill StoredMemoryRecord.chars most budget 0 0 candidates).taken.map
        (·.toContextRecord)) := by
  intro record isEligible
  rcases mem_taken_or_noRoom (isCandidate record isEligible) with
    taken | ⟨earlier, before, full⟩
  · exact .inl (List.mem_map_of_mem taken)
  · refine .inr ⟨earlier.map (·.toContextRecord), before.map _, ?_⟩
    rw [chars_context, List.length_map]
    rw [Nat.zero_add, Nat.zero_add] at full
    exact full

/-- A part that is filled from the candidates leaves something out exactly when a candidate is
not in it. -/
theorem leavesOut_iff {eligible : StoredMemoryRecord → Prop}
    {candidates : List StoredMemoryRecord} {most budget : Nat}
    (isCandidate : ∀ record, record ∈ candidates ↔ eligible record)
    (loaded : ∀ record, eligible record → record ∈ load.records) (once : candidates.Nodup) :
    (fill StoredMemoryRecord.chars most budget 0 0 candidates).leftOut = true ↔
      LeavesOut eligible most budget
        ((fill StoredMemoryRecord.chars most budget 0 0 candidates).taken.map
          (·.toContextRecord)) := by
  have within : ∀ other ∈ (fill StoredMemoryRecord.chars most budget 0 0 candidates).taken,
      other ∈ load.records :=
    fun other taken => loaded other ((isCandidate other).mp (taken_sublist.mem taken))
  rw [leftOut_iff once]
  constructor
  · rintro ⟨record, member, left⟩
    have isEligible := (isCandidate record).mp member
    have missing := fun inPart =>
      left (mem_of_context_mem distinct (loaded record isEligible) within inPart)
    exact ⟨record, isEligible, missing,
      (holdsWhatFits (fun other => (isCandidate other).mpr) record isEligible).resolve_left
        missing⟩
  · rintro ⟨record, isEligible, left, -⟩
    exact ⟨record, (isCandidate record).mpr isEligible,
      fun taken => left (List.mem_map_of_mem taken)⟩

theorem nodup_bootCandidates : (bootCandidates load workspaceFingerprint query now).Nodup :=
  ((List.Nodup.of_map _ distinct).filter _).filter _

theorem nodup_dynamicCandidates :
    (dynamicCandidates load workspaceFingerprint query includeBootContext now).Nodup := by
  have records : load.records.Nodup := List.Nodup.of_map _ distinct
  have apart : ∀ bootIds : List String,
      ((recallable load workspaceFingerprint now).filter
          (fun record => !bootIds.contains record.id) ++
        historical load workspaceFingerprint query now).Nodup := by
    intro bootIds
    refine ((records.filter _).filter _).append (records.filter _) ?_
    intro record current isHistorical
    have recallable := (mem_recallable.mp (List.mem_filter.mp current).1).2
    have notRecallable := (mem_historical.mp isHistorical).2.notRecallable
    exact Bool.false_ne_true (notRecallable.symm.trans recallable)
  unfold dynamicCandidates
  dsimp only
  split
  case isTrue => exact (perm_sortBy _ _).nodup_iff.mpr (apart _)
  case isFalse => exact (perm_sortBy _ _).nodup_iff.mpr ((apart _).filter _)

end Filling

theorem eligible_of_mem_bootPart (member : record ∈
      (bootPart load workspaceFingerprint query includeBootContext now).taken) :
    BootEligible load workspaceFingerprint query now record := by
  unfold bootPart at member
  split at member
  case isTrue =>
    exact mem_bootCandidates.mp ((perm_sortBy _ _).mem_iff.mp (taken_sublist.mem member))
  case isFalse => exact absurd member List.not_mem_nil

theorem eligible_of_mem_dynamicPart (member : record ∈
      (dynamicPart load workspaceFingerprint query includeBootContext now).taken) :
    DynamicEligible load workspaceFingerprint query now
      (recallLoaded load workspaceFingerprint query includeBootContext now).boot record :=
  mem_dynamicCandidates.mp (taken_sublist.mem member)

/-- The boot part is within its bounds, also when it is not asked for. -/
theorem bootPart_bounds :
    (bootPart load workspaceFingerprint query includeBootContext now).taken.length ≤
        bootMaxRecords ∧
      ((bootPart load workspaceFingerprint query includeBootContext now).taken.map
        (·.chars)).sum ≤ bootBudgetChars := by
  unfold bootPart
  split
  case isTrue =>
    exact ⟨length_taken_le, sum_taken_le⟩
  case isFalse => exact ⟨Nat.zero_le _, Nat.zero_le _⟩

theorem bootPart_leftOut (distinct : (load.records.map (·.id)).Nodup) :
    (bootPart load workspaceFingerprint query includeBootContext now).leftOut = true ↔
      includeBootContext = true ∧
        LeavesOut (BootEligible load workspaceFingerprint query now) 6 1000
          (recallLoaded load workspaceFingerprint query includeBootContext now).boot := by
  unfold recallLoaded bootPart
  cases includeBootContext with
  | false => simp
  | true =>
      rw [if_pos rfl, and_iff_right rfl]
      refine leavesOut_iff distinct (fun record => ?_) (fun record eligible => eligible.loaded) ?_
      · exact (perm_sortBy _ _).mem_iff.trans mem_bootCandidates
      · exact (perm_sortBy _ _).nodup_iff.mpr (nodup_bootCandidates distinct)

theorem dynamicPart_leftOut (distinct : (load.records.map (·.id)).Nodup) :
    (dynamicPart load workspaceFingerprint query includeBootContext now).leftOut = true ↔
      LeavesOut (DynamicEligible load workspaceFingerprint query now
          (recallLoaded load workspaceFingerprint query includeBootContext now).boot) 8 1200
        (recallLoaded load workspaceFingerprint query includeBootContext now).dynamic :=
  leavesOut_iff distinct (fun _ => mem_dynamicCandidates) (fun _ eligible => eligible.loaded)
    (nodup_dynamicCandidates distinct)

/-- The two parts name different records. -/
theorem parts_apart (distinct : (load.records.map (·.id)).Nodup) {first second : StoredMemoryRecord}
    (inBoot : first ∈ (bootPart load workspaceFingerprint query includeBootContext now).taken)
    (inDynamic : second ∈
      (dynamicPart load workspaceFingerprint query includeBootContext now).taken) :
    first.id ≠ second.id := by
  intro same
  have bootEligible := eligible_of_mem_bootPart inBoot
  have dynamicEligible := eligible_of_mem_dynamicPart inDynamic
  rcases dynamicEligible.current with ⟨-, isNew⟩ | isHistorical
  · refine isNew (List.mem_map.mpr ⟨first.toContextRecord, List.mem_map_of_mem inBoot, ?_⟩)
    exact same
  · have sameRecord := List.inj_on_of_nodup_map distinct bootEligible.loaded
      dynamicEligible.loaded same
    subst sameRecord
    exact Bool.false_ne_true (isHistorical.notRecallable.symm.trans bootEligible.recallable)

/-- What holds of a recall from records with different ids. -/
theorem recallLoaded_kept (distinct : (load.records.map (·.id)).Nodup) :
    RecallKept load workspaceFingerprint query includeBootContext now
      (recallLoaded load workspaceFingerprint query includeBootContext now) where
  boot := by
    intro context member
    obtain ⟨record, isTaken, same⟩ := List.mem_map.mp member
    exact ⟨record, same, eligible_of_mem_bootPart isTaken⟩
  dynamic := by
    intro context member
    obtain ⟨record, isTaken, same⟩ := List.mem_map.mp member
    exact ⟨record, same, eligible_of_mem_dynamicPart isTaken⟩
  apart := by
    intro _ inBoot _ inDynamic
    obtain ⟨first, isFirst, rfl⟩ := List.mem_map.mp inBoot
    obtain ⟨second, isSecond, rfl⟩ := List.mem_map.mp inDynamic
    exact parts_apart distinct isFirst isSecond
  bootRecords := by
    rw [recallLoaded, List.length_map]
    exact bootPart_bounds.1
  bootChars := by
    rw [recallLoaded, chars_context]
    exact bootPart_bounds.2
  dynamicRecords := by
    rw [recallLoaded, List.length_map]
    exact length_taken_le
  dynamicChars := by
    rw [recallLoaded, chars_context]
    exact sum_taken_le
  bootFilled := by
    intro included
    unfold recallLoaded bootPart
    rw [if_pos included]
    exact holdsWhatFits fun record eligible =>
      (perm_sortBy _ _).mem_iff.mpr (mem_bootCandidates.mpr eligible)
  dynamicFilled := holdsWhatFits fun _ => mem_dynamicCandidates.mpr
  truncated := by
    rw [← bootPart_leftOut distinct, ← dynamicPart_leftOut distinct]
    exact Bool.or_eq_true _ _ ▸ Iff.rfl

end Parts

/-- Every recall from a store shares only what may be shared, keeps its two parts apart and
within their bounds, leaves out no candidate that fits, and tells whether one was left out for
space. -/
theorem recall_kept {deserialize : String → Except String StoredMemoryRecord}
    {disk : String → FileAnswer} {forWorkspace : Except MemoryStoreError MemoryStore}
    {request : MemoryRecallRequest} {now : Nat} {result : MemoryRecallResult}
    (recalled : recallMemories deserialize disk forWorkspace request now = .ok result) :
    ∃ store, forWorkspace = .ok store ∧
      RecallKept (store.load deserialize disk) store.workspaceFingerprint request.query
        request.includeBootContext now result := by
  unfold recallMemories at recalled
  by_cases tooLong : request.query.length > maxQueryChars
  · rw [if_pos tooLong] at recalled
    cases recalled
  · rw [if_neg tooLong] at recalled
    cases forWorkspace with
    | error error => cases recalled
    | ok store =>
        cases recalled
        exact ⟨store, rfl, recallLoaded_kept (store.nodup_ids_load deserialize disk)⟩

def homeStore : MemoryStore := ⟨"old", "new", "work/old", "work/new", "fingerprint"⟩

/-- Files of one line each. -/
def noteDisk : String → FileAnswer := fun _ => .file 5 (.ok "note\n")

/-- A reader that takes a whole line for the content. -/
def readNote (line : String) : Except String StoredMemoryRecord :=
  .ok (.new line .globalUser .preference line 1)

def noteRequest : MemoryRecallRequest := ⟨"when did", true⟩

theorem recall_kept_note :
    ∃ result, recallMemories readNote noteDisk (.ok homeStore) noteRequest 2 = .ok result ∧
      ∃ store, Except.ok homeStore = (Except.ok store : Except MemoryStoreError MemoryStore) ∧
        RecallKept (store.load readNote noteDisk) store.workspaceFingerprint noteRequest.query
          noteRequest.includeBootContext 2 result :=
  ⟨_, rfl, recall_kept rfl⟩

end Memory
end YunXi
