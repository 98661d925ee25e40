import YunXi.Storage.Store

/-!
# Listing against loading

A list names sessions by the ids in their records, and loading finds them by the names of
their files.  The two agree where every record lies in the file of its id.
-/

namespace YunXi
namespace Storage

theorem sessionFile_eq (id : String) : sessionFile id = id ++ "." ++ "json" := by
  rw [sessionFile, String.append_assoc]
  rfl

theorem sessionFile_ne_empty (id : String) : sessionFile id ≠ "" := by
  intro empty
  have characters := congrArg String.toList empty
  rw [sessionFile, String.toList_append] at characters
  exact List.cons_ne_nil _ _ (List.append_eq_nil_iff.mp characters).2

variable {id : String}

theorem extension_sessionFile (named : id ≠ "") :
    extension (sessionFile id) = some "json" := by
  rw [sessionFile_eq]
  exact extension_dot "json" named (by decide)

theorem sessionBackupPath_sessionFile (named : id ≠ "") :
    sessionBackupPath (sessionFile id) = sessionFile id ++ "." ++ "bak" := by
  rw [sessionBackupPath, withExtension, if_neg (by decide), sessionFile_eq,
    fileStem_dot "json" named (by decide)]
  simp only [String.append_assoc]
  rfl

variable {name : String}

/-- What ends in `.json.bak` is its stem with `.bak`. -/
theorem eq_fileStem_bak (backup : ".json.bak".toList <:+ name.toList) :
    name = fileStem name ++ "." ++ "bak" := by
  obtain ⟨start, split⟩ := backup
  have named : name = String.ofList (start ++ ".json".toList) ++ "." ++ "bak" := by
    rw [← String.toList_inj, ← split]
    simp
  have some : String.ofList (start ++ ".json".toList) ≠ "" := by
    intro empty
    have characters := congrArg String.toList empty
    rw [String.toList_ofList] at characters
    exact List.cons_ne_nil _ _ (List.append_eq_nil_iff.mp characters).2
  rw [named, fileStem_dot "bak" some (by decide)]

section Targets

variable {root : Root}

/-- A file stands for itself, or is a backup whose file is missing. -/
theorem nextTarget_cases {target : String} (targets : nextTarget root name = some target) :
    (extension name = some "json" ∧ target = name) ∨
      (name = target ++ "." ++ "bak" ∧ target ∉ root.files.keys) := by
  unfold nextTarget at targets
  split at targets
  case isTrue json => exact .inl ⟨json, (Option.some_inj.mp targets).symm⟩
  case isFalse =>
    split at targets
    case isFalse => cases targets
    case isTrue backup =>
      split at targets
      case isTrue => cases targets
      case isFalse missing =>
        have stem : fileStem name = target := Option.some_inj.mp targets
        refine .inr ⟨?_, ?_⟩
        · rw [← stem]
          exact eq_fileStem_bak backup
        · rw [← stem]
          exact missing

/-- No two files of a root stand for the same session file. -/
theorem nextTarget_injective {left right target : String} (leftPresent : left ∈ root.files.keys)
    (rightPresent : right ∈ root.files.keys) (leftTarget : nextTarget root left = some target)
    (rightTarget : nextTarget root right = some target) : left = right := by
  rcases nextTarget_cases leftTarget with ⟨-, same⟩ | ⟨leftName, leftMissing⟩
  · rcases nextTarget_cases rightTarget with ⟨-, alike⟩ | ⟨-, rightMissing⟩
    · exact same.symm.trans alike
    · exact absurd leftPresent (same ▸ rightMissing)
  · rcases nextTarget_cases rightTarget with ⟨-, alike⟩ | ⟨rightName, -⟩
    · exact absurd rightPresent (alike ▸ leftMissing)
    · rw [leftName, rightName]

theorem nextTarget_sessionFile (named : id ≠ "") :
    nextTarget root (sessionFile id) = some (sessionFile id) :=
  if_pos (extension_sessionFile named)

/-- A backup whose file is missing stands for that file. -/
theorem nextTarget_sessionBackupPath (named : id ≠ "")
    (missing : sessionFile id ∉ root.files.keys) :
    nextTarget root (sessionBackupPath (sessionFile id)) = some (sessionFile id) := by
  have ending : (sessionFile id ++ "." ++ "bak").toList = id.toList ++ ".json.bak".toList := by
    rw [sessionFile, String.toList_append, String.toList_append, String.toList_append]
    simp
  rw [sessionBackupPath_sessionFile named, nextTarget, extension_dot "bak"
    (sessionFile_ne_empty id) (by decide), if_neg (by decide), if_pos, withExtension,
    if_pos rfl, fileStem_dot "bak" (sessionFile_ne_empty id) (by decide), if_neg missing]
  rw [ending]
  exact List.suffix_append _ _

end Targets

variable {record : StoredSession} {entries : List (Except String String)}

section Scans

variable {reader : SessionReader} {root : Root} {legacy : Bool}

/-- The session that an entry gives. -/
def seen (reader : SessionReader) (root : Root) (legacy : Bool) :
    Except String String → Option SessionSnapshot
  | .error _ => none
  | .ok name =>
      match scanEntry reader root legacy name with
      | .ok (some record) => some (record.snapshot legacy)
      | _ => none

theorem scanEntries_sessions (room : Nat) (entries : List (Except String String)) :
    (scanEntries reader root legacy room entries).1 =
      (entries.take room).filterMap (seen reader root legacy) := by
  induction entries generalizing room with
  | nil => cases room <;> rfl
  | cons entry rest ih =>
      cases room with
      | zero => rfl
      | succ room =>
          rw [scanEntries, List.take_succ_cons, List.filterMap_cons, ← ih]
          cases entry with
          | error error => rfl
          | ok name =>
              simp only [seen]
              cases scanEntry reader root legacy name with
              | error error => rfl
              | ok found => cases found <;> rfl

/-- What a scan says when it did not see every entry. -/
def ScanWarning (root : Root) (warning : String) : Prop :=
  warning = "session scan stopped after " ++ toString maxScannedFiles ++ " files in " ++
      root.path ∨
    ∃ error, warning = "failed to read session entry: " ++ error

/-- An entry that gives a session is seen, or the scan says that it stopped before. -/
theorem mem_scanEntries
    (gives : scanEntry reader root legacy name = .ok (some record)) (room : Nat)
    (present : .ok name ∈ entries) :
    record.snapshot legacy ∈ (scanEntries reader root legacy room entries).1 ∨
      ∃ warning ∈ (scanEntries reader root legacy room entries).2, ScanWarning root warning := by
  induction entries generalizing room with
  | nil => cases present
  | cons entry rest ih =>
      cases room with
      | zero => exact .inr ⟨_, List.mem_singleton_self _, .inl rfl⟩
      | succ room =>
          rw [scanEntries]
          rcases List.mem_cons.mp present with rfl | later
          · dsimp only
            rw [gives]
            exact .inl List.mem_cons_self
          · rcases ih room later with member | ⟨warning, member, reports⟩
            · left
              cases entry with
              | error error => exact member
              | ok other =>
                  dsimp only
                  cases scanEntry reader root legacy other with
                  | error error => exact member
                  | ok found =>
                      cases found with
                      | none => exact member
                      | some record => exact List.mem_cons_of_mem _ member
            · refine .inr ⟨warning, ?_, reports⟩
              cases entry with
              | error error => exact List.mem_cons_of_mem _ member
              | ok other =>
                  dsimp only
                  cases scanEntry reader root legacy other with
                  | error error => exact List.mem_cons_of_mem _ member
                  | ok found => cases found <;> exact member

/-- An entry that cannot be read is reported, or the scan says that it stopped before. -/
theorem warning_of_error {error : String} (room : Nat)
    (present : .error error ∈ entries) :
    ∃ warning ∈ (scanEntries reader root legacy room entries).2, ScanWarning root warning := by
  induction entries generalizing room with
  | nil => cases present
  | cons entry rest ih =>
      cases room with
      | zero => exact ⟨_, List.mem_singleton_self _, .inl rfl⟩
      | succ room =>
          rw [scanEntries]
          rcases List.mem_cons.mp present with rfl | later
          · exact ⟨_, List.mem_cons_self, .inr ⟨error, rfl⟩⟩
          · obtain ⟨warning, member, reports⟩ := ih room later
            refine ⟨warning, ?_, reports⟩
            cases entry with
            | error error => exact List.mem_cons_of_mem _ member
            | ok other =>
                dsimp only
                cases scanEntry reader root legacy other with
                | error error => exact List.mem_cons_of_mem _ member
                | ok found => cases found <;> exact member

end Scans

theorem validateSessionId_ne_empty (valid : validateSessionId id = .ok ()) :
    id ≠ "" := by
  obtain ⟨sized, -⟩ := Except.check_bind_eq_ok.mp valid
  exact fun empty => refuseIf_eq_ok.mp sized (.inl empty)

theorem StoredSession.validateSessionId_of_validate
    (valid : record.validate = .ok ()) : validateSessionId record.id = .ok () :=
  (Except.check_bind_eq_ok.mp (Except.check_bind_eq_ok.mp valid).2).1

variable {root : Root}

section Reading

variable {reader : SessionReader}

theorem validateSessionId_of_parseRecord {source : String} {content : ByteArray}
    (parsed : parseRecord reader source content = .ok record) :
    validateSessionId record.id = .ok () := by
  obtain ⟨read, -, checked⟩ := Except.bind_eq_ok.mp parsed
  obtain ⟨valid, returned⟩ := Except.check_bind_eq_ok.mp checked
  rw [Except.pure_eq_ok] at returned
  subst returned
  exact read.validateSessionId_of_validate (Except.mapError_eq_ok.mp valid)

/-- A record of the next sessions has a valid id. -/
theorem validateSessionId_of_readNext (read : root.readNext reader name = .ok (some record)) :
    validateSessionId record.id = .ok () := by
  obtain ⟨main, -, rest⟩ := Except.bind_eq_ok.mp read
  cases main with
  | some content =>
      obtain ⟨parsed, parses, returned⟩ := Except.bind_eq_ok.mp rest
      rw [Except.pure_eq_ok, Option.some_inj] at returned
      exact returned ▸ validateSessionId_of_parseRecord parses
  | none =>
      obtain ⟨backup, -, rest⟩ := Except.bind_eq_ok.mp rest
      cases backup with
      | some content =>
          obtain ⟨parsed, parses, returned⟩ := Except.bind_eq_ok.mp rest
          rw [Except.pure_eq_ok, Option.some_inj] at returned
          exact returned ▸ validateSessionId_of_parseRecord parses
      | none => cases rest

/-- A record that is read lies in the file or in its backup. -/
theorem present_of_readNext (read : root.readNext reader name = .ok (some record)) :
    name ∈ root.files.keys ∨ sessionBackupPath name ∈ root.files.keys := by
  unfold Root.readNext at read
  cases found : root.files.lookup? name with
  | some entry => exact .inl (SortedMap.mem_keys_iff.mpr ⟨entry, found⟩)
  | none =>
      cases backup : root.files.lookup? (sessionBackupPath name) with
      | some entry => exact .inr (SortedMap.mem_keys_iff.mpr ⟨entry, backup⟩)
      | none =>
          rw [found, backup] at read
          cases read

theorem present_of_readLegacy
    (read : root.readLegacy reader name = .ok (some record)) : name ∈ root.files.keys := by
  unfold Root.readLegacy at read
  cases found : root.files.lookup? name with
  | some entry => exact SortedMap.mem_keys_iff.mpr ⟨entry, found⟩
  | none =>
      rw [found] at read
      cases read

theorem validate_of_fromLegacy {value : Protocol.Value}
    (projected : StoredSession.fromLegacy value = .ok record) : record.validate = .ok () := by
  cases value with
  | object members =>
      obtain ⟨_, -, rest⟩ := Except.bind_eq_ok.mp projected
      obtain ⟨_, -, rest⟩ := Except.bind_eq_ok.mp rest
      obtain ⟨_, -, rest⟩ := Except.bind_eq_ok.mp rest
      obtain ⟨valid, returned⟩ := Except.check_bind_eq_ok.mp rest
      rw [Except.pure_eq_ok] at returned
      subst returned
      exact valid
  | _ => cases projected

theorem validateSessionId_of_readLegacy
    (read : root.readLegacy reader name = .ok (some record)) :
    validateSessionId record.id = .ok () := by
  obtain ⟨content, -, rest⟩ := Except.bind_eq_ok.mp read
  cases content with
  | none => cases rest
  | some content =>
      obtain ⟨value, -, rest⟩ := Except.bind_eq_ok.mp rest
      obtain ⟨projected, projects, returned⟩ := Except.bind_eq_ok.mp rest
      rw [Except.pure_eq_ok, Option.some_inj] at returned
      subst returned
      exact projected.validateSessionId_of_validate
        (validate_of_fromLegacy (Except.mapError_eq_ok.mp projects))

end Reading

section Canonical

variable (reader : SessionReader)

/-- Every record lies in the file of its id, and no session is in both roots. -/
structure Workspace.Canonical (workspace : Workspace) : Prop where
  next : ∀ name ∈ workspace.nextRoot.files.keys, ∀ target record,
    nextTarget workspace.nextRoot name = some target →
    workspace.nextRoot.readNext reader target = .ok (some record) →
      target = sessionFile record.id
  legacy : ∀ root ∈ workspace.legacyRoot, ∀ name record, extension name = some "json" →
    root.readLegacy reader name = .ok (some record) →
      name = sessionFile record.id ∧ workspace.nextRoot.readNext reader name = .ok none

variable {reader} {workspace : Workspace}

variable {snapshot : SessionSnapshot} {entry : Except String String}

/-- What `seen` sees of the next sessions. -/
theorem seen_next : seen reader root false entry = some snapshot ↔
      ∃ name target record, entry = .ok name ∧ nextTarget root name = some target ∧
        root.readNext reader target = .ok (some record) ∧ record.snapshot false = snapshot := by
  constructor
  · intro sees
    cases entry with
    | error error => cases sees
    | ok name =>
        unfold seen scanEntry at sees
        simp only [Bool.false_eq_true, if_false] at sees
        cases targets : nextTarget root name with
        | none =>
            rw [targets] at sees
            cases sees
        | some target =>
            rw [targets] at sees
            dsimp only at sees
            split at sees
            case h_1 record reads =>
              exact ⟨name, target, record, rfl, targets, reads, Option.some_inj.mp sees⟩
            case h_2 => cases sees
  · rintro ⟨name, target, record, rfl, targets, reads, rfl⟩
    unfold seen scanEntry
    simp only [Bool.false_eq_true, if_false, targets, reads]

/-- What `seen` sees of the legacy sessions. -/
theorem seen_legacy : seen reader root true entry = some snapshot ↔
      ∃ name record, entry = .ok name ∧ extension name = some "json" ∧
        root.readLegacy reader name = .ok (some record) ∧ record.snapshot true = snapshot := by
  constructor
  · intro sees
    cases entry with
    | error error => cases sees
    | ok name =>
        unfold seen scanEntry at sees
        simp only [if_true] at sees
        by_cases json : extension name = some "json"
        · rw [if_pos json] at sees
          split at sees
          case h_1 record reads =>
            exact ⟨name, record, rfl, json, reads, Option.some_inj.mp sees⟩
          case h_2 => cases sees
        · rw [if_neg json] at sees
          cases sees
  · rintro ⟨name, record, rfl, json, reads, rfl⟩
    unfold seen scanEntry
    simp only [if_true, if_pos json, reads]

/-- Entries with different names that give different ids give no id twice. -/
theorem nodup_ids_filterMap {sees : Except String String → Option SessionSnapshot}
    (distinct : (entries.filterMap Except.toOption).Nodup)
    (named : ∀ entry snapshot, sees entry = some snapshot → ∃ name, entry = .ok name)
    (apart : ∀ left ∈ entries, ∀ right ∈ entries, ∀ leftSeen rightSeen,
      sees left = some leftSeen → sees right = some rightSeen →
        leftSeen.id = rightSeen.id → left = right) :
    ((entries.filterMap sees).map SessionSnapshot.id).Nodup := by
  induction entries with
  | nil => exact List.nodup_nil
  | cons entry rest ih =>
      have restDistinct : (rest.filterMap Except.toOption).Nodup := by
        cases entry with
        | error error => exact distinct
        | ok name => exact (List.nodup_cons.mp distinct).2
      have later := ih restDistinct fun left leftMember right rightMember =>
        apart left (List.mem_cons_of_mem _ leftMember) right (List.mem_cons_of_mem _ rightMember)
      cases saw : sees entry with
      | none => rwa [List.filterMap_cons_none saw]
      | some snapshot =>
          rw [List.filterMap_cons_some saw, List.map_cons, List.nodup_cons]
          refine ⟨?_, later⟩
          intro again
          obtain ⟨other, otherMember, sameId⟩ := List.mem_map.mp again
          obtain ⟨twin, twinMember, twinSeen⟩ := List.mem_filterMap.mp otherMember
          have equal := apart twin (List.mem_cons_of_mem _ twinMember) entry List.mem_cons_self
            other snapshot twinSeen saw sameId
          obtain ⟨name, rfl⟩ := named entry snapshot saw
          subst equal
          exact (List.nodup_cons.mp distinct).1
            (List.mem_filterMap.mpr ⟨.ok name, twinMember, rfl⟩)

theorem load_of_readNext (valid : validateSessionId id = .ok ())
    (reads : workspace.nextRoot.readNext reader (sessionFile id) = .ok (some record)) :
    load reader workspace id = .ok ⟨some (record.snapshot false), []⟩ := by
  unfold load loadRecord
  rw [valid, reads]
  rfl

theorem load_of_readLegacy (valid : validateSessionId id = .ok ())
    (missing : workspace.nextRoot.readNext reader (sessionFile id) = .ok none)
    (isRoot : workspace.legacyRoot = some root)
    (reads : root.readLegacy reader (sessionFile id) = .ok (some record)) :
    load reader workspace id = .ok ⟨some (record.snapshot true), []⟩ := by
  have loads : loadRecord reader workspace id = .ok (some (record, true)) := by
    rw [loadRecord, valid, Except.bind_eq_ok]
    refine ⟨(), rfl, ?_⟩
    rw [missing, isRoot, Except.bind_eq_ok]
    refine ⟨none, rfl, ?_⟩
    exact Except.bind_eq_ok.mpr ⟨some record, reads, rfl⟩
  unfold load
  rw [loads]

/-- A session that loads without a warning is in one of the roots. -/
theorem load_cases (loads : load reader workspace id = .ok ⟨some snapshot, []⟩) :
    validateSessionId id = .ok () ∧ ∃ record : StoredSession,
      (workspace.nextRoot.readNext reader (sessionFile id) = .ok (some record) ∧
          record.snapshot false = snapshot) ∨
        (∃ root, workspace.legacyRoot = some root ∧
          root.readLegacy reader (sessionFile id) = .ok (some record) ∧
          record.snapshot true = snapshot) := by
  have found : ∃ record legacy, loadRecord reader workspace id = .ok (some (record, legacy)) ∧
      record.snapshot legacy = snapshot := by
    unfold load at loads
    split at loads
    case h_1 record legacy ran =>
      simp only [Except.ok.injEq, SessionLoadResult.mk.injEq, Option.some.injEq] at loads
      exact ⟨record, legacy, ran, loads.1⟩
    case h_2 => cases loads
    case h_3 => cases loads
    case h_4 => cases loads
  obtain ⟨record, legacy, ran, rfl⟩ := found
  obtain ⟨valid, rest⟩ := Except.check_bind_eq_ok.mp ran
  refine ⟨Except.mapError_eq_ok.mp valid, ?_⟩
  obtain ⟨next, reads, rest⟩ := Except.bind_eq_ok.mp rest
  cases next with
  | some other =>
      simp only [Except.pure_eq_ok, Option.some.injEq, Prod.mk.injEq] at rest
      obtain ⟨rfl, rfl⟩ := rest
      exact ⟨other, .inl ⟨reads, rfl⟩⟩
  | none =>
      cases isRoot : workspace.legacyRoot with
      | none =>
          rw [isRoot] at rest
          cases rest
      | some root =>
          rw [isRoot] at rest
          obtain ⟨legacyRecord, legacyReads, rest⟩ := Except.bind_eq_ok.mp rest
          cases legacyRecord with
          | none => cases rest
          | some other =>
              simp only [Except.pure_eq_ok, Option.some.injEq, Prod.mk.injEq] at rest
              obtain ⟨rfl, rfl⟩ := rest
              exact ⟨other, .inr ⟨root, rfl, legacyReads, rfl⟩⟩

variable {request : SessionListRequest}

/-- What a list is made of. -/
theorem list_eq_ok {result : SessionListResult}
    (lists : list reader workspace request = .ok result) :
    ∃ next legacy : List SessionSnapshot × List String,
      next = scanEntries reader workspace.nextRoot false maxScannedFiles
          workspace.nextRoot.listing ∧
        (∀ root, workspace.legacyRoot = some root →
          legacy = scanEntries reader root true maxScannedFiles root.listing) ∧
        (workspace.legacyRoot = none → legacy = ([], [])) ∧
        result.warnings = next.2 ++ legacy.2 ∧
        ∃ (sessions : List SessionSnapshot) (limit : Nat),
          sessions.Perm ((next.1 ++ legacy.1).filter fun session =>
              request.includeArchived || !session.archived) ∧
          result.sessions = (sessions.take limit).map SessionSnapshot.summary ∧
          result.truncated = decide (sessions.length > limit) := by
  obtain ⟨⟨nextSessions, nextWarnings⟩, scanned, rest⟩ := Except.bind_eq_ok.mp lists
  obtain ⟨legacy, legacyScanned, rest⟩ := Except.bind_eq_ok.mp rest
  rw [Except.pure_eq_ok] at rest
  subst rest
  refine ⟨(nextSessions, nextWarnings), legacy, ?_, ?_, ?_, rfl, _, _, List.mergeSort_perm _ _, rfl, rfl⟩
  · unfold scanRoot at scanned
    split at scanned
    case h_1 => cases scanned
    case h_2 => exact (Except.ok.inj scanned).symm
  · intro root isRoot
    rw [scanLegacy, isRoot] at legacyScanned
    unfold scanRoot at legacyScanned
    dsimp only at legacyScanned
    split at legacyScanned
    case h_1 => cases legacyScanned
    case h_2 => exact (Except.ok.inj legacyScanned).symm
  · intro isRoot
    rw [scanLegacy, isRoot] at legacyScanned
    exact (Except.ok.inj legacyScanned).symm

/-- What is seen in the next root is what its id loads. -/
theorem load_of_seen_next (canonical : workspace.Canonical reader)
    (present : entry ∈ workspace.nextRoot.listing)
    (sees : seen reader workspace.nextRoot false entry = some snapshot) :
    load reader workspace snapshot.id = .ok ⟨some snapshot, []⟩ := by
  obtain ⟨name, target, record, rfl, targets, reads, rfl⟩ := seen_next.mp sees
  have named : target = sessionFile record.id :=
    canonical.next name (workspace.nextRoot.present name present) target record targets reads
  subst named
  exact load_of_readNext (validateSessionId_of_readNext reads) reads

/-- What is seen in the legacy root is what its id loads. -/
theorem load_of_seen_legacy (canonical : workspace.Canonical reader)
    (isRoot : workspace.legacyRoot = some root)
    (sees : seen reader root true entry = some snapshot) :
    load reader workspace snapshot.id = .ok ⟨some snapshot, []⟩ := by
  obtain ⟨name, record, rfl, json, reads, rfl⟩ := seen_legacy.mp sees
  obtain ⟨named, missing⟩ := canonical.legacy root isRoot name record json reads
  subst named
  exact load_of_readLegacy (validateSessionId_of_readLegacy reads) missing isRoot reads

/-- The next root gives no id twice. -/
theorem nodup_seen_next (canonical : workspace.Canonical reader) :
    ((workspace.nextRoot.listing.filterMap
      (seen reader workspace.nextRoot false)).map SessionSnapshot.id).Nodup := by
  apply nodup_ids_filterMap workspace.nextRoot.distinct
  · intro entry snapshot sees
    obtain ⟨name, _, _, named, -⟩ := seen_next.mp sees
    exact ⟨name, named⟩
  · intro left leftMember right rightMember leftSeen rightSeen leftSees rightSees sameId
    obtain ⟨leftName, leftTarget, leftRecord, rfl, leftTargets, leftReads, rfl⟩ :=
      seen_next.mp leftSees
    obtain ⟨rightName, rightTarget, rightRecord, rfl, rightTargets, rightReads, rfl⟩ :=
      seen_next.mp rightSees
    have leftPresent := workspace.nextRoot.present leftName leftMember
    have rightPresent := workspace.nextRoot.present rightName rightMember
    have sameTarget : leftTarget = rightTarget := by
      rw [canonical.next leftName leftPresent leftTarget leftRecord leftTargets leftReads,
        canonical.next rightName rightPresent rightTarget rightRecord rightTargets rightReads]
      exact congrArg sessionFile sameId
    subst sameTarget
    rw [nextTarget_injective leftPresent rightPresent leftTargets rightTargets]

/-- The legacy root gives no id twice. -/
theorem nodup_seen_legacy (canonical : workspace.Canonical reader)
    (isRoot : workspace.legacyRoot = some root) :
    ((root.listing.filterMap (seen reader root true)).map SessionSnapshot.id).Nodup := by
  apply nodup_ids_filterMap root.distinct
  · intro entry snapshot sees
    obtain ⟨name, _, named, -⟩ := seen_legacy.mp sees
    exact ⟨name, named⟩
  · intro left leftMember right rightMember leftSeen rightSeen leftSees rightSees sameId
    obtain ⟨leftName, leftRecord, rfl, leftJson, leftReads, rfl⟩ := seen_legacy.mp leftSees
    obtain ⟨rightName, rightRecord, rfl, rightJson, rightReads, rfl⟩ := seen_legacy.mp rightSees
    rw [(canonical.legacy root isRoot leftName leftRecord leftJson leftReads).1,
      (canonical.legacy root isRoot rightName rightRecord rightJson rightReads).1]
    exact congrArg (Except.ok ∘ sessionFile) sameId

/-- No id is seen in both roots. -/
theorem id_ne_of_seen (canonical : workspace.Canonical reader)
    (isRoot : workspace.legacyRoot = some root) {next legacy : Except String String}
    (nextPresent : next ∈ workspace.nextRoot.listing) {nextSeen legacySeen : SessionSnapshot}
    (nextSees : seen reader workspace.nextRoot false next = some nextSeen)
    (legacySees : seen reader root true legacy = some legacySeen) :
    nextSeen.id ≠ legacySeen.id := by
  intro sameId
  obtain ⟨name, target, record, rfl, targets, reads, rfl⟩ := seen_next.mp nextSees
  obtain ⟨legacyName, legacyRecord, rfl, json, legacyReads, rfl⟩ := seen_legacy.mp legacySees
  obtain ⟨legacyNamed, missing⟩ :=
    canonical.legacy root isRoot legacyName legacyRecord json legacyReads
  have named := canonical.next name (workspace.nextRoot.present name nextPresent) target record
    targets reads
  have same : target = legacyName := by
    rw [named, legacyNamed]
    exact congrArg sessionFile sameId
  rw [same, missing] at reads
  cases reads

/-- A session of the next root that loads is seen, or the scan says that it did not see all. -/
theorem mem_next_of_load (valid : validateSessionId id = .ok ())
    (reads : workspace.nextRoot.readNext reader (sessionFile id) = .ok (some record)) :
    record.snapshot false ∈ (scanEntries reader workspace.nextRoot false maxScannedFiles
        workspace.nextRoot.listing).1 ∨
      ∃ warning ∈ (scanEntries reader workspace.nextRoot false maxScannedFiles
        workspace.nextRoot.listing).2, ScanWarning workspace.nextRoot warning := by
  have named := validateSessionId_ne_empty valid
  have stands : ∃ name ∈ workspace.nextRoot.files.keys,
      nextTarget workspace.nextRoot name = some (sessionFile id) := by
    by_cases main : sessionFile id ∈ workspace.nextRoot.files.keys
    · exact ⟨sessionFile id, main, nextTarget_sessionFile named⟩
    · rcases present_of_readNext reads with there | backup
      · exact absurd there main
      · exact ⟨_, backup, nextTarget_sessionBackupPath named main⟩
  obtain ⟨name, there, targets⟩ := stands
  rcases workspace.nextRoot.complete name there with present | ⟨error, present⟩
  · apply mem_scanEntries _ _ present
    unfold scanEntry
    simp only [Bool.false_eq_true, if_false, targets, reads]
  · exact .inr (warning_of_error _ present)

theorem mem_legacy_of_load (valid : validateSessionId id = .ok ())
    (reads : root.readLegacy reader (sessionFile id) = .ok (some record)) :
    record.snapshot true ∈ (scanEntries reader root true maxScannedFiles root.listing).1 ∨
      ∃ warning ∈ (scanEntries reader root true maxScannedFiles root.listing).2,
        ScanWarning root warning := by
  have json := extension_sessionFile (validateSessionId_ne_empty valid)
  rcases root.complete (sessionFile id) (present_of_readLegacy reads) with
    present | ⟨error, present⟩
  · apply mem_scanEntries _ _ present
    unfold scanEntry
    simp only [if_true, if_pos json, reads]
  · exact .inr (warning_of_error _ present)

/-- What a scan of a canonical workspace saw loads, and no id was seen twice. -/
theorem scanned_canonical (canonical : workspace.Canonical reader)
    {next legacy : List SessionSnapshot × List String}
    (nextScan : next = scanEntries reader workspace.nextRoot false maxScannedFiles
      workspace.nextRoot.listing)
    (legacyScan : ∀ root, workspace.legacyRoot = some root →
      legacy = scanEntries reader root true maxScannedFiles root.listing)
    (noLegacy : workspace.legacyRoot = none → legacy = ([], [])) :
    (∀ snapshot ∈ next.1 ++ legacy.1,
        load reader workspace snapshot.id = .ok ⟨some snapshot, []⟩) ∧
      ((next.1 ++ legacy.1).map SessionSnapshot.id).Nodup := by
  have nextSessions : next.1 = (workspace.nextRoot.listing.take maxScannedFiles).filterMap
      (seen reader workspace.nextRoot false) := by
    rw [nextScan, scanEntries_sessions]
  have nextLoads : ∀ snapshot ∈ next.1,
      load reader workspace snapshot.id = .ok ⟨some snapshot, []⟩ := by
    intro snapshot member
    rw [nextSessions] at member
    obtain ⟨entry, present, sees⟩ := List.mem_filterMap.mp member
    exact load_of_seen_next canonical (List.mem_of_mem_take present) sees
  have nextDistinct : (next.1.map SessionSnapshot.id).Nodup := by
    rw [nextSessions]
    exact (nodup_seen_next canonical).sublist (((List.take_sublist _ _).filterMap _).map _)
  cases isRoot : workspace.legacyRoot with
  | none =>
      rw [noLegacy isRoot, List.append_nil]
      exact ⟨nextLoads, nextDistinct⟩
  | some root =>
      have legacySessions : legacy.1 =
          (root.listing.take maxScannedFiles).filterMap (seen reader root true) := by
        rw [legacyScan root isRoot, scanEntries_sessions]
      constructor
      · intro snapshot member
        rcases List.mem_append.mp member with inNext | inLegacy
        · exact nextLoads snapshot inNext
        · rw [legacySessions] at inLegacy
          obtain ⟨entry, -, sees⟩ := List.mem_filterMap.mp inLegacy
          exact load_of_seen_legacy canonical isRoot sees
      · rw [List.map_append, List.nodup_append]
        refine ⟨nextDistinct, ?_, ?_⟩
        · rw [legacySessions]
          exact (nodup_seen_legacy canonical isRoot).sublist
            (((List.take_sublist _ _).filterMap _).map _)
        · intro nextId nextMember legacyId legacyMember
          rw [nextSessions] at nextMember
          rw [legacySessions] at legacyMember
          obtain ⟨nextSeen, nextSeenMember, rfl⟩ := List.mem_map.mp nextMember
          obtain ⟨legacySeen, legacySeenMember, rfl⟩ := List.mem_map.mp legacyMember
          obtain ⟨entry, present, sees⟩ := List.mem_filterMap.mp nextSeenMember
          obtain ⟨legacyEntry, -, legacySees⟩ := List.mem_filterMap.mp legacySeenMember
          exact id_ne_of_seen canonical isRoot (List.mem_of_mem_take present) sees legacySees

/-- What a scan saw is listed, unless it is archived and left out, or the list is cut. -/
theorem summary_mem_of_seen {seenSessions sessions : List SessionSnapshot} {limit : Nat}
    (sorted : sessions.Perm (seenSessions.filter fun session =>
      request.includeArchived || !session.archived))
    (wanted : request.includeArchived = true ∨ snapshot.archived = false)
    (member : snapshot ∈ seenSessions) :
    snapshot.summary ∈ (sessions.take limit).map SessionSnapshot.summary ∨
      limit < sessions.length := by
  have kept : snapshot ∈ sessions := by
    apply sorted.symm.subset
    apply List.mem_filter.mpr
    refine ⟨member, ?_⟩
    rcases wanted with includes | active
    · rw [includes, Bool.true_or]
    · rw [active, Bool.not_false, Bool.or_true]
  by_cases long : limit < sessions.length
  · exact .inr long
  · left
    rw [List.take_of_length_le (Nat.le_of_not_lt long)]
    exact List.mem_map_of_mem kept

/-- Lists of a workspace whose files and ids agree.  What is listed loads as it is listed, no
id is listed twice, and what loads is listed, unless it is archived and the request leaves
these out, or the result says that it is not complete. -/
theorem list_canonical (canonical : workspace.Canonical reader)
    {result : SessionListResult} (lists : list reader workspace request = .ok result) :
    (∀ summary ∈ result.sessions, ∃ snapshot,
        load reader workspace summary.id = .ok ⟨some snapshot, []⟩ ∧
          snapshot.summary = summary) ∧
      (result.sessions.map SessionSummary.id).Nodup ∧
      ∀ id snapshot, load reader workspace id = .ok ⟨some snapshot, []⟩ →
        (request.includeArchived = true ∨ snapshot.archived = false) →
          snapshot.summary ∈ result.sessions ∨ result.truncated = true ∨
            ∃ root, (root = workspace.nextRoot ∨ workspace.legacyRoot = some root) ∧
              ∃ warning ∈ result.warnings, ScanWarning root warning := by
  obtain ⟨next, legacy, nextScan, legacyScan, noLegacy, warnings, sessions, limit, sorted,
    returned, truncated⟩ := list_eq_ok lists
  obtain ⟨loads, distinct⟩ := scanned_canonical canonical nextScan legacyScan noLegacy
  refine ⟨?_, ?_, ?_⟩
  · intro summary member
    rw [returned] at member
    obtain ⟨snapshot, taken, rfl⟩ := List.mem_map.mp member
    have kept := sorted.subset (List.mem_of_mem_take taken)
    exact ⟨snapshot, loads snapshot (List.mem_of_mem_filter kept), rfl⟩
  · rw [returned, List.map_map]
    have filtered := distinct.sublist ((List.filter_sublist
      (p := fun session => request.includeArchived || !session.archived)).map
        SessionSnapshot.id)
    exact ((sorted.map SessionSnapshot.id).symm.nodup filtered).sublist
      ((List.take_sublist limit sessions).map _)
  · intro id snapshot loaded wanted
    have listed : snapshot ∈ next.1 ++ legacy.1 →
        snapshot.summary ∈ result.sessions ∨ result.truncated = true := by
      intro member
      rw [returned, truncated, decide_eq_true_iff]
      exact summary_mem_of_seen sorted wanted member
    obtain ⟨valid, record, ⟨reads, rfl⟩ | ⟨root, isRoot, reads, rfl⟩⟩ := load_cases loaded
    · rcases mem_next_of_load valid reads with member | ⟨warning, member, reports⟩
      · rw [← nextScan] at member
        exact (listed (List.mem_append_left _ member)).imp_right .inl
      · rw [← nextScan] at member
        refine .inr (.inr ⟨workspace.nextRoot, .inl rfl, warning, ?_, reports⟩)
        rw [warnings]
        exact List.mem_append_left _ member
    · rcases mem_legacy_of_load valid reads with member | ⟨warning, member, reports⟩
      · rw [← legacyScan root isRoot] at member
        exact (listed (List.mem_append_right _ member)).imp_right .inl
      · rw [← legacyScan root isRoot] at member
        refine .inr (.inr ⟨root, .inr isRoot, warning, ?_, reports⟩)
        rw [warnings]
        exact List.mem_append_right _ member

end Canonical

/-- A session without messages. -/
def emptySession (id : String) (archived : Bool) : StoredSession where
  schemaVersion := sessionSchemaVersion
  id
  cwd := "/work"
  messages := []
  provider := none
  model := none
  parentId := none
  title := "untitled session"
  archived
  pinned := false
  createdAtMillis := 1
  updatedAtMillis := 1

/-- A library that reads one record in every content. -/
def SessionReader.constant (session : StoredSession) : SessionReader where
  record _ := .ok session
  value _ := .ok (.object [("id", .string session.id), ("cwd", .string session.cwd),
    ("prompt", .string "")])

/-- A root with one file. -/
def Root.single (path name : String) : Root where
  path
  files := ⟨[(name, .regular ByteArray.empty)], List.pairwise_singleton _ _⟩
  denied := none
  listing := [.ok name]
  distinct := List.nodup_singleton name
  present := by
    intro other member
    rw [List.mem_singleton, Except.ok.injEq] at member
    exact List.mem_singleton.mpr member
  complete := by
    intro other member
    rw [List.mem_singleton.mp member]
    exact .inl (List.mem_singleton_self _)

theorem readNext_single (session : StoredSession) (valid : session.validate = .ok ())
    (path name : String) :
    (Root.single path name).readNext (.constant session) name = .ok (some session) := by
  have found : (Root.single path name).files.lookup? name = some (.regular ByteArray.empty) := by
    simp [Root.single, SortedMap.lookup?]
  unfold Root.readNext readNextRecord
  rw [found]
  simp only [readBounded, parseRecord]
  have small : refuseIf (ByteArray.empty.size > maxSessionFileBytes)
      (StorageError.fileTooLarge ((Root.single path name).join name) maxSessionFileBytes) =
        .ok () :=
    refuseIf_eq_ok.mpr (by decide)
  rw [small]
  show (Except.mapError _ session.validate >>= _) >>= _ = _
  rw [valid]
  rfl

theorem validate_emptySession (id : String) (archived : Bool)
    (valid : validateSessionId id = .ok ()) : (emptySession id archived).validate = .ok () := by
  unfold StoredSession.validate
  apply Except.check_bind_eq_ok.mpr
  refine ⟨by rfl, Except.check_bind_eq_ok.mpr ⟨valid, by rfl⟩⟩

theorem scanRoot_single (session : StoredSession) (valid : session.validate = .ok ())
    (path name : String) (json : extension name = some "json") :
    scanRoot (.constant session) (Root.single path name) false =
      .ok ([session.snapshot false], []) := by
  have scanned : scanEntry (.constant session) (Root.single path name) false name =
      .ok (some session) := by
    unfold scanEntry nextTarget
    simp only [Bool.false_eq_true, if_false, if_pos json]
    exact readNext_single session valid path name
  show Except.ok (scanEntries _ _ false (1999 + 1) [.ok name]) = _
  simp only [scanEntries]
  rw [scanned]

/-- The list of a workspace with one file. -/
theorem list_single (session : StoredSession) (valid : session.validate = .ok ())
    (path name : String) (json : extension name = some "json") (request : SessionListRequest) :
    list (.constant session) ⟨.single path name, none⟩ request = .ok
      { sessions := (([session.snapshot false].filter fun snapshot =>
            request.includeArchived || !snapshot.archived).take
          (max 1 (min request.limit maxListLimit))).map SessionSnapshot.summary
        warnings := []
        truncated := false } := by
  unfold list scanLegacy
  rw [scanRoot_single session valid path name json]
  have short : ([session.snapshot false].filter fun snapshot =>
      request.includeArchived || !snapshot.archived).length ≤ 1 := by
    exact List.length_filter_le _ _
  have bound : 1 ≤ max 1 (min request.limit maxListLimit) := Nat.le_max_left _ _
  have sorted : ([session.snapshot false].filter fun snapshot =>
      request.includeArchived || !snapshot.archived).mergeSort listedBefore =
      [session.snapshot false].filter fun snapshot =>
        request.includeArchived || !snapshot.archived := by
    rw [List.filter_cons]
    split <;> simp
  show Except.ok _ = _
  rw [List.append_nil, sorted]
  congr 2
  exact decide_eq_false (by omega)

/-- A workspace with one session, which is listed as it loads. -/
theorem list_canonical_single : (∃ snapshot, load (.constant (emptySession "notes" false))
          ⟨.single "/work/sessions" "notes.json", none⟩ "notes" = .ok ⟨some snapshot, []⟩ ∧
        snapshot.summary = ((emptySession "notes" false).snapshot false).summary) ∧
      (([(emptySession "notes" false).snapshot false].map SessionSnapshot.summary).map
        SessionSummary.id).Nodup := by
  have valid : (emptySession "notes" false).validate = .ok () :=
    validate_emptySession "notes" false (by decide +kernel)
  have canonical : Workspace.Canonical (.constant (emptySession "notes" false))
      ⟨.single "/work/sessions" "notes.json", none⟩ := by
    constructor
    · intro name member target record targets reads
      rw [List.mem_singleton.mp member] at targets
      have same : target = "notes.json" := by
        have json : extension "notes.json" = some "json" := by decide +kernel
        rw [nextTarget, if_pos json] at targets
        exact (Option.some_inj.mp targets).symm
      subst same
      rw [readNext_single _ valid] at reads
      rw [← Option.some_inj.mp (Except.ok.inj reads)]
      rfl
    · intro root isRoot
      cases isRoot
  obtain ⟨loads, distinct, -⟩ := list_canonical canonical
    (list_single (emptySession "notes" false) valid "/work/sessions" "notes.json"
      (by decide +kernel) ⟨false, 10⟩)
  exact ⟨loads _ (List.mem_singleton_self _), distinct⟩

/-- One session from either root, with one id, is listed twice. -/
theorem list_twice {reader : SessionReader} {workspace : Workspace}
    {next : SessionSnapshot} (legacy : SessionSnapshot) (sameId : next.id = legacy.id)
    (nextScan : scanRoot reader workspace.nextRoot false = .ok ([next], []))
    (legacyScan : scanLegacy reader workspace = .ok ([legacy], [])) :
    ∃ result, list reader workspace ⟨true, 10⟩ = .ok result ∧
      ¬ (result.sessions.map SessionSummary.id).Nodup := by
  unfold list
  rw [nextScan, legacyScan]
  refine ⟨_, rfl, ?_⟩
  have sorted := List.mergeSort_perm [next, legacy] listedBefore
  have short : ([next, legacy].mergeSort listedBefore).length ≤ 10 := by
    rw [sorted.length_eq]
    exact Nat.le_of_ble_eq_true rfl
  show ¬ ((((([next, legacy]).mergeSort listedBefore).take 10).map
    SessionSnapshot.summary).map SessionSummary.id).Nodup
  rw [List.take_of_length_le short, List.map_map]
  intro distinct
  have twice := (sorted.map SessionSnapshot.id).nodup distinct
  rw [List.map_cons, sameId] at twice
  exact (List.nodup_cons.mp twice).1 (List.mem_singleton_self _)

/-- An archived session loads and is not listed.  A record in the file of another session is
listed under its own id, which loads nothing.  A session in both roots is listed twice. -/
theorem list_not_load : (∃ snapshot, load (.constant (emptySession "notes" true))
          ⟨.single "/work/sessions" "notes.json", none⟩ "notes" = .ok ⟨some snapshot, []⟩ ∧
        list (.constant (emptySession "notes" true))
          ⟨.single "/work/sessions" "notes.json", none⟩ ⟨false, 10⟩ = .ok ⟨[], [], false⟩) ∧
      (∃ summary, list (.constant (emptySession "notes" false))
          ⟨.single "/work/sessions" "copy.json", none⟩ ⟨false, 10⟩ =
            .ok ⟨[summary], [], false⟩ ∧
        load (.constant (emptySession "notes" false))
          ⟨.single "/work/sessions" "copy.json", none⟩ summary.id = .ok ⟨none, []⟩) ∧
      ∃ result, list (.constant (emptySession "notes" false))
          ⟨.single "/work/sessions" "notes.json", some (.single "/work/legacy" "notes.json")⟩
            ⟨true, 10⟩ = .ok result ∧
        ¬ (result.sessions.map SessionSummary.id).Nodup := by
  have archived : (emptySession "notes" true).validate = .ok () :=
    validate_emptySession "notes" true (by decide +kernel)
  have valid : (emptySession "notes" false).validate = .ok () :=
    validate_emptySession "notes" false (by decide +kernel)
  refine ⟨⟨_, load_of_readNext (by decide +kernel) (readNext_single _ archived _ _), ?_⟩, ?_, ?_⟩
  · exact list_single (emptySession "notes" true) archived "/work/sessions" "notes.json"
      (by decide +kernel) ⟨false, 10⟩
  · refine ⟨_, list_single (emptySession "notes" false) valid "/work/sessions" "copy.json"
      (by decide +kernel) ⟨false, 10⟩, ?_⟩
    have absent : (Root.single "/work/sessions" "copy.json").readNext
        (.constant (emptySession "notes" false)) (sessionFile "notes") = .ok none := by
      unfold Root.readNext
      have main : (Root.single "/work/sessions" "copy.json").files.lookup?
          (sessionFile "notes") = none := by decide +kernel
      have backup : (Root.single "/work/sessions" "copy.json").files.lookup?
          (sessionBackupPath (sessionFile "notes")) = none := by decide +kernel
      rw [main, backup]
      rfl
    have valid : validateSessionId "notes" = .ok () := by decide +kernel
    show load _ _ "notes" = _
    unfold load loadRecord
    rw [valid, absent]
    rfl
  · have found : (((Root.single "/work/legacy" "notes.json").readLegacy
        (.constant (emptySession "notes" false)) "notes.json").toOption.bind id).map
          StoredSession.id = some "notes" := by decide +kernel
    obtain ⟨record, reads, sameId⟩ := Option.map_eq_some_iff.mp found
    obtain ⟨_, reads, rfl⟩ := Option.bind_eq_some_iff.mp reads
    refine list_twice (record.snapshot true) sameId.symm (scanRoot_single _ valid _ _ (by decide +kernel)) ?_
    have scanned : scanEntry (.constant (emptySession "notes" false))
        (Root.single "/work/legacy" "notes.json") true "notes.json" = .ok (some record) := by
      have json : extension "notes.json" = some "json" := by decide +kernel
      unfold scanEntry
      simp only [if_true, if_pos json]
      exact Except.toOption_eq_some.mp reads
    show Except.ok (scanEntries _ _ true (1999 + 1) [.ok "notes.json"]) = _
    simp only [scanEntries]
    rw [scanned]

end Storage
end YunXi
