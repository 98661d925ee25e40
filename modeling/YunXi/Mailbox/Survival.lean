import YunXi.Mailbox.Store

/-!
# Items and interrupted saves

A scan reads the files of items and not their backups, so an item is lost to it while the
process has stopped between the two renames of a replacement.
-/

namespace YunXi
namespace Mailbox

open Fallible
open ReplaceFile (Call Fate Faults Slots StopsAway wp_replaceFile_target)
open Storage (extension extension_dot fileStem_dot withExtension)

theorem itemFile_eq (id : String) : itemFile id = id ++ "." ++ "json" := by
  rw [itemFile, String.append_assoc]
  rfl

variable {id : String}

theorem extension_itemFile (named : id ≠ "") :
    extension (itemFile id) = some "json" := by
  rw [itemFile_eq]
  exact extension_dot "json" named (by decide)

theorem itemFile_injective {left right : String} (same : itemFile left = itemFile right) :
    left = right :=
  (String.append_left_inj ".json").mp same

theorem itemFile_ne_empty (id : String) : itemFile id ≠ "" := by
  intro empty
  have characters := congrArg String.toList empty
  rw [itemFile, String.toList_append] at characters
  exact List.cons_ne_nil _ _ (List.append_eq_nil_iff.mp characters).2

theorem backupFile_eq (named : id ≠ "") :
    backupFile id = itemFile id ++ "." ++ "bak" := by
  rw [backupFile, withExtension, if_neg (by decide), itemFile_eq,
    fileStem_dot "json" named (by decide)]
  simp only [String.append_assoc]
  rfl

theorem extension_backupFile (named : id ≠ "") :
    extension (backupFile id) = some "bak" := by
  rw [backupFile_eq named]
  exact extension_dot "bak" (itemFile_ne_empty id) (by decide)

theorem extension_temporaryFile (unique : String) :
    extension (temporaryFile unique) = some "tmp" := by
  have split : temporaryFile unique = (".mailbox-" ++ unique) ++ "." ++ "tmp" := by
    simp only [temporaryFile, String.append_assoc]
    rfl
  rw [split]
  apply extension_dot "tmp" _ (by decide)
  intro empty
  have characters := congrArg String.toList empty
  rw [String.toList_append] at characters
  exact List.cons_ne_nil _ _ (List.append_eq_nil_iff.mp characters).1

variable {left : Slots MailFile} {unique : String}

/-- A replacement changes no other file of an item. -/
theorem place_of_ne {name : String} {directory : Directory}
    (named : id ≠ "") (json : extension name = some "json") (other : name ≠ itemFile id) :
    place id unique directory left name = directory name := by
  have notBackup : name ≠ backupFile id := by
    rintro rfl
    rw [extension_backupFile named] at json
    exact absurd (Option.some_inj.mp json) (by decide)
  have notTemporary : name ≠ temporaryFile unique := by
    rintro rfl
    rw [extension_temporaryFile] at json
    exact absurd (Option.some_inj.mp json) (by decide)
  unfold place
  rw [Function.update_of_ne other, Function.update_of_ne notBackup,
    Function.update_of_ne notTemporary]

theorem place_itemFile (id unique : String) (directory : Directory) (left : Slots MailFile) :
    place id unique directory left (itemFile id) = left.target :=
  Function.update_self _ _ _

variable {item : EncryptedItem}

section Scans

variable {library : MailboxLibrary} {store : MailboxStore} {directory : Directory}

/-- The item that an entry gives. -/
def seen (library : MailboxLibrary) (store : MailboxStore) (directory : Directory) :
    Except String String → Option EncryptedItem
  | .error _ => none
  | .ok name =>
      if extension name ≠ some "json" then none
      else
        match readItem library (store.join name) (directory name) with
        | .ok (some item) => some item
        | _ => none

theorem scanItems_items (room : Nat) (entries : List (Except String String)) :
    (scanItems library store directory room entries).1 =
      (entries.take room).filterMap (seen library store directory) := by
  induction entries generalizing room with
  | nil => cases room <;> rfl
  | cons entry rest ih =>
      cases room with
      | zero => rfl
      | succ room =>
          rw [scanItems, List.take_succ_cons, List.filterMap_cons, ← ih]
          cases entry with
          | error error => rfl
          | ok name =>
              simp only [seen]
              split
              case isTrue other => rfl
              case isFalse json =>
                cases readItem library (store.join name) (directory name) with
                | error error => rfl
                | ok found => cases found <;> rfl

theorem seen_eq_some {entry : Except String String} :
    seen library store directory entry = some item ↔
      ∃ name, entry = .ok name ∧ extension name = some "json" ∧
        readItem library (store.join name) (directory name) = .ok (some item) := by
  constructor
  · intro sees
    cases entry with
    | error error => cases sees
    | ok name =>
        unfold seen at sees
        dsimp only at sees
        split at sees
        case isTrue other => cases sees
        case isFalse json =>
          split at sees
          case h_1 found reads =>
            exact ⟨name, rfl, not_not.mp json, Option.some_inj.mp sees ▸ reads⟩
          case h_2 => cases sees
  · rintro ⟨name, rfl, json, reads⟩
    unfold seen
    dsimp only
    rw [if_neg (not_not.mpr json), reads]

/-- A scan finds the items of the files that it reaches. -/
theorem mem_scanItems (room : Nat)
    (entries : List (Except String String)) :
    item ∈ (scanItems library store directory room entries).1 ↔
      ∃ name, .ok name ∈ entries.take room ∧ extension name = some "json" ∧
        readItem library (store.join name) (directory name) = .ok (some item) := by
  rw [scanItems_items, List.mem_filterMap]
  constructor
  · rintro ⟨entry, member, sees⟩
    obtain ⟨name, rfl, json, reads⟩ := seen_eq_some.mp sees
    exact ⟨name, member, json, reads⟩
  · rintro ⟨name, member, json, reads⟩
    exact ⟨.ok name, member, seen_eq_some.mpr ⟨name, rfl, json, reads⟩⟩

/-- Items that can be read lie in the files of their ids. -/
def Placed (library : MailboxLibrary) (store : MailboxStore) (directory : Directory) : Prop :=
  ∀ name item, extension name = some "json" →
    readItem library (store.join name) (directory name) = .ok (some item) →
      name = itemFile item.id

/-- An item that is read passes its checks. -/
theorem validate_of_readItem {path : String} {file : Option MailFile}
    (reads : readItem library path file = .ok (some item)) : item.validate = .ok () := by
  cases file with
  | none => cases reads
  | some file =>
      cases file with
      | unreadable source => cases reads
      | regular content =>
          obtain ⟨-, rest⟩ := Except.check_bind_eq_ok.mp reads
          obtain ⟨parsed, -, rest⟩ := Except.bind_eq_ok.mp rest
          obtain ⟨valid, returned⟩ := Except.check_bind_eq_ok.mp rest
          rw [Except.pure_eq_ok, Option.some_inj] at returned
          exact returned ▸ valid

theorem id_ne_empty (valid : item.validate = .ok ()) : item.id ≠ "" := by
  obtain ⟨-, rest⟩ := Except.check_bind_eq_ok.mp valid
  obtain ⟨validId, -⟩ := Except.check_bind_eq_ok.mp rest
  exact fun empty => refuseIf_eq_ok.mp validId (.inl empty)

theorem target_ne_none {path : String} {file : Option MailFile}
    (reads : readItem library path file = .ok (some item)) : file ≠ none := by
  rintro rfl
  cases reads

/-- What was printed for an item is read as that item. -/
theorem readItem_print (path : String) (valid : item.validate = .ok ())
    (fits : (library.print item).size ≤ maxItemFileBytes)
    (reads : library.parse (library.print item) = .ok item) :
    readItem library path (some (.regular (library.print item))) = .ok (some item) :=
  Except.check_bind_eq_ok.mpr ⟨refuseIf_eq_ok.mpr (Nat.not_lt.mpr fits),
    Except.bind_eq_ok.mpr ⟨item, Except.mapError_eq_ok.mpr reads,
      Except.check_bind_eq_ok.mpr ⟨valid, rfl⟩⟩⟩

end Scans

section Saves

variable {library : MailboxLibrary} {store : MailboxStore} {surroundings : Surroundings}
  {directory : Directory}

/-- The files that a replacement of the file of an item is about. -/
def itemSlots (directory : Directory) (id : String) : Slots MailFile :=
  ⟨directory (itemFile id), directory (backupFile id), none⟩

/-- A save gets as far as the replacement of the file. -/
def Replaces (library : MailboxLibrary) (surroundings : Surroundings) (item : EncryptedItem) :
    Prop :=
  item.validate = .ok () ∧ surroundings.createRootAgain = none ∧
    (library.print item).size ≤ maxItemFileBytes

variable (library store surroundings directory) in
/-- A save changes nothing, or leaves what the replacement leaves. -/
theorem exec_saveItem (item : EncryptedItem) :
    (¬ Replaces library surroundings item ∧ ∃ halt,
        (saveItem library store surroundings item).exec directory = (.error halt, directory)) ∨
      (Replaces library surroundings item ∧
        ((saveItem library store surroundings item).exec directory).2 =
          place item.id surroundings.unique directory
            ((ReplaceFile.replaceFile surroundings.faults (.regular (library.print item))).exec
              (itemSlots directory item.id)).2) := by
  unfold saveItem orFail createRoot
  cases valid : item.validate with
  | error error =>
      refine .inl ⟨fun replaces => ?_, _, rfl⟩
      exact nomatch valid.symm.trans replaces.1
  | ok =>
      cases creates : surroundings.createRootAgain with
      | some source =>
          refine .inl ⟨fun replaces => ?_, _, rfl⟩
          exact nomatch creates.symm.trans replaces.2.1
      | none =>
          by_cases fits : (library.print item).size ≤ maxItemFileBytes
          · refine .inr ⟨⟨valid, creates, fits⟩, ?_⟩
            simp only [throwIf, if_neg (Nat.not_lt.mpr fits)]
            rfl
          · refine .inl ⟨fun replaces => fits replaces.2.2,
              .failed (.itemTooLarge maxItemFileBytes), ?_⟩
            simp only [throwIf, if_pos (Nat.not_le.mp fits)]
            rfl

theorem exec_requireWrite (granted : store.writable = true) :
    (requireWrite store).exec directory = (.ok (), directory) := by
  unfold requireWrite throwIf
  rw [if_neg (by simp [granted])]
  rfl

theorem exec_orFail {α : Type} {result : Except MailboxError α} {value : α}
    (returns : result = .ok value) : (orFail result).exec directory = (.ok value, directory) := by
  rw [returns]
  rfl

/-- An operation that ends after a save leaves what the save leaves. -/
theorem exec_bind_return {α β : Type} (program : MailboxProgram α) (value : β) :
    ((program >>= fun _ => pure value : MailboxProgram β).exec directory).2 =
      (program.exec directory).2 := by
  rw [exec_bind]
  cases program.exec directory with
  | mk result final => cases result <;> rfl

variable {items : List EncryptedItem} {warnings : List String}

variable {old : EncryptedItem}

/-- `mark_read` saves a new version of the item that its scan finds. -/
theorem exec_markRead (granted : store.writable = true) (valid : old.validate = .ok ())
    (loads : loadItems library store surroundings.listing directory = .ok (items, warnings))
    (finds : items.find? (·.id = old.id) = some old) (read : Bool) :
    ((markRead library store surroundings old.id read).exec directory).2 =
      ((saveItem library store surroundings
        { old with read, updatedAtMillis := surroundings.now }).exec directory).2 := by
  have validId : validateId old.id = .ok () :=
    (Except.check_bind_eq_ok.mp (Except.check_bind_eq_ok.mp valid).2).1
  unfold markRead
  rw [exec_bind_of_ok (exec_requireWrite granted),
    exec_bind_of_ok (exec_orFail validId), exec_get_bind,
    exec_bind_of_ok (exec_orFail loads)]
  dsimp only
  rw [finds]
  exact exec_bind_return _ _

/-- The items that a scan of a directory returns. -/
def Returned (library : MailboxLibrary) (store : MailboxStore) (listing : Listing)
    (directory : Directory) (item : EncryptedItem) : Prop :=
  ∃ items warnings, loadItems library store listing directory = .ok (items, warnings) ∧
    item ∈ items

variable {listing : Listing}

theorem returned_iff : Returned library store listing directory item ↔ listing.denied = none ∧
      ∃ name, .ok name ∈ listing.entries.take maxScannedItems ∧ extension name = some "json" ∧
        readItem library (store.join name) (directory name) = .ok (some item) := by
  unfold Returned loadItems
  cases denied : listing.denied with
  | some source =>
      constructor
      · rintro ⟨items, warnings, loads, -⟩
        cases loads
      · rintro ⟨impossible, -⟩
        cases impossible
  | none =>
      constructor
      · rintro ⟨items, warnings, loads, member⟩
        have same := Except.ok.inj loads
        rw [← mem_scanItems, same]
        exact ⟨rfl, member⟩
      · rintro ⟨-, finds⟩
        exact ⟨_, _, rfl, (mem_scanItems _ _).mpr finds⟩

/-- With the items in the files of their ids, a scan returns an item exactly when it reaches
its file and reads it. -/
theorem returned_iff_file (placed : ∀ name, extension name = some "json" →
      readItem library (store.join name) (directory name) = .ok (some item) →
        name = itemFile item.id) (named : item.id ≠ "") :
    Returned library store listing directory item ↔ listing.denied = none ∧
      .ok (itemFile item.id) ∈ listing.entries.take maxScannedItems ∧
        readItem library (store.join (itemFile item.id)) (directory (itemFile item.id)) =
          .ok (some item) := by
  rw [returned_iff]
  constructor
  · rintro ⟨open_, name, reached, json, reads⟩
    obtain rfl := placed name json reads
    exact ⟨open_, reached, reads⟩
  · rintro ⟨open_, reached, reads⟩
    exact ⟨open_, itemFile item.id, reached, extension_itemFile named, reads⟩

/-- After a save over the file of an item no other file has that item. -/
theorem placed_of_saved (placed : Placed library store directory) (named : id ≠ "")
    (sameId : item.id = id) (name : String) (json : extension name = some "json")
    (reads : readItem library (store.join name) (place id unique directory left name) =
      .ok (some item)) : name = itemFile item.id := by
  by_contra other
  rw [sameId] at other
  rw [place_of_ne named json other] at reads
  exact other ((placed name item json reads).trans (congrArg itemFile sameId))

/-- After a save over its file an item is returned when what is left there is read as it. -/
theorem returned_place (placed : Placed library store directory) (named : id ≠ "")
    (sameId : item.id = id) :
    Returned library store listing (place id unique directory left) item ↔
      listing.denied = none ∧ .ok (itemFile id) ∈ listing.entries.take maxScannedItems ∧
        readItem library (store.join (itemFile id)) left.target = .ok (some item) := by
  rw [returned_iff_file (placed_of_saved placed named sameId) (sameId ▸ named), sameId,
    place_itemFile]

/-- `mark_read` changes nothing, or leaves under the name of the item nothing when it is
stopped between the two renames, and the old file or the new one otherwise. -/
theorem markRead_leaves {file : MailFile} (granted : store.writable = true)
    (valid : old.validate = .ok ()) (present : directory (itemFile old.id) = some file)
    (loads : loadItems library store surroundings.listing directory = .ok (items, warnings))
    (finds : items.find? (·.id = old.id) = some old)
    (single : surroundings.faults.Single) (read : Bool) :
    let new := { old with read, updatedAtMillis := surroundings.now }
    let after := ((markRead library store surroundings old.id read).exec directory).2
    (¬ Replaces library surroundings new ∧ after = directory) ∨
      (Replaces library surroundings new ∧ ∃ left,
        after = place old.id surroundings.unique directory left ∧
          ((StopsAway surroundings.faults (itemSlots directory old.id) ∧ left.target = none) ∨
            (¬ StopsAway surroundings.faults (itemSlots directory old.id) ∧
              (left.target = some file ∨
                left.target = some (.regular (library.print new)))))) := by
  intro new after
  have saved : after = ((saveItem library store surroundings new).exec directory).2 :=
    exec_markRead granted valid loads finds read
  rcases exec_saveItem library store surroundings directory new with
    ⟨refused, halt, runs⟩ | ⟨replaces, leaves⟩
  · rw [runs] at saved
    exact .inl ⟨refused, saved⟩
  · exact .inr ⟨replaces, _, saved.trans leaves,
      wp_replaceFile_target single (itemSlots directory old.id) present _⟩

/-- An item and the version of it that `mark_read` saves survive, one or the other, exactly
when the next scan reaches the file of the item and the process did not stop between the two
renames of the replacement. -/
theorem markRead_survives_iff (granted : store.writable = true)
    (placed : Placed library store directory)
    (loads : loadItems library store surroundings.listing directory = .ok (items, warnings))
    (finds : items.find? (·.id = old.id) = some old)
    (single : surroundings.faults.Single) (read : Bool)
    (reads : library.parse (library.print
        { old with read, updatedAtMillis := surroundings.now }) =
      .ok { old with read, updatedAtMillis := surroundings.now }) (next : Listing) :
    let after := ((markRead library store surroundings old.id read).exec directory).2
    (Returned library store next after old ∨
        Returned library store next after
          { old with read, updatedAtMillis := surroundings.now }) ↔
      next.denied = none ∧ .ok (itemFile old.id) ∈ next.entries.take maxScannedItems ∧
        ¬ (Replaces library surroundings
            { old with read, updatedAtMillis := surroundings.now } ∧
          StopsAway surroundings.faults (itemSlots directory old.id)) := by
  have scanned : Returned library store surroundings.listing directory old :=
    ⟨items, warnings, loads, List.mem_of_find?_eq_some finds⟩
  obtain ⟨-, name, -, json, own⟩ := returned_iff.mp scanned
  obtain rfl := placed name old json own
  have valid := validate_of_readItem own
  have named := id_ne_empty valid
  obtain ⟨file, present⟩ := Option.ne_none_iff_exists'.mp (target_ne_none own)
  intro after
  have outcome := markRead_leaves granted valid present loads finds single read
  change (¬ _ ∧ after = directory) ∨ (_ ∧ ∃ left, after = _ ∧ _) at outcome
  clear_value after
  -- the new version differs from the old one in what an id or a check does not look at
  generalize version : ({ old with read, updatedAtMillis := surroundings.now } : EncryptedItem) =
    new at *
  have sameId : new.id = old.id := by
    rw [← version]
  have validNew : new.validate = .ok () := by
    rw [← version]
    exact valid
  rcases outcome with ⟨refused, unchanged⟩ | ⟨replaces, left, leaves, target⟩
  · subst unchanged
    rw [returned_iff_file (fun name json reads => placed name old json reads)
        named,
      returned_iff_file (fun name json reads => placed name new json reads)
        (sameId ▸ named), sameId]
    constructor
    · rintro (⟨allowed, reached, -⟩ | ⟨allowed, reached, -⟩)
      · exact ⟨allowed, reached, fun stops => refused stops.1⟩
      · exact ⟨allowed, reached, fun stops => refused stops.1⟩
    · rintro ⟨allowed, reached, -⟩
      exact .inl ⟨allowed, reached, own⟩
  · subst leaves
    rw [returned_place placed named rfl, returned_place placed named sameId]
    constructor
    · -- what a scan reads lies under the name of the item
      have survives : left.target ≠ none → ¬ (Replaces library surroundings new ∧
          StopsAway surroundings.faults (itemSlots directory old.id)) := by
        rintro there ⟨-, stops⟩
        rcases target with ⟨-, gone⟩ | ⟨goesOn, -⟩
        · exact there gone
        · exact goesOn stops
      rintro (⟨allowed, reached, found⟩ | ⟨allowed, reached, found⟩)
      · exact ⟨allowed, reached, survives (target_ne_none found)⟩
      · exact ⟨allowed, reached, survives (target_ne_none found)⟩
    · rintro ⟨allowed, reached, goesOn⟩
      rcases target with ⟨stops, -⟩ | ⟨-, isOld | isNew⟩
      · exact absurd ⟨replaces, stops⟩ goesOn
      · rw [isOld]
        rw [present] at own
        exact .inl ⟨allowed, reached, own⟩
      · rw [isNew]
        exact .inr ⟨allowed, reached, readItem_print _ validNew replaces.2.2 reads⟩

end Saves

section OneItem

/-- The name of a kind in a file. -/
def MailboxItemKind.name : MailboxItemKind → String
  | proactiveMessage => "proactive_message"
  | loveLetter => "love_letter"
  | reminder => "reminder"

/-- The text of the file of an item. -/
def itemText (item : EncryptedItem) : List Char :=
  (Protocol.Value.object [("schema_version", .ofNat item.schemaVersion),
    ("id", .string item.id), ("kind", .string item.kind.name), ("subject", .string item.subject),
    ("reason", .string item.reason), ("idempotency_key", .string item.idempotencyKey),
    ("read", .bool item.read), ("created_at_millis", .ofNat item.createdAtMillis),
    ("updated_at_millis", .ofNat item.updatedAtMillis), ("algorithm", .string item.algorithm),
    ("nonce", .string item.nonce), ("ciphertext", .string item.ciphertext)]).writePretty

def itemContent (item : EncryptedItem) : ByteArray :=
  (String.ofList (itemText item)).toUTF8

theorem size_itemContent (item : EncryptedItem) :
    (itemContent item).size = String.utf8Len (itemText item) :=
  (String.size_toByteArray).trans (String.utf8ByteSize_ofList _)

theorem itemContent_ne_empty (item : EncryptedItem) : ByteArray.empty ≠ itemContent item := by
  intro same
  have size := congrArg ByteArray.size same
  rw [size_itemContent] at size
  cases size

theorem itemText_eq_of_itemContent_eq {left right : EncryptedItem}
    (same : itemContent left = itemContent right) : itemText left = itemText right :=
  String.ofList_inj.mp (String.toByteArray_inj.mp same)

def followUp : EncryptedItem :=
  ⟨1, "mail-0b62516602ec4e06", .proactiveMessage, "Follow-up", "unfinished task", "task-1",
    false, 1000, 1000, "chacha20poly1305", "AAAAAAAAAAAAAAAA", "c2VhbGVk"⟩

def followUpRead : EncryptedItem :=
  { followUp with read := true, updatedAtMillis := 2000 }

theorem validate_followUp : followUp.validate = .ok () := by
  decide

theorem short_followUp : String.utf8Len (itemText followUp) ≤ maxItemFileBytes := by
  decide +kernel

local instance mailDecidableEq : DecidableEq ByteArray := ByteArray.instDecidableEq

/-- A library that reads two versions of an item. -/
def twoVersions : MailboxLibrary where
  parse content :=
    if content = itemContent followUp then .ok followUp
    else if content = itemContent followUpRead then .ok followUpRead
    else .error "expected value at line 1 column 1"
  print := itemContent

def mailbox : MailboxStore :=
  ⟨"/work/.yunxi-next/mailbox", true⟩

def followUpAlone : Directory := fun name =>
  if name = "mail-0b62516602ec4e06.json" then some (.regular (itemContent followUp)) else none

/-- An operation on the mailbox in which one call has another fate. -/
def marking (call : Call) (fate : Fate) : Surroundings where
  listing := ⟨none, [.ok "mail-0b62516602ec4e06.json"]⟩
  createRoot := none
  createRootAgain := none
  now := 2000
  environmentKey := none
  randomKey := .ok (List.replicate 32 7)
  createKey := none
  encrypt _ _ _ := .ok ("AAAAAAAAAAAAAAAA", "c2VhbGVk")
  unique := "4021-2000000000"
  faults := ⟨fun other => if other = call then fate else .works, .regular ByteArray.empty⟩
  source _ := "No space left on device (os error 28)"

theorem print_twoVersions (item : EncryptedItem) :
    twoVersions.print item = itemContent item := by
  dsimp only [twoVersions]

theorem parse_followUp : twoVersions.parse (itemContent followUp) = .ok followUp := by
  dsimp only [twoVersions]
  exact if_pos rfl

theorem parse_followUpRead :
    twoVersions.parse (twoVersions.print followUpRead) = .ok followUpRead := by
  have differ : itemText followUpRead ≠ itemText followUp := by decide +kernel
  have other : itemContent followUpRead ≠ itemContent followUp :=
    fun same => differ (itemText_eq_of_itemContent_eq same)
  dsimp only [twoVersions]
  rw [if_neg other, if_pos rfl]

theorem readItem_followUp (path : String) :
    readItem twoVersions path (some (.regular (itemContent followUp))) = .ok (some followUp) := by
  have fits : (twoVersions.print followUp).size ≤ maxItemFileBytes := by
    rw [print_twoVersions, size_itemContent]
    exact short_followUp
  rw [← print_twoVersions]
  apply readItem_print path validate_followUp fits
  rw [print_twoVersions]
  exact parse_followUp

theorem loadItems_followUpAlone (call : Call) (fate : Fate) :
    loadItems twoVersions mailbox (marking call fate).listing followUpAlone =
      .ok ([followUp], []) := by
  have json : extension "mail-0b62516602ec4e06.json" = some "json" :=
    extension_itemFile (show followUp.id ≠ "" by decide)
  unfold loadItems
  dsimp only [marking]
  rw [maxScannedItems, scanItems, scanItems]
  dsimp only
  rw [if_neg (not_not.mpr json), followUpAlone, if_pos rfl, readItem_followUp]

theorem placed_followUpAlone : Placed twoVersions mailbox followUpAlone := by
  intro name item _ reads
  unfold followUpAlone at reads
  split at reads
  case isTrue own =>
    subst own
    have same := (readItem_followUp _).symm.trans reads
    rw [← Option.some_inj.mp (Except.ok.inj same)]
    rfl
  case isFalse other => cases reads

theorem single_marking (call : Call) (fate : Fate) : (marking call fate).faults.Single := by
  have failing : ∀ other, (marking call fate).faults.fate other = .fails → other = call := by
    intro other fails
    by_contra different
    dsimp only [marking] at fails
    rw [if_neg different] at fails
    cases fails
  intro first second firstFails secondFails
  exact (failing first firstFails).trans (failing second secondFails).symm

/-- A rename that fails while the new version is saved. -/
theorem markRead_survives_iff_failing :
    let after := ((markRead twoVersions mailbox (marking .renameIn .fails) followUp.id true).exec
      followUpAlone).2
    let next : Listing := ⟨none, [.ok "mail-0b62516602ec4e06.json"]⟩
    (Returned twoVersions mailbox next after followUp ∨
        Returned twoVersions mailbox next after followUpRead) ↔
      next.denied = none ∧ .ok (itemFile followUp.id) ∈ next.entries.take maxScannedItems ∧
        ¬ (Replaces twoVersions (marking .renameIn .fails) followUpRead ∧
          StopsAway (marking .renameIn .fails).faults (itemSlots followUpAlone followUp.id)) :=
  markRead_survives_iff rfl placed_followUpAlone
    (loadItems_followUpAlone _ _) rfl (single_marking _ _) true parse_followUpRead _

/-- The process stops between the two renames: the file of the item is its backup then, and no
scan of the mailbox returns the item. -/
theorem item_lost :
    Returned twoVersions mailbox (marking .renameIn .stops).listing followUpAlone followUp ∧
      ∀ next : Listing,
        let after := ((markRead twoVersions mailbox (marking .renameIn .stops) followUp.id
          true).exec followUpAlone).2
        ¬ Returned twoVersions mailbox next after followUp ∧
          ¬ Returned twoVersions mailbox next after followUpRead := by
  have valid := validate_followUp
  have present : followUpAlone (itemFile followUp.id) =
      some (.regular (itemContent followUp)) := if_pos (by decide)
  refine ⟨⟨_, _, loadItems_followUpAlone _ _, List.mem_singleton_self _⟩, fun next => ?_⟩
  intro after
  have outcome := markRead_leaves rfl valid present (loadItems_followUpAlone _ _) rfl
    (single_marking .renameIn .stops) true
  change (¬ Replaces _ _ followUpRead ∧ _) ∨
    (_ ∧ ∃ left, after = place followUp.id _ followUpAlone left ∧ _) at outcome
  have short : String.utf8Len (itemText followUpRead) ≤ maxItemFileBytes := by decide +kernel
  have replaces : Replaces twoVersions (marking .renameIn .stops) followUpRead := by
    refine ⟨by decide, rfl, ?_⟩
    rw [print_twoVersions, size_itemContent]
    exact short
  have stops : StopsAway (marking .renameIn .stops).faults
      (itemSlots followUpAlone followUp.id) :=
    ⟨rfl, rfl, ⟨rfl, nofun, fun _ _ => rfl, rfl⟩, .inl rfl⟩
  obtain ⟨left, leaves, gone⟩ : ∃ left : Slots MailFile,
      after = place followUp.id (marking .renameIn .stops).unique followUpAlone left ∧
        left.target = none := by
    rcases outcome with ⟨refused, -⟩ | ⟨-, left, leaves, ⟨-, gone⟩ | ⟨goesOn, -⟩⟩
    · exact absurd replaces refused
    · exact ⟨left, leaves, gone⟩
    · exact absurd stops goesOn
  have named := id_ne_empty valid
  have sameId : followUpRead.id = followUp.id := rfl
  rw [leaves, returned_place placed_followUpAlone named rfl,
    returned_place placed_followUpAlone named sameId, gone]
  constructor
  · rintro ⟨-, -, reads⟩
    cases reads
  · rintro ⟨-, -, reads⟩
    cases reads

end OneItem

end Mailbox
end YunXi
