import YunXi.Mailbox.Survival
import YunXi.Program.Run

/-!
# Repeated requests

The check for an idempotency key looks at the items that a scan returns, and the file that is
written is named by the key alone.  Items stay in the files of their ids through every run, so
a repeated request writes nothing as long as its scan reads the file of the item.
-/

namespace YunXi
namespace Mailbox

open Fallible
open ReplaceFile (Call Fate Slots wp_replaceFile_all)
open Storage (extension)

variable {directory : Directory}

section Kept

variable {library : MailboxLibrary} {store : MailboxStore} {surroundings : Surroundings}

/-- A file that is read as an item is read as one of an id. -/
def Owns (library : MailboxLibrary) (id : String) (file : MailFile) : Prop :=
  ∀ path item, readItem library path (some file) = .ok (some item) → item.id = id

/-- The items that can be read lie in the files and the backups of their ids. -/
structure Kept (library : MailboxLibrary) (directory : Directory) : Prop where
  files : ∀ name, extension name = some "json" → ∀ file ∈ directory name, ∀ path item,
    readItem library path (some file) = .ok (some item) → name = itemFile item.id
  backups : ∀ id, id ≠ "" → ∀ file ∈ directory (backupFile id), Owns library id file

/-- What an operation does to a directory keeps the items in the files of their ids. -/
def KeepsItems (library : MailboxLibrary) (before after : Directory) : Prop :=
  Kept library before → Kept library after

instance : Std.Refl (KeepsItems library) := ⟨fun _ kept => kept⟩

instance : IsTrans Directory (KeepsItems library) :=
  ⟨fun _ _ _ first second kept => second (first kept)⟩

variable {id : String}

theorem Kept.owns (kept : Kept library directory)
    (named : id ≠ "") : ∀ file ∈ directory (itemFile id), Owns library id file := by
  intro file present path item reads
  exact (itemFile_injective
    (kept.files _ (extension_itemFile named) file present path item reads)).symm

theorem backupFile_injective {left right : String} (leftNamed : left ≠ "")
    (rightNamed : right ≠ "") (same : backupFile left = backupFile right) : left = right := by
  rw [backupFile_eq leftNamed, backupFile_eq rightNamed, String.append_assoc,
    String.append_assoc] at same
  exact itemFile_injective ((String.append_left_inj _).mp same)

variable {left : Slots MailFile} {unique : String}

/-- A replacement of a file touches no backup of another item. -/
theorem place_backupFile {other : String}
    (named : id ≠ "") (otherNamed : other ≠ "") (differ : other ≠ id) :
    place id unique directory left (backupFile other) = directory (backupFile other) := by
  have ending := extension_backupFile otherNamed
  have notItem : backupFile other ≠ itemFile id := by
    intro same
    rw [same, extension_itemFile named] at ending
    exact absurd (Option.some_inj.mp ending) (by decide)
  have notTemporary : backupFile other ≠ temporaryFile unique := by
    intro same
    rw [same, extension_temporaryFile] at ending
    exact absurd (Option.some_inj.mp ending) (by decide)
  have notBackup : backupFile other ≠ backupFile id :=
    fun same => differ (backupFile_injective otherNamed named same)
  unfold place
  rw [Function.update_of_ne notItem, Function.update_of_ne notBackup,
    Function.update_of_ne notTemporary]

theorem place_ownBackup
    (named : id ≠ "") : place id unique directory left (backupFile id) = left.backup := by
  have notItem : backupFile id ≠ itemFile id := by
    intro same
    have ending := extension_backupFile named
    rw [same, extension_itemFile named] at ending
    exact absurd (Option.some_inj.mp ending) (by decide)
  unfold place
  rw [Function.update_of_ne notItem, Function.update_self]

theorem Kept.place (kept : Kept library directory)
    (named : id ≠ "") (target : ∀ file ∈ left.target, Owns library id file)
    (backup : ∀ file ∈ left.backup, Owns library id file) :
    Kept library (place id unique directory left) := by
  constructor
  · intro name json file present path item reads
    by_cases own : name = itemFile id
    · rw [own, place_itemFile] at present
      rw [own, target file present path item reads]
    · rw [place_of_ne named json own] at present
      exact kept.files name json file present path item reads
  · intro other otherNamed file present
    by_cases own : other = id
    · rw [own, place_ownBackup named] at present
      rw [own]
      exact backup file present
    · rw [place_backupFile named otherNamed own] at present
      exact kept.backups other otherNamed file present

/-- The data key lies under a name of its own. -/
theorem Kept.update_keyFile (kept : Kept library directory)
    (file : Option MailFile) : Kept library (Function.update directory keyFile file) := by
  have other : ∀ name ending, extension name = some ending → ending ≠ "hex" →
      Function.update directory keyFile file name = directory name := by
    intro name ending ends differs
    apply Function.update_of_ne
    rintro rfl
    exact differs (Option.some_inj.mp (ends.symm.trans (by decide)))
  constructor
  · intro name json found present
    rw [other name _ json (by decide)] at present
    exact kept.files name json found present
  · intro id named found present
    rw [other _ _ (extension_backupFile named) (by decide)] at present
    exact kept.backups id named found present

variable {α : Type}

theorem preserves_orFail (result : Except MailboxError α) :
    (orFail result).Preserves (KeepsItems library) :=
  .ofExcept _

theorem preserves_createRoot (failure : Option String) :
    (createRoot store failure).Preserves (KeepsItems library) := by
  unfold createRoot
  cases failure with
  | none => exact .pure _
  | some source => exact .throw _

theorem preserves_loadOrCreateKey :
    (loadOrCreateKey store surroundings).Preserves (KeepsItems library) := by
  have writes : ∀ file : Option MailFile, (modify fun directory : Directory =>
      Function.update directory keyFile file : MailboxProgram PUnit).Preserves
        (KeepsItems library) :=
    fun file directory kept => kept.update_keyFile file
  unfold loadOrCreateKey
  refine .bind .get fun directory => .bind (.ofExcept _) fun found => ?_
  cases found with
  | some key => exact .pure _
  | none =>
      refine .bind (preserves_createRoot _) fun _ => .bind (preserves_orFail _) fun key => ?_
      cases surroundings.createKey with
      | some failure => exact .bind (writes _) fun _ => .throw _
      | none => exact .bind (writes _) fun _ => .pure _

/-- A library in which what was printed is read back as what it was, if it is read. -/
def MailboxLibrary.Lawful (library : MailboxLibrary) : Prop :=
  ∀ item found, library.parse (library.print item) = .ok found → found = item

theorem MailboxLibrary.Lawful.owns (lawful : library.Lawful) (item : EncryptedItem) :
    Owns library item.id (.regular (library.print item)) := by
  intro path found reads
  obtain ⟨-, rest⟩ := Except.check_bind_eq_ok.mp reads
  obtain ⟨parsed, parses, rest⟩ := Except.bind_eq_ok.mp rest
  obtain ⟨-, returned⟩ := Except.check_bind_eq_ok.mp rest
  rw [Except.pure_eq_ok, Option.some_inj] at returned
  rw [← returned, lawful item parsed (Except.mapError_eq_ok.mp parses)]

/-- A save keeps the items in the files of their ids, however its calls go. -/
theorem preserves_saveItem (lawful : library.Lawful) (item : EncryptedItem) :
    (saveItem library store surroundings item).Preserves (KeepsItems library) := by
  intro directory kept
  rcases exec_saveItem library store surroundings directory item with ⟨-, halt, runs⟩ | ⟨replaces, leaves⟩
  · rw [runs]
    exact kept
  · have named := id_ne_empty replaces.1
    obtain ⟨target, backup⟩ := wp_replaceFile_all surroundings.faults
      (itemSlots directory item.id) (lawful.owns item) (kept.owns named)
      (kept.backups item.id named)
    rw [leaves]
    exact kept.place named target backup

theorem preserves_createItem (lawful : library.Lawful) (request : MailboxEnqueueRequest)
    (items : List EncryptedItem) (warnings : List String) :
    (createItem library store surroundings request items warnings).Preserves
      (KeepsItems library) := by
  unfold createItem
  refine .bind (preserves_createRoot _) fun _ => ?_
  dsimp only
  split
  · exact .throw _
  · refine .bind preserves_loadOrCreateKey fun key => .bind (preserves_orFail _) fun encrypted => ?_
    exact .bind (preserves_orFail _) fun _ => .bind (preserves_saveItem lawful _) fun _ => .pure _

theorem preserves_enqueue (lawful : library.Lawful) (request : MailboxEnqueueRequest) :
    (enqueue library store surroundings request).Preserves (KeepsItems library) := by
  unfold enqueue requireWrite
  refine .bind (.ofExcept _) fun _ => .bind (preserves_orFail _) fun _ => .bind .get fun _ => ?_
  refine .bind (preserves_orFail _) fun scanned => ?_
  dsimp only
  split
  · exact .pure _
  · exact preserves_createItem lawful request _ _

theorem preserves_markRead (lawful : library.Lawful) (id : String) (read : Bool) :
    (markRead library store surroundings id read).Preserves (KeepsItems library) := by
  unfold markRead requireWrite
  refine .bind (.ofExcept _) fun _ => .bind (preserves_orFail _) fun _ => .bind .get fun _ => ?_
  refine .bind (preserves_orFail _) fun scanned => ?_
  dsimp only
  split
  · exact .pure _
  · exact .bind (preserves_saveItem lawful _) fun _ => .pure _

end Kept

variable {item : EncryptedItem}

section Requests

variable {library : MailboxLibrary} {store : MailboxStore} {surroundings : Surroundings}
  {request : MailboxEnqueueRequest} {directory : Directory}

/-- The scan of a request reaches the file of the item of its key, and can read it. -/
def Found (library : MailboxLibrary) (store : MailboxStore) (surroundings : Surroundings)
    (request : MailboxEnqueueRequest) (directory : Directory) : Prop :=
  let name := itemFile (itemId request.idempotencyKey)
  .ok name ∈ surroundings.listing.entries.take maxScannedItems ∧
    ∃ item, readItem library (store.join name) (directory name) = .ok (some item)

/-- A request that no item is found for passes every check before it writes the key of the
mailbox or the item. -/
def Proceeds (library : MailboxLibrary) (store : MailboxStore) (surroundings : Surroundings)
    (request : MailboxEnqueueRequest) (directory : Directory) : Prop :=
  store.writable = true ∧ request.validate = .ok () ∧ surroundings.listing.denied = none ∧
    surroundings.createRoot = none ∧
    match loadKey store surroundings (directory keyFile) with
    | .error _ => False
    | .ok none => surroundings.createRootAgain = none ∧ ∃ key, surroundings.randomKey = .ok key
    | .ok (some key) => ∃ nonce ciphertext,
        surroundings.encrypt key request.content (request.item surroundings.now).aad =
          .ok (nonce, ciphertext) ∧
        Replaces library surroundings { request.item surroundings.now with nonce, ciphertext }

theorem wp_orFail_bind {α β : Type} {result : Except MailboxError α}
    {next : α → MailboxProgram β} {post : Except MailboxHalt β → Directory → Prop}
    (onError : ∀ error, post (.error error) directory)
    (onOk : ∀ value, result = .ok value → (next value).wp post directory) :
    (orFail result >>= next).wp post directory :=
  wp_ofExcept_bind (fun error _ => onError error)
    fun value returns => onOk value (Except.mapError_eq_ok.mp returns)

theorem wp_createRoot_bind {β : Type} {failure : Option String} {next : Unit → MailboxProgram β}
    {post : Except MailboxHalt β → Directory → Prop}
    (onError : ∀ error, post (.error error) directory)
    (onOk : failure = none → (next ()).wp post directory) :
    (createRoot store failure >>= next).wp post directory := by
  unfold createRoot
  cases failure with
  | some source => exact onError _
  | none => exact onOk rfl

/-- A scan that is not denied returns what lies in the directory. -/
theorem scan_of_loadItems {listing : Listing} {scanned : List EncryptedItem × List String}
    (loads : loadItems library store listing directory = .ok scanned) :
    listing.denied = none ∧
      scanned = scanItems library store directory maxScannedItems listing.entries := by
  unfold loadItems at loads
  cases denied : listing.denied with
  | some source =>
      rw [denied] at loads
      cases loads
  | none =>
      rw [denied] at loads
      exact ⟨rfl, (Except.ok.inj loads).symm⟩

theorem find?_ne_none {α : Type} {items : List α} {holds : α → Bool} {item : α}
    (member : item ∈ items) (true_ : holds item = true) : items.find? holds ≠ none :=
  fun missing => List.find?_eq_none.mp missing item member true_

theorem itemId_ne_empty {key : String} : itemId key ≠ "" := by
  intro empty
  have characters := congrArg String.toList empty
  rw [itemId, String.toList_append] at characters
  exact List.cons_ne_nil _ _ (List.append_eq_nil_iff.mp characters).1

/-- A request whose item is found leaves the directory as it is. -/
theorem enqueue_of_found (kept : Kept library directory)
    (found : Found library store surroundings request directory) :
    (enqueue library store surroundings request).wp (fun _ final => final = directory)
      directory := by
  obtain ⟨reached, item, reads⟩ := found
  obtain ⟨file, present⟩ := Option.ne_none_iff_exists'.mp (target_ne_none reads)
  have json : extension (itemFile (itemId request.idempotencyKey)) = some "json" :=
    extension_itemFile itemId_ne_empty
  have sameId : item.id = itemId request.idempotencyKey := by
    rw [present] at reads
    exact kept.owns itemId_ne_empty file present _ item reads
  unfold enqueue requireWrite
  refine wp_ofExcept_bind (fun _ _ => rfl) fun _ _ => ?_
  refine wp_orFail_bind (fun _ => rfl) fun _ _ => ?_
  rw [wp_bind, wp_get, andThen_ok]
  refine wp_orFail_bind (fun _ => rfl) fun scanned loads => ?_
  obtain ⟨-, rfl⟩ := scan_of_loadItems loads
  have member : item ∈ (scanItems library store directory maxScannedItems
      surroundings.listing.entries).1 :=
    (mem_scanItems _ _).mpr ⟨_, reached, json, reads⟩
  dsimp only
  split
  · rfl
  · unfold createItem
    refine wp_createRoot_bind (fun _ => rfl) fun _ => ?_
    dsimp only
    split
    case h_1 existing finds => rfl
    case h_2 missing =>
      exact absurd missing (find?_ne_none member (decide_eq_true sameId))

/-- A save that does not get as far as the replacement fails and changes nothing. -/
theorem wp_saveItem_of_not_replaces (refused : ¬ Replaces library surroundings item) :
    (saveItem library store surroundings item).wp
      (fun result final => (∃ halt, result = .error halt) ∧ final = directory) directory := by
  rcases exec_saveItem library store surroundings directory item with ⟨-, halt, runs⟩ | ⟨replaces, -⟩
  · unfold wp
    rw [runs]
    exact ⟨⟨halt, rfl⟩, rfl⟩
  · exact absurd replaces refused

/-- A request that does not get as far as writing leaves the directory as it is. -/
theorem enqueue_of_not_proceeds
    (ends : ¬ Proceeds library store surroundings request directory) :
    (enqueue library store surroundings request).wp (fun _ final => final = directory)
      directory := by
  unfold enqueue requireWrite
  refine wp_ofExcept_bind (fun _ _ => rfl) fun _ granted => ?_
  refine wp_orFail_bind (fun _ => rfl) fun _ valid => ?_
  rw [wp_bind, wp_get, andThen_ok]
  refine wp_orFail_bind (fun _ => rfl) fun scanned loads => ?_
  obtain ⟨allowed, -⟩ := scan_of_loadItems loads
  dsimp only
  split
  · rfl
  · unfold createItem
    refine wp_createRoot_bind (fun _ => rfl) fun creates => ?_
    dsimp only
    split
    · rfl
    · have writable : store.writable = true := by
        by_contra denied
        rw [if_pos (Bool.eq_false_of_not_eq_true denied)] at granted
        cases granted
      have goesOn := fun key => ends ⟨writable, valid, allowed, creates, key⟩
      rw [wp_bind]
      unfold loadOrCreateKey
      rw [wp_bind, wp_get, andThen_ok]
      refine wp_ofExcept_bind (fun _ _ => rfl) fun found loaded => ?_
      rw [loaded] at goesOn
      cases found with
      | none =>
          refine wp_createRoot_bind (fun _ => rfl) fun createsAgain => ?_
          refine wp_orFail_bind (fun _ => rfl) fun key random => ?_
          exact absurd ⟨createsAgain, key, Except.mapError_eq_ok.mp random⟩ goesOn
      | some key =>
          rw [wp_pure, andThen_ok]
          refine wp_orFail_bind (fun _ => rfl) fun encrypted encrypts => ?_
          refine wp_orFail_bind (fun _ => rfl) fun _ _ => ?_
          have refused : ¬ Replaces library surroundings
              { request.item surroundings.now with
                nonce := encrypted.1, ciphertext := encrypted.2 } :=
            fun replaces => goesOn ⟨encrypted.1, encrypted.2, encrypts, replaces⟩
          refine wp_bind_of (wp_saveItem_of_not_replaces refused) ?_ ?_
          · rintro value final ⟨⟨halt, impossible⟩, -⟩
            cases impossible
          · exact fun error final ended => ended.2

/-- The directory after a save in which every call works. -/
def saved (library : MailboxLibrary) (surroundings : Surroundings) (item : EncryptedItem)
    (directory : Directory) : Directory :=
  place item.id surroundings.unique directory ⟨some (.regular (library.print item)), none, none⟩

theorem exec_saveItem_works (replaces : Replaces library surroundings item)
    (works : ∀ call, surroundings.faults.fate call = .works) :
    (saveItem library store surroundings item).exec directory =
      (.ok (), saved library surroundings item directory) := by
  obtain ⟨valid, creates, fits⟩ := replaces
  have replaced := ReplaceFile.exec_replaceFile_works works (.regular (library.print item))
    (itemSlots directory item.id)
  have ran : (replaceItem store surroundings item.id (library.print item)).exec directory =
      (.ok (), saved library surroundings item directory) := by
    unfold replaceItem
    rw [exec_ofFunction]
    dsimp only
    unfold itemSlots at replaced
    rw [replaced]
    rfl
  unfold saveItem createRoot
  rw [exec_bind_of_ok (exec_orFail valid), creates]
  dsimp only
  unfold throwIf
  rw [exec_bind_of_ok (exec_pure _ _), if_neg (Nat.not_lt.mpr fits)]
  exact ran

/-- A request whose scan finds neither its key nor its id saves a new item, whatever lies in
the file of that item. -/
theorem exec_enqueue_creates {items : List EncryptedItem} {warnings : List String}
    {key : List UInt8} {nonce ciphertext : String} (granted : store.writable = true)
    (valid : request.validate = .ok ())
    (loads : loadItems library store surroundings.listing directory = .ok (items, warnings))
    (noKey : items.find? (·.idempotencyKey = request.idempotencyKey) = none)
    (noItem : items.find? (·.id = itemId request.idempotencyKey) = none)
    (creates : surroundings.createRoot = none)
    (hasKey : loadKey store surroundings (directory keyFile) = .ok (some key))
    (encrypts : surroundings.encrypt key request.content (request.item surroundings.now).aad =
      .ok (nonce, ciphertext))
    (replaces : Replaces library surroundings
      { request.item surroundings.now with nonce, ciphertext })
    (works : ∀ call, surroundings.faults.fate call = .works) :
    (enqueue library store surroundings request).exec directory =
      (.ok ⟨some (request.item surroundings.now).summary, true, warnings⟩,
        saved library surroundings { request.item surroundings.now with nonce, ciphertext }
          directory) := by
  have keyLoaded : (loadOrCreateKey store surroundings).exec directory = (.ok key, directory) := by
    unfold loadOrCreateKey
    rw [exec_get_bind, hasKey]
    rfl
  unfold enqueue
  rw [exec_bind_of_ok (exec_requireWrite granted),
    exec_bind_of_ok (exec_orFail valid), exec_get_bind,
    exec_bind_of_ok (exec_orFail loads)]
  dsimp only
  rw [noKey]
  unfold createItem createRoot
  rw [creates]
  dsimp only
  rw [exec_bind_of_ok (exec_pure _ _)]
  have newId : items.find? (·.id = (request.item surroundings.now).id) = none := noItem
  rw [newId]
  dsimp only
  rw [exec_bind_of_ok keyLoaded, exec_bind_of_ok (exec_orFail encrypts)]
  dsimp only
  rw [exec_bind_of_ok (exec_orFail replaces.1),
    exec_bind_of_ok (exec_saveItem_works replaces works)]
  rfl

end Requests

section Runs

/-- A file that is not read as an item. -/
def Damaged (library : MailboxLibrary) : Type :=
  { file : MailFile // ∀ path item, readItem library path (some file) ≠ .ok (some item) }

/-- What happens to a mailbox: requests of stores over it, and files that are damaged. -/
inductive MailboxStep (library : MailboxLibrary)
  | enqueue (store : MailboxStore) (request : MailboxEnqueueRequest)
      (surroundings : Surroundings)
  | markRead (store : MailboxStore) (id : String) (read : Bool) (surroundings : Surroundings)
  | damage (name : String) (file : Damaged library)

/-- A mailbox and the keys that were enqueued in it. -/
structure MailboxState where
  directory : Directory
  enqueued : List String

/-- An empty mailbox. -/
def MailboxState.empty : MailboxState :=
  ⟨fun _ => none, []⟩

variable {library : MailboxLibrary}

variable (state : MailboxState)

def perform : MailboxStep library → MailboxState
  | .enqueue store request surroundings =>
      let ran := (enqueue library store surroundings request).exec state.directory
      { directory := ran.2
        enqueued :=
          match ran.1 with
          | .ok _ => request.idempotencyKey :: state.enqueued
          | .error _ => state.enqueued }
  | .markRead store id read surroundings =>
      { state with
        directory := ((markRead library store surroundings id read).exec state.directory).2 }
  | .damage name file =>
      { state with directory := Function.update state.directory name (some file.1) }

/-- A request that returns is one of the enqueued. -/
theorem perform_enqueue {store : MailboxStore} {request : MailboxEnqueueRequest}
    {surroundings : Surroundings} {state : MailboxState} {result : MailboxMutationResult}
    {after : Directory}
    (ran : (enqueue library store surroundings request).exec state.directory =
      (.ok result, after)) :
    perform state (.enqueue store request surroundings : MailboxStep library) =
      ⟨after, request.idempotencyKey :: state.enqueued⟩ := by
  unfold perform
  dsimp only
  rw [ran]

theorem perform_damage (name : String) (file : Damaged library) :
    perform state (.damage name file) =
      ⟨Function.update state.directory name (some file.1), state.enqueued⟩ := rfl

theorem enqueued_damage (name : String) (file : Damaged library) :
    (perform state (.damage name file)).enqueued = state.enqueued := rfl

/-- A repeated request finds the item of its key, or ends before it writes anything. -/
def FindsOrEnds : MailboxStep library → Prop
  | .enqueue store request surroundings => request.idempotencyKey ∈ state.enqueued →
      Found library store surroundings request state.directory ∨
        ¬ Proceeds library store surroundings request state.directory
  | _ => True

/-- A repeated request writes nothing. -/
def RepeatsWriteNothing (step : MailboxStep library) : Prop :=
  match step with
  | .enqueue _ request _ => request.idempotencyKey ∈ state.enqueued →
      (perform state step).directory = state.directory
  | _ => True

theorem kept_empty : Kept library MailboxState.empty.directory :=
  ⟨nofun, nofun⟩

theorem Kept.damage (kept : Kept library directory) (name : String)
    (file : Damaged library) : Kept library (Function.update directory name (some file.1)) := by
  constructor
  · intro other json found present path item reads
    by_cases same : other = name
    · rw [same, Function.update_self] at present
      rw [← Option.some_inj.mp present] at reads
      exact absurd reads (file.2 path item)
    · rw [Function.update_of_ne same] at present
      exact kept.files other json found present path item reads
  · intro id named found present path item reads
    by_cases same : backupFile id = name
    · rw [same, Function.update_self] at present
      rw [← Option.some_inj.mp present] at reads
      exact absurd reads (file.2 path item)
    · rw [Function.update_of_ne same] at present
      exact kept.backups id named found present path item reads

/-- Every step keeps the items in the files of their ids. -/
theorem Kept.perform (lawful : library.Lawful) (state : MailboxState) (step : MailboxStep library)
    (kept : Kept library state.directory) : Kept library (perform state step).directory := by
  cases step with
  | enqueue store request surroundings =>
      exact preserves_enqueue lawful request state.directory kept
  | markRead store id read surroundings =>
      exact preserves_markRead lawful id read state.directory kept
  | damage name file => exact kept.damage name file

/-- In every run from an empty mailbox, with operations that are interrupted anywhere and files
that are damaged, the repeated requests write nothing that find their items or end early. -/
theorem repeats_write_nothing (lawful : library.Lawful) (steps : List (MailboxStep library))
    (finds : EachStep perform FindsOrEnds MailboxState.empty steps) :
    EachStep perform RepeatsWriteNothing MailboxState.empty steps := by
  refine eachStep_of_step (fun state : MailboxState => Kept library state.directory) ?_
    (fun state step kept => kept.perform lawful state step) kept_empty finds
  intro state step kept meets
  cases step with
  | enqueue store request surroundings =>
      intro repeated
      rcases meets repeated with found | ends
      · exact enqueue_of_found kept found
      · exact enqueue_of_not_proceeds ends
  | markRead store id read surroundings => trivial
  | damage name file => trivial

end Runs

section Twice

local instance onceDecidableEq : DecidableEq ByteArray := ByteArray.instDecidableEq

def followUpLater : EncryptedItem :=
  { followUp with createdAtMillis := 2000, updatedAtMillis := 2000 }

/-- A library that knows two items. -/
def twoItems : MailboxLibrary where
  parse content :=
    if content = itemContent followUp then .ok followUp
    else if content = itemContent followUpLater then .ok followUpLater
    else .error "expected value at line 1 column 1"
  print item := if item = followUp ∨ item = followUpLater then itemContent item else ByteArray.empty

theorem itemContent_later : itemContent followUpLater ≠ itemContent followUp := by
  have differ : itemText followUpLater ≠ itemText followUp := by decide +kernel
  exact fun same => differ (itemText_eq_of_itemContent_eq same)

theorem lawful_twoItems : twoItems.Lawful := by
  intro item found reads
  dsimp only [twoItems] at reads
  by_cases known : item = followUp ∨ item = followUpLater
  · rw [if_pos known] at reads
    rcases known with rfl | rfl
    · rw [if_pos rfl] at reads
      exact (Except.ok.inj reads).symm
    · rw [if_neg itemContent_later, if_pos rfl] at reads
      exact (Except.ok.inj reads).symm
  · rw [if_neg known, if_neg (itemContent_ne_empty _), if_neg (itemContent_ne_empty _)] at reads
    cases reads

theorem print_followUp : twoItems.print followUp = itemContent followUp := by
  dsimp only [twoItems]
  exact if_pos (.inl rfl)

theorem print_followUpLater : twoItems.print followUpLater = itemContent followUpLater := by
  dsimp only [twoItems]
  exact if_pos (.inr rfl)

theorem readItem_twoItems (path : String) :
    readItem twoItems path (some (.regular (twoItems.print followUp))) = .ok (some followUp) := by
  apply readItem_print path validate_followUp
  · rw [print_followUp, size_itemContent]
    exact short_followUp
  · rw [print_followUp]
    dsimp only [twoItems]
    exact if_pos rfl

def followUpRequest : MailboxEnqueueRequest :=
  ⟨.proactiveMessage, "Follow-up", "private mailbox body", "unfinished task", "task-1"⟩

/-- A request that arrives at a time, with what the scan lists. -/
def arriving (now : Nat) (entries : List (Except String String)) : Surroundings where
  listing := ⟨none, entries⟩
  createRoot := none
  createRootAgain := none
  now := now
  environmentKey := some "0707070707070707070707070707070707070707070707070707070707070707"
  randomKey := .error "unavailable"
  createKey := none
  encrypt _ _ _ := .ok ("AAAAAAAAAAAAAAAA", "c2VhbGVk")
  unique := "4021-2000000000"
  faults := ⟨fun _ => .works, .regular ByteArray.empty⟩
  source _ := ""

theorem loadKey_arriving (now : Nat) (entries : List (Except String String))
    (file : Option MailFile) :
    loadKey mailbox (arriving now entries) file = .ok (some (List.replicate 32 7)) := by
  have decodes : decodeHexKey
      "0707070707070707070707070707070707070707070707070707070707070707" =
        .ok (List.replicate 32 7) := by decide
  unfold loadKey
  dsimp only [arriving]
  rw [decodes]
  rfl

/-- The item that a request of a time makes. -/
def made (now : Nat) : EncryptedItem :=
  { followUpRequest.item now with nonce := "AAAAAAAAAAAAAAAA", ciphertext := "c2VhbGVk" }

theorem itemId_followUp : itemId followUpRequest.idempotencyKey = "mail-0b62516602ec4e06" := by
  decide

theorem made_first : made 1000 = followUp := by
  unfold made MailboxEnqueueRequest.item
  rw [itemId_followUp]
  rfl

theorem made_later : made 2000 = followUpLater := by
  unfold made MailboxEnqueueRequest.item
  rw [itemId_followUp]
  rfl

theorem exec_arriving (now : Nat) (entries : List (Except String String))
    {warnings : List String}
    (loads : loadItems twoItems mailbox ⟨none, entries⟩ directory = .ok ([], warnings))
    (fits : Replaces twoItems (arriving now entries) (made now)) :
    (enqueue twoItems mailbox (arriving now entries) followUpRequest).exec directory =
      (.ok ⟨some (followUpRequest.item now).summary, true, warnings⟩,
        saved twoItems (arriving now entries) (made now) directory) :=
  exec_enqueue_creates rfl (by decide) loads
    rfl rfl rfl (loadKey_arriving _ _ _) rfl fits fun _ => rfl

theorem replaces_followUp (entries : List (Except String String)) :
    Replaces twoItems (arriving 1000 entries) (made 1000) := by
  rw [made_first]
  refine ⟨validate_followUp, rfl, ?_⟩
  rw [print_followUp, size_itemContent]
  exact short_followUp

theorem replaces_followUpLater (entries : List (Except String String)) :
    Replaces twoItems (arriving 2000 entries) (made 2000) := by
  have short : String.utf8Len (itemText followUpLater) ≤ maxItemFileBytes := by decide +kernel
  rw [made_later]
  refine ⟨by decide, rfl, ?_⟩
  rw [print_followUpLater, size_itemContent]
  exact short

def followUpName : String := "mail-0b62516602ec4e06.json"

def followUpStep (now : Nat) (entries : List (Except String String)) : MailboxStep twoItems :=
  .enqueue mailbox followUpRequest (arriving now entries)

theorem saved_followUpName (surroundings : Surroundings)
    (sameId : item.id = "mail-0b62516602ec4e06") (directory : Directory) :
    saved twoItems surroundings item directory followUpName =
      some (.regular (twoItems.print item)) := by
  have name : followUpName = itemFile item.id := by
    rw [sameId]
    rfl
  rw [saved, name, place_itemFile]

/-- The mailbox after the first request. -/
theorem perform_first : (perform .empty (followUpStep 1000 [])).enqueued = ["task-1"] ∧
      (perform .empty (followUpStep 1000 [])).directory followUpName =
        some (.regular (twoItems.print (made 1000))) := by
  have loads : loadItems twoItems mailbox ⟨none, []⟩ MailboxState.empty.directory =
      .ok ([], []) := rfl
  have ran := exec_arriving 1000 [] loads (replaces_followUp [])
  rw [followUpStep, perform_enqueue ran]
  refine ⟨rfl, ?_⟩
  dsimp only
  rw [saved_followUpName _ (congrArg EncryptedItem.id made_first)]

theorem itemFile_followUp : itemFile (itemId followUpRequest.idempotencyKey) = followUpName := by
  rw [itemId_followUp]
  rfl

theorem found_of_present
    (present : directory followUpName = some (.regular (twoItems.print (made 1000)))) :
    Found twoItems mailbox (arriving 2000 [.ok followUpName]) followUpRequest directory := by
  unfold Found
  dsimp only
  rw [itemFile_followUp, present, made_first]
  exact ⟨List.mem_singleton_self _, followUp, readItem_twoItems _⟩

/-- The request is made again while its file is listed and can be read. -/
theorem repeats_write_nothing_listed : EachStep perform RepeatsWriteNothing MailboxState.empty
      [followUpStep 1000 [], followUpStep 2000 [.ok followUpName]] :=
  repeats_write_nothing lawful_twoItems _
    ⟨nofun, fun _ => .inl (found_of_present perform_first.2), trivial⟩

/-- A file that the process may not read. -/
def forbidden : Damaged twoItems :=
  ⟨.unreadable "Permission denied (os error 13)", fun _ _ => nofun⟩

theorem loads_forbidden (present : directory followUpName = some forbidden.1) :
    loadItems twoItems mailbox ⟨none, [.ok followUpName]⟩ directory =
      .ok ([], ["mailbox I/O failed at /work/.yunxi-next/mailbox/" ++ followUpName ++
        ": Permission denied (os error 13)"]) := by
  have json : extension followUpName = some "json" :=
    extension_itemFile (show followUp.id ≠ "" by decide)
  have path : mailbox.join followUpName = "/work/.yunxi-next/mailbox/" ++ followUpName := rfl
  unfold loadItems
  dsimp only
  rw [maxScannedItems, scanItems, scanItems]
  dsimp only
  rw [if_neg (not_not.mpr json), present, path]
  rfl

/-- A repeated request whose item cannot be read stores a new item in its place. -/
theorem writes_over_forbidden {state : MailboxState}
    (repeated : followUpRequest.idempotencyKey ∈ state.enqueued)
    (unreadable : state.directory followUpName = some forbidden.1) :
    ¬ RepeatsWriteNothing state (followUpStep 2000 [.ok followUpName]) := by
  intro unchanged
  have ran := exec_arriving 2000 [.ok followUpName] (loads_forbidden unreadable)
    (replaces_followUpLater _)
  have same := congrFun (unchanged repeated) followUpName
  rw [followUpStep, perform_enqueue ran, unreadable] at same
  dsimp only at same
  rw [saved_followUpName _ (congrArg EncryptedItem.id made_later)] at same
  cases same

/-- The request is made again while the file of its item cannot be read: a new item with a
later time takes the place of the stored one. -/
theorem item_overwritten : ¬ EachStep perform RepeatsWriteNothing MailboxState.empty
      [followUpStep 1000 [], .damage followUpName forbidden,
        followUpStep 2000 [.ok followUpName]] := by
  rintro ⟨-, -, unchanged, -⟩
  refine writes_over_forbidden ?_ ?_ unchanged
  · rw [enqueued_damage, perform_first.1]
    exact List.mem_singleton_self _
  · rw [perform_damage]
    dsimp only
    rw [Function.update_self]

end Twice

end Mailbox
end YunXi
