import YunXi.Mailbox.Item
import YunXi.Program.ReplaceFile
import YunXi.Storage.FileNames
import Mathlib.Logic.Function.Basic

/-!
# The mailbox store

A mailbox is a directory with one file for each item, under the name of its id.  Operations
scan the directory as far as their limit goes, and write through a replacement of one file.
-/

namespace YunXi
namespace Mailbox

open Protocol (isWhiteSpace)
open ReplaceFile (Call Faults Halt Slots)
open Storage (extension withExtension)

def maxScannedItems : Nat := 2000

/-- What lies under a name. -/
inductive MailFile
  | regular (content : ByteArray)
  | unreadable (source : String)

abbrev Directory := String → Option MailFile

/-- What the JSON library makes of items. -/
structure MailboxLibrary where
  parse : ByteArray → Except String EncryptedItem
  print : EncryptedItem → ByteArray

/-- `MailboxStore`. -/
structure MailboxStore where
  root : String
  writable : Bool

/-- `root.join(name)`. -/
def MailboxStore.join (store : MailboxStore) (name : String) : String :=
  store.root ++ "/" ++ name

/-- What `read_dir` yields, in any order, unless it is denied. -/
structure Listing where
  denied : Option String
  entries : List (Except String String)

/-- What an operation meets: the scan, the clock, the keys and the calls to the file system. -/
structure Surroundings where
  listing : Listing
  createRoot : Option String
  createRootAgain : Option String
  now : Nat
  environmentKey : Option String
  randomKey : Except String (List UInt8)
  createKey : Option (String × Option MailFile)
  encrypt : List UInt8 → String → String → Except MailboxError (String × String)
  unique : String
  faults : Faults MailFile
  source : Call → String

/-- How an operation ends that does not return a result. -/
inductive MailboxHalt
  | failed (error : MailboxError)
  | panicked
  | stopped
  deriving DecidableEq

abbrev MailboxProgram (α : Type) := Fallible Directory MailboxHalt α

/-- An error ends an operation. -/
def orFail {α : Type} (result : Except MailboxError α) : MailboxProgram α :=
  Fallible.ofExcept (result.mapError .failed)

section Reading

variable (library : MailboxLibrary) (store : MailboxStore)

/-- `read_item`. -/
def readItem (path : String) : Option MailFile → Except MailboxError (Option EncryptedItem)
  | none => .ok none
  | some (.unreadable source) => .error (.io path source)
  | some (.regular content) => do
      refuseIf (content.size > maxItemFileBytes) (.itemTooLarge maxItemFileBytes)
      let item ← (library.parse content).mapError fun error =>
        .invalidItem ("failed to parse " ++ path ++ ": " ++ error)
      item.validate
      return some item

/-- The loop of `load_items`, with room for a number of entries. -/
def scanItems (directory : Directory) :
    Nat → List (Except String String) → List EncryptedItem × List String
  | _, [] => ([], [])
  | 0, _ :: _ =>
      ([], ["mailbox scan stopped after " ++ toString maxScannedItems ++ " entries"])
  | room + 1, entry :: rest =>
      let (items, warnings) := scanItems directory room rest
      match entry with
      | .error error => (items, ("failed to read mailbox entry: " ++ error) :: warnings)
      | .ok name =>
          if extension name ≠ some "json" then (items, warnings)
          else
            match readItem library (store.join name) (directory name) with
            | .ok (some item) => (item :: items, warnings)
            | .ok none => (items, warnings)
            | .error error => (items, error.display :: warnings)

/-- `load_items`. -/
def loadItems (listing : Listing) (directory : Directory) :
    Except MailboxError (List EncryptedItem × List String) :=
  match listing.denied with
  | some source => .error (.io store.root source)
  | none => .ok (scanItems library store directory maxScannedItems listing.entries)

end Reading

def keyFile : String := "data-key.hex"

/-- `to_digit(16)` of an ASCII character. -/
def hexDigitValue (byte : UInt8) : Option Nat :=
  let code := byte.toNat
  if 48 ≤ code ∧ code ≤ 57 then some (code - 48)
  else if 97 ≤ code ∧ code ≤ 102 then some (code - 87)
  else if 65 ≤ code ∧ code ≤ 70 then some (code - 55)
  else none

/-- `u8::from_str_radix(.., 16)` of two bytes. -/
def radixByte (first second : UInt8) : Option UInt8 :=
  match hexDigitValue second with
  | none => none
  | some low =>
      if first.toNat = 43 then some (.ofNat low)
      else (hexDigitValue first).map fun high => .ofNat (high * 16 + low)

/-- The byte goes on with a character that began before it. -/
def isContinuation (byte : UInt8) : Bool := 128 ≤ byte.toNat && byte.toNat < 192

/-- The loop of `decode_hex_key`; a slice that cuts a character in two panics. -/
def decodeHexPairs : List UInt8 → Except MailboxHalt (List UInt8)
  | first :: second :: rest =>
      if rest.head?.any isContinuation then .error .panicked
      else
        match radixByte first second with
        | none => .error (.failed (.crypto "mailbox key contains invalid hex"))
        | some byte => do return byte :: (← decodeHexPairs rest)
  | _ => .ok []

/-- `decode_hex_key`. -/
def decodeHexKey (value : String) : Except MailboxHalt (List UInt8) := do
  refuseIf (value.utf8ByteSize ≠ 64)
    (.failed (.crypto "mailbox key must contain 64 hex characters"))
  decodeHexPairs value.toUTF8.data.toList

/-- `encode_hex_key`. -/
def encodeHexKey (key : List UInt8) : String :=
  String.ofList (key.flatMap fun byte => hexPlaces 2 byte.toNat)

section Keys

variable (store : MailboxStore) (surroundings : Surroundings)

/-- `load_key`; a key file that is not found is no error here. -/
def loadKey (file : Option MailFile) : Except MailboxHalt (Option (List UInt8)) :=
  match surroundings.environmentKey, file with
  | some value, _ => (decodeHexKey value).map some
  | none, none => .ok none
  | none, some (.unreadable source) => .error (.failed (.io (store.join keyFile) source))
  | none, some (.regular content) =>
      match String.fromUTF8? content with
      | none =>
          .error (.failed (.io (store.join keyFile) "stream did not contain valid UTF-8"))
      | some text => (decodeHexKey (Strings.trimMatches isWhiteSpace text)).map some

/-- `fs::create_dir_all` of the root. -/
def createRoot (failure : Option String) : MailboxProgram Unit :=
  match failure with
  | some source => throw (.failed (.io store.root source))
  | none => return ()

/-- `load_or_create_key`. -/
def loadOrCreateKey : MailboxProgram (List UInt8) := do
  let directory ← get
  match ← Fallible.ofExcept (loadKey store surroundings (directory keyFile)) with
  | some key => return key
  | none => do
      createRoot store surroundings.createRootAgain
      let key ← orFail (surroundings.randomKey.mapError fun error =>
        .crypto ("key generation failed: " ++ error))
      match surroundings.createKey with
      | some (source, left) => do
          modify fun directory => Function.update directory keyFile left
          throw (.failed (.io (store.join keyFile) source))
      | none => do
          modify fun directory =>
            Function.update directory keyFile (some (.regular (encodeHexKey key).toUTF8))
          return key

end Keys

/-- The file of an item. -/
def itemFile (id : String) : String := id ++ ".json"

/-- The backup of the file of an item. -/
def backupFile (id : String) : String := withExtension (itemFile id) "json.bak"

def temporaryFile (unique : String) : String := ".mailbox-" ++ unique ++ ".tmp"

/-- The directory after a replacement. -/
def place (id unique : String) (directory : Directory) (left : Slots MailFile) : Directory :=
  Function.update
    (Function.update (Function.update directory (temporaryFile unique) left.temporary)
      (backupFile id) left.backup)
    (itemFile id) left.target

/-- The file that an error of `replace_file` names. -/
def failedFile (id unique : String) : Call → String
  | .createTemporary | .writeTemporary => temporaryFile unique
  | .removeBackup => backupFile id
  | _ => itemFile id

section Writing

variable (library : MailboxLibrary) (store : MailboxStore) (surroundings : Surroundings)

/-- What `replace_file` returns for the file of an item. -/
def replaceResult (id : String) : Except Halt Unit → Except MailboxHalt Unit
  | .ok () => .ok ()
  | .error (.failed call) =>
      .error (.failed (.io (store.join (failedFile id surroundings.unique call))
        (surroundings.source call)))
  | .error .stopped => .error .stopped

/-- `replace_file` of the file of an item. -/
def replaceItem (id : String) (content : ByteArray) : MailboxProgram Unit :=
  Fallible.ofFunction fun directory =>
    let ran := (ReplaceFile.replaceFile surroundings.faults (.regular content)).exec
      ⟨directory (itemFile id), directory (backupFile id), none⟩
    (replaceResult store surroundings id ran.1, place id surroundings.unique directory ran.2)

/-- `save_item`. -/
def saveItem (item : EncryptedItem) : MailboxProgram Unit := do
  orFail item.validate
  createRoot store surroundings.createRootAgain
  let content := library.print item
  Fallible.throwIf (content.size > maxItemFileBytes) (.failed (.itemTooLarge maxItemFileBytes))
  replaceItem store surroundings item.id content

/-- `require_write`. -/
def requireWrite : MailboxProgram Unit :=
  Fallible.throwIf (store.writable = false) (.failed .writeNotGranted)

structure MailboxMutationResult where
  item : Option MailboxSummary
  created : Bool
  warnings : List String
  deriving DecidableEq, Repr

structure MailboxEnqueueRequest where
  kind : MailboxItemKind
  subject : String
  content : String
  reason : String
  idempotencyKey : String

variable (request : MailboxEnqueueRequest)

/-- The item of a request, before its content is encrypted. -/
def MailboxEnqueueRequest.item (now : Nat) : EncryptedItem where
  schemaVersion := mailboxSchemaVersion
  id := itemId request.idempotencyKey
  kind := request.kind
  subject := request.subject
  reason := request.reason
  idempotencyKey := request.idempotencyKey
  read := false
  createdAtMillis := now
  updatedAtMillis := now
  algorithm := "chacha20poly1305"
  nonce := ""
  ciphertext := ""

/-- The checks of `enqueue`. -/
def MailboxEnqueueRequest.validate : Except MailboxError Unit := do
  validateText "subject" request.subject maxSubjectChars
  validateText "content" request.content maxContentChars
  validateText "reason" request.reason maxReasonChars
  validateText "idempotency key" request.idempotencyKey maxIdempotencyChars

/-- The end of `enqueue`, for an idempotency key that the scan did not find. -/
def createItem (items : List EncryptedItem)
    (warnings : List String) : MailboxProgram MailboxMutationResult := do
  createRoot store surroundings.createRoot
  let item := request.item surroundings.now
  match items.find? (·.id = item.id) with
  | some existing => throw (.failed (.idempotencyCollision existing.idempotencyKey))
  | none => do
      let key ← loadOrCreateKey store surroundings
      let (nonce, ciphertext) ← orFail (surroundings.encrypt key request.content item.aad)
      let item := { item with nonce, ciphertext }
      orFail item.validate
      saveItem library store surroundings item
      return ⟨some item.summary, true, warnings⟩

/-- `enqueue`. -/
def enqueue : MailboxProgram MailboxMutationResult := do
  requireWrite store
  orFail request.validate
  let directory ← get
  let (items, warnings) ← orFail (loadItems library store surroundings.listing directory)
  match items.find? (·.idempotencyKey = request.idempotencyKey) with
  | some existing => return ⟨some existing.summary, false, warnings⟩
  | none => createItem library store surroundings request items warnings

/-- `mark_read`. -/
def markRead (itemId : String) (read : Bool) : MailboxProgram MailboxMutationResult := do
  requireWrite store
  orFail (validateId itemId)
  let directory ← get
  let (items, warnings) ← orFail (loadItems library store surroundings.listing directory)
  match items.find? (·.id = itemId) with
  | none => return ⟨none, false, warnings⟩
  | some item => do
      let item := { item with read, updatedAtMillis := surroundings.now }
      saveItem library store surroundings item
      return ⟨some item.summary, false, warnings⟩

end Writing

end Mailbox
end YunXi
