import YunXi.Program.Checked
import YunXi.Protocol.Json

/-!
# Mailbox items

An item keeps its content encrypted, and its id is a hash of its idempotency key.
-/

namespace YunXi
namespace Mailbox

open Protocol (isAsciiAlphanumeric isBlank)
open Protocol.Value (hexDigit)

def mailboxSchemaVersion : Nat := 1
def maxItemFileBytes : Nat := 256 * 1024
def maxContentChars : Nat := 64 * 1024
def maxSubjectChars : Nat := 200
def maxReasonChars : Nat := 500
def maxIdempotencyChars : Nat := 256

/-- The errors of the operations among those of `MailboxError`. -/
inductive MailboxError
  | writeNotGranted
  | invalidItem (message : String)
  | itemTooLarge (maximum : Nat)
  | idempotencyCollision (existing : String)
  | io (path source : String)
  | crypto (message : String)
  deriving DecidableEq, Repr

/-- `fmt::Display for MailboxError`. -/
def MailboxError.display : MailboxError → String
  | writeNotGranted => "mailbox write access was not granted"
  | invalidItem message => message
  | itemTooLarge maximum => "mailbox item exceeds " ++ toString maximum ++ " bytes"
  | idempotencyCollision existing =>
      "mailbox idempotency hash collided with existing key `" ++ existing ++ "`"
  | io path source => "mailbox I/O failed at " ++ path ++ ": " ++ source
  | crypto message => message

inductive MailboxItemKind
  | proactiveMessage
  | loveLetter
  | reminder
  deriving DecidableEq, Repr

structure MailboxSummary where
  id : String
  kind : MailboxItemKind
  subject : String
  reason : String
  read : Bool
  createdAtMillis : Nat
  deriving DecidableEq, Repr

structure EncryptedItem where
  schemaVersion : Nat
  id : String
  kind : MailboxItemKind
  subject : String
  reason : String
  idempotencyKey : String
  read : Bool
  createdAtMillis : Nat
  updatedAtMillis : Nat
  algorithm : String
  nonce : String
  ciphertext : String
  deriving DecidableEq, Repr

/-- `validate_text`. -/
def validateText (name value : String) (maximum : Nat) : Except MailboxError Unit :=
  refuseIf (isBlank value = true ∨ value.length > maximum)
    (.invalidItem (name ++ " must contain 1 to " ++ toString maximum ++ " characters"))

/-- `validate_id`. -/
def validateId (id : String) : Except MailboxError Unit :=
  refuseIf (id = "" ∨ id.utf8ByteSize > 64 ∨
      ¬ id.toList.all fun character => isAsciiAlphanumeric character || character == '-')
    (.invalidItem "mailbox item id is invalid")

namespace EncryptedItem

def summary (item : EncryptedItem) : MailboxSummary :=
  ⟨item.id, item.kind, item.subject, item.reason, item.read, item.createdAtMillis⟩

/-- The text that the encryption authenticates. -/
def aad (item : EncryptedItem) : String :=
  "yunxi-next-mailbox-v1|" ++ item.id ++ "|" ++ toString item.createdAtMillis

def validate (item : EncryptedItem) : Except MailboxError Unit := do
  refuseIf (item.schemaVersion ≠ mailboxSchemaVersion)
    (.invalidItem ("unsupported mailbox schema_version=" ++ toString item.schemaVersion))
  validateId item.id
  validateText "subject" item.subject maxSubjectChars
  validateText "reason" item.reason maxReasonChars
  validateText "idempotency key" item.idempotencyKey maxIdempotencyChars
  refuseIf (item.algorithm ≠ "chacha20poly1305")
    (.invalidItem "unsupported mailbox encryption algorithm")

end EncryptedItem

/-- `stable_hash64`. -/
def stableHash64 (value : List UInt8) : UInt64 :=
  value.foldl (fun hash byte => (hash ^^^ byte.toUInt64) * 0x100000001b3) 0xcbf29ce484222325

/-- A number in hexadecimal, with a digit for each of a number of places. -/
def hexPlaces : Nat → Nat → List Char
  | 0, _ => []
  | places + 1, value => hexPlaces places (value / 16) ++ [hexDigit (value % 16)]

/-- The id of the item of an idempotency key. -/
def itemId (idempotencyKey : String) : String :=
  "mail-" ++ String.ofList (hexPlaces 16 (stableHash64 idempotencyKey.toUTF8.data.toList).toNat)

example : itemId "task-1" = "mail-0b62516602ec4e06" := by decide

end Mailbox
end YunXi
