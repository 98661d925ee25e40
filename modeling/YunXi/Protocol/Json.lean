import YunXi.Protocol.Text
import Mathlib.Algebra.Ring.Nat

/-!
# JSON values and their compact encoding

`serde_json` writes values without spaces and escapes only quotation marks,
backslashes and control characters.  A number keeps the text the library prints
for it.  Sizes are those of the written text in bytes.
-/

namespace YunXi
namespace Protocol

/-- A `serde_json` value.  A number is given by its printed text, and an object
by its members in iteration order. -/
inductive Value
  | null
  | bool (value : Bool)
  | number (text : String)
  | string (value : String)
  | array (items : List Value)
  | object (members : List (String × Value))
  deriving Repr

namespace Value

def isObject : Value → Bool
  | .object _ => true
  | _ => false

/-- A hexadecimal digit as the escape writer prints it. -/
def hexDigit (digit : Nat) : Char :=
  if digit < 10 then Char.ofNat (48 + digit) else Char.ofNat (87 + digit)

/-- The escaped form of one character inside a JSON string. -/
def escapeCharacter (character : Char) : List Char :=
  match character.toNat with
  | 0x22 => ['\\', '\"']
  | 0x5C => ['\\', '\\']
  | 0x08 => ['\\', 'b']
  | 0x09 => ['\\', 't']
  | 0x0A => ['\\', 'n']
  | 0x0C => ['\\', 'f']
  | 0x0D => ['\\', 'r']
  | code =>
      if code < 0x20 then
        ['\\', 'u', '0', '0', hexDigit (code / 16), hexDigit (code % 16)]
      else [character]

def writeString (value : String) : List Char :=
  '\"' :: value.toList.flatMap escapeCharacter ++ ['\"']

mutual

/-- The compact text of a value. -/
def write : Value → List Char
  | .null => "null".toList
  | .bool value => if value then "true".toList else "false".toList
  | .number text => text.toList
  | .string value => writeString value
  | .array items => '[' :: writeItems items ++ [']']
  | .object members => '\x7b' :: writeMembers members ++ ['\x7d']

/-- Array items separated by commas. -/
def writeItems : List Value → List Char
  | [] => []
  | [item] => write item
  | item :: next :: items => write item ++ ',' :: writeItems (next :: items)

/-- Object members separated by commas. -/
def writeMembers : List (String × Value) → List Char
  | [] => []
  | [(key, value)] => writeString key ++ ':' :: write value
  | (key, value) :: next :: members =>
      writeString key ++ ':' :: write value ++ ',' :: writeMembers (next :: members)

end

/-- `serde_json::to_string`. -/
def toText (value : Value) : String :=
  String.ofList value.write

/-- `serde_json::to_vec(value).len()`. -/
def encodedSize (value : Value) : Nat :=
  (value.write.map Char.utf8Size).sum

/-- An unsigned integer as a JSON number. -/
def ofNat (value : Nat) : Value := .number (toString value)

end Value

example :
    (Value.object [("a", .array [.null, .string "x\"y"]), ("b", .ofNat 12)]).toText =
      "\x7b\"a\":[null,\"x\\\"y\"],\"b\":12\x7d" := by decide

end Protocol
end YunXi
