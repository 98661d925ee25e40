import YunXi.Mailbox.Store

/-!
# Keys in hexadecimal

A key is kept as 64 hexadecimal digits.  The reader measures its text in bytes and cuts it at
every second byte, so a text with other characters may halt it, and the parser of each byte
takes a plus sign in place of the first digit.
-/

namespace YunXi
namespace Mailbox

open Protocol (isAsciiDigit)
open Protocol.Value (hexDigit)

/-- `character.is_ascii_hexdigit()`. -/
def isAsciiHexDigit (character : Char) : Bool :=
  isAsciiDigit character || (97 ≤ character.toNat && character.toNat ≤ 102) ||
    (65 ≤ character.toNat && character.toNat ≤ 70)

/-- The text is exactly 64 hexadecimal digits. -/
def IsHexKey (value : String) : Prop :=
  value.toList.length = 64 ∧ ∀ character ∈ value.toList, isAsciiHexDigit character = true

/-- `value.to_ascii_lowercase()`. -/
def toAsciiLowercase (value : String) : String :=
  String.ofList (value.toList.map Char.toLower)

/-- The byte of an ASCII character. -/
def asciiByte (character : Char) : UInt8 := .ofNat character.toNat

theorem hexDigitValue_lt {byte : UInt8} {digit : Nat} (isDigit : hexDigitValue byte = some digit) :
    digit < 16 ∧ byte.toNat < 128 := by
  unfold hexDigitValue at isDigit
  grind

variable {character : Char}

/-- A digit is printed as itself, in lower case. -/
theorem hexDigit_of_value (ascii : character.toNat < 128) {digit : Nat}
    (isDigit : hexDigitValue (asciiByte character) = some digit) :
    hexDigit digit = character.toLower := by
  have everywhere : ∀ code < 128, ∀ digit < 16,
      hexDigitValue (.ofNat code) = some digit → hexDigit digit = (Char.ofNat code).toLower := by
    decide
  have same := everywhere character.toNat ascii digit (hexDigitValue_lt isDigit).1 isDigit
  rwa [Char.ofNat_toNat] at same

theorem isAsciiHexDigit_lt (isHex : isAsciiHexDigit character = true) :
    character.toNat < 128 := by
  unfold isAsciiHexDigit isAsciiDigit at isHex
  grind

theorem toNat_asciiByte (ascii : character.toNat < 128) :
    (asciiByte character).toNat = character.toNat := by
  unfold asciiByte
  rw [UInt8.toNat_ofNat']
  omega

/-- The parser has a value for every hexadecimal digit. -/
theorem exists_hexDigitValue (isHex : isAsciiHexDigit character = true) :
    ∃ digit, hexDigitValue (asciiByte character) = some digit := by
  have code := toNat_asciiByte (isAsciiHexDigit_lt isHex)
  rw [← Option.isSome_iff_exists]
  unfold isAsciiHexDigit isAsciiDigit at isHex
  unfold hexDigitValue
  rw [code]
  grind

/-- ASCII characters have one byte each. -/
theorem flatMap_utf8EncodeChar : ∀ {characters : List Char},
    (∀ character ∈ characters, character.toNat < 128) →
    characters.flatMap String.utf8EncodeChar = characters.map asciiByte
  | [], _ => rfl
  | character :: rest, ascii => by
      obtain ⟨small, restSmall⟩ := List.forall_mem_cons.mp ascii
      have one : character.utf8Size = 1 := by
        rw [Char.utf8Size_eq_one_iff, UInt32.le_iff_toNat_le]
        exact Nat.le_of_lt_succ small
      rw [List.flatMap_cons, List.map_cons, flatMap_utf8EncodeChar restSmall,
        String.utf8EncodeChar_eq_singleton one]
      rfl

variable {value : String}

theorem bytes_of_ascii (ascii : ∀ character ∈ value.toList, character.toNat < 128) :
    value.toUTF8.data.toList = value.toList.map asciiByte := by
  rw [String.toUTF8_eq_toByteArray, ← String.utf8Encode_toList, List.utf8Encode,
    List.toList_data_toByteArray, flatMap_utf8EncodeChar ascii]

/-- Two digits are read as the byte they stand for, which is printed as the two digits. -/
theorem radixByte_digits {first second : Char} (firstHex : isAsciiHexDigit first = true)
    (secondHex : isAsciiHexDigit second = true) :
    ∃ byte, radixByte (asciiByte first) (asciiByte second) = some byte ∧
      hexPlaces 2 byte.toNat = [first.toLower, second.toLower] := by
  obtain ⟨high, highEq⟩ := exists_hexDigitValue firstHex
  obtain ⟨low, lowEq⟩ := exists_hexDigitValue secondHex
  have highSmall := (hexDigitValue_lt highEq).1
  have lowSmall := (hexDigitValue_lt lowEq).1
  have notPlus : (asciiByte first).toNat ≠ 43 := by
    intro isPlus
    unfold hexDigitValue at highEq
    rw [isPlus] at highEq
    cases highEq
  refine ⟨.ofNat (high * 16 + low), ?_, ?_⟩
  · simp only [radixByte, lowEq, highEq, if_neg notPlus, Option.map_some]
  · have code : (UInt8.ofNat (high * 16 + low)).toNat = high * 16 + low := by
      rw [UInt8.toNat_ofNat']
      omega
    have highPart : (high * 16 + low) / 16 % 16 = high := by omega
    have lowPart : (high * 16 + low) % 16 = low := by omega
    rw [code]
    unfold hexPlaces hexPlaces hexPlaces
    rw [highPart, lowPart, hexDigit_of_value (isAsciiHexDigit_lt firstHex) highEq,
      hexDigit_of_value (isAsciiHexDigit_lt secondHex) lowEq]
    rfl

/-- An ASCII character is not the rest of another one. -/
theorem isContinuation_asciiByte (ascii : character.toNat < 128) :
    isContinuation (asciiByte character) = false := by
  unfold isContinuation
  rw [toNat_asciiByte ascii]
  grind

/-- An even number of digits is read as a key, which is printed as the digits. -/
theorem decodeHexPairs_digits : ∀ {characters : List Char} {size : Nat},
    characters.length = 2 * size →
    (∀ character ∈ characters, isAsciiHexDigit character = true) →
    ∃ key, decodeHexPairs (characters.map asciiByte) = .ok key ∧ key.length = size ∧
      key.flatMap (fun byte => hexPlaces 2 byte.toNat) = characters.map Char.toLower
  | [], size, even, _ => by
      rw [List.length_nil] at even
      exact ⟨[], rfl, by rw [List.length_nil]; omega, rfl⟩
  | [_], size, even, _ => by simp at even; omega
  | first :: second :: rest, size, even, areHex => by
      obtain ⟨firstHex, secondHex, restHex⟩ :
          isAsciiHexDigit first = true ∧ isAsciiHexDigit second = true ∧
            ∀ character ∈ rest, isAsciiHexDigit character = true := by simpa using areHex
      have shorter : rest.length = 2 * (size - 1) := by
        rw [List.length_cons, List.length_cons] at even
        omega
      obtain ⟨key, reads, length, prints⟩ := decodeHexPairs_digits shorter restHex
      obtain ⟨byte, isByte, printed⟩ := radixByte_digits firstHex secondHex
      have whole : (rest.map asciiByte).head?.any isContinuation = false := by
        cases rest with
        | nil => rfl
        | cons next more =>
            exact isContinuation_asciiByte
              (isAsciiHexDigit_lt (restHex next List.mem_cons_self))
      refine ⟨byte :: key, ?_, ?_, ?_⟩
      · rw [List.map_cons, List.map_cons, decodeHexPairs, whole, isByte, reads]
        rfl
      · rw [List.length_cons, length]
        rw [List.length_cons, List.length_cons] at even
        omega
      · rw [List.flatMap_cons, prints, printed, List.map_cons, List.map_cons]
        rfl

theorem length_toUTF8 (value : String) :
    value.toUTF8.data.toList.length = value.utf8ByteSize := by
  rw [String.toUTF8_eq_toByteArray, ← String.size_toByteArray, ByteArray.size,
    Array.length_toList]

/-- A text of 64 ASCII characters is read two characters at a time. -/
theorem decodeHexKey_of_ascii (length : value.toList.length = 64)
    (ascii : ∀ character ∈ value.toList, character.toNat < 128) :
    decodeHexKey value = decodeHexPairs (value.toList.map asciiByte) := by
  have bytes := bytes_of_ascii ascii
  have sized : value.utf8ByteSize = 64 := by
    rw [← length_toUTF8, bytes, List.length_map, length]
  rw [decodeHexKey, refuseIf, if_neg (by rw [sized]; decide), bytes]
  rfl

/-- 64 digits are a key, which is printed as the digits in lower case. -/
theorem decodeHexKey_digits (isHexKey : IsHexKey value) :
    ∃ key, decodeHexKey value = .ok key ∧ key.length = 32 ∧
      encodeHexKey key = toAsciiLowercase value := by
  obtain ⟨length, areHex⟩ := isHexKey
  have even : value.toList.length = 2 * 32 := length
  obtain ⟨key, reads, size, prints⟩ := decodeHexPairs_digits even areHex
  refine ⟨key, ?_, size, ?_⟩
  · rw [decodeHexKey_of_ascii length fun character isIn =>
      isAsciiHexDigit_lt (areHex character isIn), reads]
  · rw [encodeHexKey, prints, toAsciiLowercase]

/-- The two digits of a byte are read as it. -/
theorem radixByte_hexPlaces (byte : UInt8) :
    ∃ first second, hexPlaces 2 byte.toNat = [first, second] ∧ first.toNat < 128 ∧
      second.toNat < 128 ∧ radixByte (asciiByte first) (asciiByte second) = some byte := by
  have everywhere : ∀ code < 256, (hexDigit (code / 16 % 16)).toNat < 128 ∧
      (hexDigit (code % 16)).toNat < 128 ∧
        radixByte (asciiByte (hexDigit (code / 16 % 16))) (asciiByte (hexDigit (code % 16))) =
          some (.ofNat code) := by
    decide +kernel
  obtain ⟨firstSmall, secondSmall, reads⟩ := everywhere byte.toNat byte.toNat_lt
  rw [UInt8.ofNat_toNat] at reads
  exact ⟨_, _, rfl, firstSmall, secondSmall, reads⟩

/-- Every key is read back from its digits. -/
theorem decodeHexPairs_hexPlaces : ∀ key : List UInt8,
    (∀ character ∈ key.flatMap fun byte => hexPlaces 2 byte.toNat, character.toNat < 128) ∧
      decodeHexPairs ((key.flatMap fun byte => hexPlaces 2 byte.toNat).map asciiByte) = .ok key
  | [] => ⟨nofun, rfl⟩
  | byte :: rest => by
      obtain ⟨restAscii, reads⟩ := decodeHexPairs_hexPlaces rest
      obtain ⟨first, second, places, firstSmall, secondSmall, isByte⟩ :=
        radixByte_hexPlaces byte
      rw [List.flatMap_cons, places]
      constructor
      · rintro character (_ | ⟨_, _ | ⟨_, isIn⟩⟩)
        · exact firstSmall
        · exact secondSmall
        · exact restAscii character isIn
      · have whole : ((rest.flatMap fun byte => hexPlaces 2 byte.toNat).map
            asciiByte).head?.any isContinuation = false := by
          cases digits : rest.flatMap fun byte => hexPlaces 2 byte.toNat with
          | nil => rfl
          | cons next more =>
              rw [digits] at restAscii
              exact isContinuation_asciiByte (restAscii next List.mem_cons_self)
        rw [List.cons_append, List.cons_append, List.nil_append, List.map_cons, List.map_cons,
          decodeHexPairs, whole, isByte, reads]
        rfl

theorem decodeHexKey_encodeHexKey {key : List UInt8} (length : key.length = 32) :
    decodeHexKey (encodeHexKey key) = .ok key := by
  obtain ⟨ascii, reads⟩ := decodeHexPairs_hexPlaces key
  have places : ∀ byte ∈ key, (hexPlaces 2 byte.toNat).length = 2 := fun _ _ => rfl
  rw [decodeHexKey_of_ascii, encodeHexKey, String.toList_ofList, reads]
  · rw [encodeHexKey, String.toList_ofList, List.length_flatMap, List.map_congr_left places,
      List.map_const', List.sum_replicate_nat, length]
  · rw [encodeHexKey, String.toList_ofList]
    exact ascii

/-- The two bytes at an index are a digit that follows another one or a plus sign. -/
def Takes (bytes : List UInt8) (index : Nat) : Prop :=
  ∃ first second, bytes[2 * index]? = some first ∧ bytes[2 * index + 1]? = some second ∧
    (radixByte first second).isSome

/-- The two bytes at an index end within a character. -/
def Cuts (bytes : List UInt8) (index : Nat) : Prop :=
  bytes[2 * index + 2]?.any isContinuation = true

/-- The first two bytes that are no byte of a key end at the end of a character. -/
def Stops (bytes : List UInt8) : Prop :=
  ∃ index, 2 * index + 1 < bytes.length ∧ (∀ earlier < index, Takes bytes earlier) ∧
    (∀ earlier ≤ index, ¬ Cuts bytes earlier) ∧ ¬ Takes bytes index

/-- The reader goes on after a byte of a key. -/
theorem stops_cons {first second : UInt8} {rest : List UInt8} :
    Stops (first :: second :: rest) ↔
      rest.head?.any isContinuation = false ∧
        ((radixByte first second).isSome → Stops rest) := by
  have cutsHere : Cuts (first :: second :: rest) 0 ↔
      rest.head?.any isContinuation = true := by
    unfold Cuts
    rw [List.head?_eq_getElem?]
    rfl
  have takesHere : Takes (first :: second :: rest) 0 ↔ (radixByte first second).isSome := by
    constructor
    · rintro ⟨_, _, ⟨⟩, ⟨⟩, takes⟩
      exact takes
    · exact fun takes => ⟨first, second, rfl, rfl, takes⟩
  rw [← Bool.not_eq_true, ← cutsHere, ← takesHere]
  constructor
  · rintro ⟨index, inside, takes, whole, stops⟩
    refine ⟨whole 0 (Nat.zero_le _), fun taken => ?_⟩
    cases index with
    | zero => exact absurd taken stops
    | succ index =>
        refine ⟨index, ?_, fun earlier before => takes (earlier + 1) (Nat.succ_lt_succ before),
          fun earlier before => whole (earlier + 1) (Nat.succ_le_succ before), stops⟩
        simp only [List.length_cons] at inside
        omega
  · rintro ⟨wholeHere, later⟩
    by_cases taken : Takes (first :: second :: rest) 0
    · obtain ⟨index, inside, takes, whole, stops⟩ := later taken
      refine ⟨index + 1, ?_, ?_, ?_, stops⟩
      · simp only [List.length_cons]
        omega
      · rintro (_ | earlier) before
        · exact taken
        · exact takes earlier (Nat.lt_of_succ_lt_succ before)
      · rintro (_ | earlier) before
        · exact wholeHere
        · exact whole earlier (Nat.le_of_succ_le_succ before)
    · refine ⟨0, ?_, fun _ impossible => absurd impossible (Nat.not_lt_zero _), ?_, taken⟩
      · simp only [List.length_cons]
        omega
      · intro earlier before
        rw [Nat.le_zero.mp before]
        exact wholeHere

theorem not_stops_of_short {bytes : List UInt8} (short : bytes.length < 2) : ¬ Stops bytes := by
  rintro ⟨index, inside, -⟩
  omega

/-- The reader refuses a text where it stops, and panics or reads it otherwise. -/
theorem decodeHexPairs_ends : ∀ bytes : List UInt8,
    (Stops bytes ∧ decodeHexPairs bytes =
        .error (.failed (.crypto "mailbox key contains invalid hex"))) ∨
      (¬ Stops bytes ∧ (decodeHexPairs bytes = .error .panicked ∨
        ∃ key, decodeHexPairs bytes = .ok key))
  | [] => .inr ⟨not_stops_of_short (by decide), .inr ⟨[], rfl⟩⟩
  | [_] => .inr ⟨not_stops_of_short Nat.one_lt_two, .inr ⟨[], rfl⟩⟩
  | first :: second :: rest => by
      rw [stops_cons, decodeHexPairs]
      by_cases cut : rest.head?.any isContinuation = true
      · rw [if_pos cut]
        exact .inr ⟨fun stops => absurd (cut.symm.trans stops.1) (by decide), .inl rfl⟩
      · rw [if_neg cut]
        rw [Bool.not_eq_true] at cut
        cases isByte : radixByte first second with
        | none => exact .inl ⟨⟨cut, nofun⟩, rfl⟩
        | some byte =>
            rcases decodeHexPairs_ends rest with ⟨stops, reads⟩ | ⟨goesOn, reads | ⟨key, reads⟩⟩
            · left
              rw [reads]
              exact ⟨⟨cut, fun _ => stops⟩, rfl⟩
            · right
              rw [reads]
              exact ⟨fun stops => goesOn (stops.2 rfl), .inl rfl⟩
            · right
              rw [reads]
              exact ⟨fun stops => goesOn (stops.2 rfl), .inr ⟨byte :: key, rfl⟩⟩

/-- The text is read without a panic, exactly if it is 64 digits, and then it is printed back
in lower case. -/
structure ReadExactly (value : String) : Prop where
  total : decodeHexKey value ≠ .error .panicked
  accepts : (∃ key, decodeHexKey value = .ok key) ↔ IsHexKey value
  prints : ∀ key, decodeHexKey value = .ok key →
    key.length = 32 ∧ encodeHexKey key = toAsciiLowercase value

theorem ReadExactly.of_digits (isHexKey : IsHexKey value) :
    ReadExactly value := by
  obtain ⟨key, reads, size, prints⟩ := decodeHexKey_digits isHexKey
  refine ⟨?_, ⟨fun _ => isHexKey, fun _ => ⟨key, reads⟩⟩, fun other readsOther => ?_⟩
  · rw [reads]
    exact nofun
  · rw [reads] at readsOther
    cases readsOther
    exact ⟨size, prints⟩

/-- A refused text is read exactly, for digits are not refused. -/
theorem ReadExactly.of_refused {error : MailboxError}
    (refused : decodeHexKey value = .error (.failed error)) : ReadExactly value := by
  have notOk : ∀ key, decodeHexKey value ≠ .ok key := by
    intro key
    rw [refused]
    exact nofun
  refine ⟨?_, ⟨fun ⟨key, reads⟩ => absurd reads (notOk key), fun isHexKey => ?_⟩,
    fun key reads => absurd reads (notOk key)⟩
  · rw [refused]
    exact nofun
  · obtain ⟨key, reads, -⟩ := decodeHexKey_digits isHexKey
    exact ⟨key, reads⟩

theorem ReadExactly.of_size (otherSize : value.utf8ByteSize ≠ 64) :
    ReadExactly value := by
  have refused : decodeHexKey value =
      .error (.failed (.crypto "mailbox key must contain 64 hex characters")) := by
    rw [decodeHexKey, refuseIf, if_pos otherSize]
    rfl
  exact .of_refused refused

theorem decodeHexKey_of_size (sized : value.utf8ByteSize = 64) :
    decodeHexKey value = decodeHexPairs value.toUTF8.data.toList := by
  rw [decodeHexKey, refuseIf, if_neg (not_not.mpr sized)]
  rfl

/-- Texts that are read exactly: those of another size, the digits, and those that stop the
reader. -/
theorem decodeHexKey_exact (value : String) :
    (ReadExactly value ↔
      value.utf8ByteSize ≠ 64 ∨ IsHexKey value ∨ Stops value.toUTF8.data.toList) ∧
      ∀ key : List UInt8, key.length = 32 → decodeHexKey (encodeHexKey key) = .ok key := by
  refine ⟨?_, fun key length => decodeHexKey_encodeHexKey length⟩
  constructor
  · intro exactly
    by_cases sized : value.utf8ByteSize = 64
    · have reads := decodeHexKey_of_size sized
      rcases decodeHexPairs_ends value.toUTF8.data.toList with
        ⟨stops, -⟩ | ⟨-, panics | ⟨key, isKey⟩⟩
      · exact .inr (.inr stops)
      · exact absurd (reads.trans panics) exactly.total
      · exact .inr (.inl (exactly.accepts.mp ⟨key, reads.trans isKey⟩))
    · exact .inl sized
  · rintro (otherSize | isHexKey | stops)
    · exact .of_size otherSize
    · exact .of_digits isHexKey
    · by_cases sized : value.utf8ByteSize = 64
      · rcases decodeHexPairs_ends value.toUTF8.data.toList with ⟨-, reads⟩ | ⟨goesOn, -⟩
        · exact .of_refused ((decodeHexKey_of_size sized).trans reads)
        · exact absurd stops goesOn
      · exact .of_size sized

/-- A key of sevens is read back. -/
theorem decodeHexKey_exact_sevens :
    decodeHexKey (encodeHexKey (List.replicate 32 7)) = .ok (List.replicate 32 7) :=
  (decodeHexKey_exact "").2 (List.replicate 32 7) rfl

/-- A text of 64 bytes whose second byte begins a longer character. -/
def cutText : String := "0\u00e9" ++ String.ofList (List.replicate 61 '0')

/-- A text of 32 signed digits. -/
def signedText : String := String.ofList ((List.replicate 32 ['+', '1']).flatten)

/-- The first of them halts the reader, and the second is read, but is no text of digits. -/
theorem decodeHexKey_inexact : ¬ ReadExactly cutText ∧ ¬ ReadExactly signedText := by
  have halts : decodeHexKey cutText = .error .panicked := by decide
  have reads : decodeHexKey signedText = .ok (List.replicate 32 1) := by decide
  have pairs : signedText.toList = (List.replicate 32 ['+', '1']).flatten := String.toList_ofList
  have signed : '+' ∈ signedText.toList := by
    rw [pairs, List.mem_flatten]
    exact ⟨['+', '1'], List.mem_replicate.mpr ⟨by decide, rfl⟩, List.mem_cons_self⟩
  have notDigits : ¬ IsHexKey signedText := fun isKey => absurd (isKey.2 '+' signed) (by decide)
  exact ⟨fun exactly => exactly.total halts,
    fun exactly => notDigits (exactly.accepts.mp ⟨_, reads⟩)⟩

end Mailbox
end YunXi
