import Mathlib.Data.List.Flatten
import Mathlib.Data.List.Infix

/-!
# The bytes of characters

The bytes of a character tell where it ends, so bytes that are cut somewhere can be decoded only
where no character is cut in two.  Only the first of these bytes can start a character, so a text
that is found among the bytes of characters is found among the characters.
-/

namespace YunXi
namespace Utf8

/-- The bytes of some characters, one character after the other. -/
def encode (characters : List Char) : List UInt8 := characters.flatMap String.utf8EncodeChar

@[simp] theorem encode_nil : encode [] = [] := rfl

@[simp] theorem encode_cons (character : Char) (rest : List Char) :
    encode (character :: rest) = String.utf8EncodeChar character ++ encode rest := rfl

@[simp] theorem encode_append (first second : List Char) :
    encode (first ++ second) = encode first ++ encode second := List.flatMap_append

/-- The bytes of a text are those of its characters. -/
theorem toList_toUTF8 (text : String) : text.toUTF8.data.toList = encode text.toList := by
  rw [String.toUTF8_eq_toByteArray, ← String.utf8Encode_toList, List.utf8Encode,
    List.toList_data_toByteArray]
  rfl

theorem encode_eq_nil_iff {characters : List Char} : encode characters = [] ↔ characters = [] := by
  cases characters with
  | nil => exact iff_of_true rfl rfl
  | cons character rest =>
      refine iff_of_false (fun empty => ?_) (List.cons_ne_nil _ _)
      exact String.utf8EncodeChar_ne_nil (List.append_eq_nil_iff.mp empty).1

/-- Fewer characters have fewer bytes. -/
theorem length_encode_le {first second : List Char} (part : first.Sublist second) :
    (encode first).length ≤ (encode second).length :=
  (part.flatMap _).length_le

/-- The bytes of two characters begin alike only if the characters are the same. -/
theorem eq_of_encode_append {first second : Char} {rest rest' : List UInt8}
    (same : String.utf8EncodeChar first ++ rest = String.utf8EncodeChar second ++ rest') :
    first = second := by
  have decoded : ∀ (character : Char) (rest : List UInt8),
      (String.utf8EncodeChar character ++ rest).toByteArray.utf8DecodeChar? 0 = some character := by
    intro character rest
    rw [List.toByteArray_append, ByteArray.utf8DecodeChar?_utf8EncodeChar_append]
  have both := decoded first rest
  rw [same, decoded second rest'] at both
  exact (Option.some.inj both).symm

/-- Characters whose bytes begin those of others begin the others. -/
theorem prefix_of_encode {first characters : List Char}
    (begins : encode first <+: encode characters) : first <+: characters := by
  induction first generalizing characters with
  | nil => exact List.nil_prefix
  | cons character first ih =>
      cases characters with
      | nil => cases encode_eq_nil_iff.mp (List.prefix_nil.mp begins)
      | cons other characters =>
          obtain ⟨rest, same⟩ := begins
          rw [encode_cons, encode_cons, List.append_assoc] at same
          obtain rfl := eq_of_encode_append same
          exact List.cons_prefix_cons.mpr
            ⟨rfl, ih ⟨rest, List.append_cancel_left same⟩⟩

theorem encode_injective : Function.Injective encode := by
  intro first second same
  have begins : first <+: second := prefix_of_encode (same ▸ List.prefix_rfl)
  have ends : second <+: first := prefix_of_encode (same ▸ List.prefix_rfl)
  exact begins.eq_of_length_le ends.length_le

/-- `String::from_utf8`. -/
def decode (bytes : List UInt8) : Option String := String.fromUTF8? ⟨bytes.toArray⟩

theorem decode_eq_some {bytes : List UInt8} {text : String} :
    decode bytes = some text ↔ bytes = encode text.toList := by
  rw [← toList_toUTF8]
  constructor
  · intro decoded
    unfold decode String.fromUTF8? at decoded
    split at decoded
    case isTrue valid =>
      cases decoded
      rfl
    case isFalse => cases decoded
  · rintro rfl
    unfold decode String.fromUTF8?
    rw [Array.toArray_toList]
    exact dif_pos text.isValidUTF8

/-- Bytes of characters that are cut somewhere can be decoded if no character is cut in two. -/
theorem decode_take {characters : List Char} {count : Nat}
    (within : count ≤ (encode characters).length) :
    (∃ text, decode ((encode characters).take count) = some text) ↔
      ∃ first, first <+: characters ∧ (encode first).length = count := by
  constructor
  · rintro ⟨text, decoded⟩
    have bytes := decode_eq_some.mp decoded
    refine ⟨text.toList, prefix_of_encode (bytes ▸ List.take_prefix _ _), ?_⟩
    rw [← bytes, List.length_take, Nat.min_eq_left within]
  · rintro ⟨first, ⟨rest, rfl⟩, rfl⟩
    refine ⟨String.ofList first, decode_eq_some.mpr ?_⟩
    rw [encode_append, List.take_left, String.toList_ofList]

/-- The characters that are written as one byte. -/
def IsAscii (characters : List Char) : Prop := ∀ character ∈ characters, character.utf8Size = 1

instance (characters : List Char) : Decidable (IsAscii characters) :=
  List.decidableBAll _ characters

theorem utf8Size_of_toNat_lt {character : Char} (small : character.toNat < 128) :
    character.utf8Size = 1 := by
  rw [Char.utf8Size_eq_one_iff, UInt32.le_iff_toNat_le]
  exact Nat.le_of_lt_succ small

/-- ASCII characters have as many bytes as there are of them. -/
theorem length_encode_of_isAscii {characters : List Char} (ascii : IsAscii characters) :
    (encode characters).length = characters.length := by
  induction characters with
  | nil => rfl
  | cons character rest ih =>
      obtain ⟨one, ascii⟩ := List.forall_mem_cons.mp ascii
      rw [encode_cons, List.length_append, String.length_utf8EncodeChar, one,
        ih ascii, List.length_cons, Nat.add_comm]

/-- Only the first byte of a character starts one. -/
theorem exists_first (character : Char) :
    ∃ first later, String.utf8EncodeChar character = first :: later ∧ first.IsUTF8FirstByte ∧
      ∀ byte ∈ later, ¬ byte.IsUTF8FirstByte := by
  have starts : ∀ (index : Nat) (within : index < (String.utf8EncodeChar character).length),
      (String.utf8EncodeChar character)[index].IsUTF8FirstByte ↔ index = 0 :=
    fun _ _ => UInt8.isUTF8FirstByte_getElem_utf8EncodeChar
  cases bytes : String.utf8EncodeChar character with
  | nil => exact absurd bytes String.utf8EncodeChar_ne_nil
  | cons first later =>
      simp only [bytes] at starts
      refine ⟨first, later, rfl, (starts 0 (Nat.succ_pos _)).mpr rfl, fun byte among isFirst => ?_⟩
      obtain ⟨index, within, rfl⟩ := List.getElem_of_mem among
      exact Nat.succ_ne_zero index ((starts (index + 1) (Nat.succ_lt_succ within)).mp isFirst)

/-- Characters whose bytes are found among those of others are found at the same place among the
others. -/
theorem exists_append_of_encode
    {pattern characters : List Char}
    {first rest : List UInt8}
    (filled : pattern ≠ [])
    (same : encode characters = first ++ (encode pattern ++ rest)) :
    ∃ before after, characters = before ++ (pattern ++ after) ∧ encode before = first ∧
      encode after = rest := by
  induction characters generalizing first with
  | nil =>
      rw [encode_nil, eq_comm, List.append_eq_nil_iff, List.append_eq_nil_iff] at same
      exact absurd (encode_eq_nil_iff.mp same.2.1) filled
  | cons character characters ih =>
      cases first with
      | nil =>
          rw [List.nil_append] at same
          obtain ⟨after, isCharacters⟩ := prefix_of_encode ⟨rest, same.symm⟩
          rw [← isCharacters, encode_append] at same
          exact ⟨[], after, isCharacters.symm, rfl, List.append_cancel_left same⟩
      | cons byte first =>
          obtain ⟨start, later, bytes, -, inside⟩ := exists_first character
          rw [encode_cons, bytes, List.cons_append, List.cons_append, List.cons_eq_cons] at same
          obtain ⟨rfl, same⟩ := same
          have goesOn : ∃ more, first = later ++ more ∧
              encode characters = more ++ (encode pattern ++ rest) := by
            rcases List.append_eq_append_iff.mp same with ⟨more, isFirst, isRest⟩ | cut
            · exact ⟨more, isFirst, isRest⟩
            obtain ⟨more, isLater, isRest⟩ := cut
            cases more with
            | nil => exact ⟨[], by simpa using isLater.symm, isRest.symm⟩
            | cons byte more =>
                obtain ⟨one, others, rfl⟩ := List.exists_cons_of_ne_nil filled
                obtain ⟨oneStart, oneLater, oneBytes, isFirst, -⟩ := exists_first one
                rw [encode_cons, oneBytes] at isRest
                obtain ⟨rfl, -⟩ := List.cons_eq_cons.mp isRest
                refine absurd isFirst (inside _ ?_)
                rw [isLater]
                exact List.mem_append_right _ List.mem_cons_self
          obtain ⟨more, rfl, sameRest⟩ := goesOn
          obtain ⟨before, after, rfl, rfl, isAfter⟩ := ih sameRest
          refine ⟨character :: before, after, rfl, ?_, isAfter⟩
          rw [encode_cons, bytes, List.cons_append]

/-- Characters are found where their bytes are. -/
theorem infix_of_encode
    {pattern characters : List Char}
    (found : encode pattern <:+: encode characters) :
    pattern <:+: characters := by
  by_cases filled : pattern = []
  · rw [filled]
    exact List.nil_infix
  obtain ⟨first, rest, same⟩ := found
  rw [List.append_assoc] at same
  obtain ⟨before, after, rfl, -, -⟩ := exists_append_of_encode filled same.symm
  exact ⟨before, after, List.append_assoc _ _ _⟩

end Utf8
end YunXi
