import YunXi.WebGateway.Grammar

/-!
# Printed requests

A request is printed with one space between the words of its request line and one line for each
header.  What was read of any bytes is printed and read again as it was.
-/

namespace YunXi
namespace WebGateway

open Protocol (isWhiteSpace)
open Strings (trimMatches trimEndMatches startsWith toNat_toLower)

variable {text : String}

theorem trimEndMatches_eq_empty {test : Char → Bool}
    (dropped : ∀ character ∈ text.toList, test character = true) : trimEndMatches test text = "" := by
  unfold trimEndMatches
  rw [List.rdropWhile_eq_nil_iff.mpr dropped]

/-- Around a text that starts and ends with nothing to trim, the rest is trimmed. -/
theorem trimMatches_around {test : Char → Bool} {before core after : String} (filled : core ≠ "")
    (plain : ∀ character ∈ core.toList, test character = false)
    (first : ∀ character ∈ before.toList, test character = true)
    (last : ∀ character ∈ after.toList, test character = true) :
    trimMatches test (before ++ (core ++ after)) = core := by
  have starts : core.toList.dropWhile test = core.toList := by
    refine List.dropWhile_eq_self_iff.mpr fun some => ?_
    rw [plain _ (List.getElem_mem some)]
    exact Bool.false_ne_true
  have ends : core.toList.rdropWhile test = core.toList := by
    refine List.rdropWhile_eq_self_iff.mpr fun some => ?_
    rw [plain _ (List.getLast_mem some)]
    exact Bool.false_ne_true
  rw [Strings.trimMatches_append_left _ (List.all_eq_true.mpr first),
    Strings.trimMatches_append after (fun empty => filled (String.toList_eq_nil_iff.mp empty)) starts
      ends, trimEndMatches_eq_empty last, String.append_empty]

/-- What is trimmed is around what is left. -/
theorem exists_trimMatches (test : Char → Bool) (text : String) :
    ∃ before after : String, text = before ++ (trimMatches test text ++ after) ∧
      (∀ character ∈ before.toList, test character = true) ∧
      ∀ character ∈ after.toList, test character = true := by
  refine ⟨String.ofList (text.toList.takeWhile test),
    String.ofList ((text.toList.dropWhile test).rtakeWhile test), ?_, ?_, ?_⟩
  · unfold trimMatches
    rw [← String.ofList_append, List.rdropWhile_append_rtakeWhile, ← String.ofList_append,
      List.takeWhile_append_dropWhile, String.ofList_toList]
  · rw [String.toList_ofList]
    exact fun character member => List.mem_takeWhile_imp member
  · rw [String.toList_ofList]
    exact fun character member => List.mem_rtakeWhile_imp member

theorem mem_of_mem_trimMatches {test : Char → Bool} {character : Char}
    (member : character ∈ (trimMatches test text).toList) : character ∈ text.toList := by
  unfold trimMatches at member
  rw [String.toList_ofList] at member
  exact (List.dropWhile_suffix test).subset ((List.rdropWhile_prefix test _).subset member)

section Forms

variable {form : RequestForm} {method target : String}

theorem splitWhitespace_eq (text : String) :
    splitWhitespace text = (Words.words isWhiteSpace text.toList).map String.ofList := by
  unfold splitWhitespace Words.words
  congr 1
  refine List.filter_congr fun word _ => ?_
  cases word <;> rfl

/-- Three words with single spaces between them, and more white space behind the second. -/
theorem splitWhitespace_spaced {first second third blank : String}
    (firstWord : first ≠ "" ∧ ∀ character ∈ first.toList, isWhiteSpace character = false)
    (secondWord : second ≠ "" ∧ ∀ character ∈ second.toList, isWhiteSpace character = false)
    (isBlank : ∀ character ∈ blank.toList, isWhiteSpace character = true)
    (thirdWord : third ≠ "" ∧ ∀ character ∈ third.toList, isWhiteSpace character = false) :
    splitWhitespace (first ++ " " ++ (second ++ blank) ++ " " ++ third) =
      [first, second, third] := by
  have filled : ∀ {text : String}, text ≠ "" → text.toList ≠ [] := fun some empty =>
    some (String.toList_eq_nil_iff.mp empty)
  have space : ∀ character ∈ " ".toList, isWhiteSpace character = true :=
    List.all_eq_true.mp (by decide)
  have ends : Words.Ends isWhiteSpace (blank.toList ++ (" ".toList ++ third.toList)) := by
    rw [← List.append_assoc]
    exact Words.ends_append (List.append_ne_nil_of_right_ne_nil _ (by decide))
      (List.forall_mem_append.mpr ⟨isBlank, space⟩) _
  rw [splitWhitespace_eq]
  simp only [String.toList_append, List.append_assoc]
  rw [Words.words_append_word (filled firstWord.1) firstWord.2
      (Words.ends_append (by decide) space _),
    Words.words_append_blank space, Words.words_append_word (filled secondWord.1) secondWord.2 ends,
    Words.words_append_blank isBlank, Words.words_append_blank space,
    Words.words_of_word (filled thirdWord.1) thirdWord.2]
  simp only [List.map_cons, List.map_nil, String.ofList_toList]

theorem httpVersion_word :
    httpVersion ≠ "" ∧ ∀ character ∈ httpVersion.toList, isWhiteSpace character = false := by
  refine ⟨by decide, fun character among => ?_⟩
  have all : (httpVersion.toList.all fun character => !isWhiteSpace character) = true := by decide
  simpa using List.all_eq_true.mp all character among

theorem word_of_isHttpToken (token : isHttpToken text = true) :
    text ≠ "" ∧ ∀ character ∈ text.toList, isWhiteSpace character = false := by
  obtain ⟨filled, characters⟩ := isHttpToken_iff.mp token
  exact ⟨filled, fun character member => not_isWhiteSpace_of_token (characters character member)⟩

theorem ne_empty_of_startsWith (starts : startsWith "/" text = true) :
    text ≠ "" := by
  rintro rfl
  obtain ⟨rest, same⟩ := startsWith_slash.mp starts
  cases same

theorem notMem_return {characters : List Char}
    (plain : ∀ character ∈ characters, isWhiteSpace character = false) : '\r' ∉ characters :=
  fun found => nomatch plain _ found

theorem notMem_return_of_plain {characters : List Char}
    (plain : ∀ character ∈ characters, headerControl character = false) : '\r' ∉ characters :=
  fun found => nomatch plain _ found

/-- A request line with single spaces is read as its words. -/
theorem splitWhitespace_requestLine {blank : String}
    (token : isHttpToken method = true)
    (originForm : startsWith "/" target = true)
    (word : ∀ character ∈ target.toList, isWhiteSpace character = false)
    (isBlank : ∀ character ∈ blank.toList, isWhiteSpace character = true) :
    splitWhitespace (method ++ " " ++ (target ++ blank) ++ " " ++ httpVersion) =
      [method, target, httpVersion] :=
  splitWhitespace_spaced (word_of_isHttpToken token) ⟨ne_empty_of_startsWith originForm, word⟩
    isBlank httpVersion_word

theorem unbroken_requestLine (token : isHttpToken method = true)
    (word : ∀ character ∈ target.toList, isWhiteSpace character = false) :
    Unbroken (method ++ " " ++ target ++ " " ++ httpVersion).toList := by
  apply unbroken_of_notMem
  simp only [String.toList_append, List.mem_append, not_or]
  exact ⟨⟨⟨⟨notMem_return (word_of_isHttpToken token).2, by decide⟩, notMem_return word⟩,
    by decide⟩, by decide⟩

end Forms

/-- The form in which a request is printed. -/
def HttpRequest.form (request : HttpRequest) : RequestForm where
  requestLine := request.method ++ " " ++ request.path ++ " " ++ httpVersion
  fields := request.headers.entries
  body := request.body

section Printing

variable {form : RequestForm} {method target : String} {request : HttpRequest}

theorem normalizedField_normalizedField (field : String × String) :
    normalizedField (normalizedField field) = normalizedField field :=
  Prod.ext (asciiLowercase_asciiLowercase field.1) (Strings.trimMatches_trimMatches field.2)

theorem withoutQuery_withoutQuery (target : String) :
    withoutQuery (withoutQuery target) = withoutQuery target := by
  rw [← String.toList_inj, toList_withoutQuery (withoutQuery target), toList_withoutQuery,
    List.takeWhile_idem]

theorem notMem_colon_asciiLowercase (unsplit : ':' ∉ text.toList) :
    ':' ∉ (asciiLowercase text).toList := by
  unfold asciiLowercase
  rw [String.toList_ofList]
  intro found
  obtain ⟨character, member, lower⟩ := List.mem_map.mp found
  have code := congrArg Char.toNat lower
  rw [toNat_toLower] at code
  split at code
  · next upper =>
    have isColon : (':').toNat = 58 := rfl
    omega
  · exact unsplit (Char.toNat_inj.mp code ▸ member)

/-- The headers of a request are the fields of its form, in the order of their names. -/
theorem perm_entries (distinct : (form.fields.map fun field => asciiLowercase field.1).Nodup) :
    (SortedMap.ofList (form.fields.map normalizedField)).entries.Perm
      (form.fields.map normalizedField) := by
  apply SortedMap.perm_ofList
  rw [List.map_map]
  exact distinct

theorem isTransferEncoding_normalizedField (field : String × String) :
    isTransferEncoding (normalizedField field) = isTransferEncoding field := by
  unfold isTransferEncoding eqIgnoreAsciiCase normalizedField
  rw [asciiLowercase_asciiLowercase]

theorem isContentLength_normalizedField (field : String × String) :
    isContentLength (normalizedField field) = isContentLength field := by
  unfold isContentLength eqIgnoreAsciiCase normalizedField
  rw [asciiLowercase_asciiLowercase]

theorem isAscii_of_isHttpToken (token : isHttpToken text = true) :
    Utf8.IsAscii text.toList := by
  intro character member
  have small := (isHttpToken_iff.mp token).2 character member
  unfold WebContract.tokenCharacter at small
  rw [Bool.and_eq_true, decide_eq_true_iff, decide_eq_true_iff] at small
  exact Utf8.utf8Size_of_toNat_lt (by omega)

theorem length_encode_asciiLowercase (token : isHttpToken text = true) :
    (Utf8.encode (asciiLowercase text).toList).length = (Utf8.encode text.toList).length := by
  have lower := isHttpToken_asciiLowercase text
  rw [token] at lower
  rw [Utf8.length_encode_of_isAscii (isAscii_of_isHttpToken lower),
    Utf8.length_encode_of_isAscii (isAscii_of_isHttpToken token)]
  unfold asciiLowercase
  rw [String.toList_ofList, List.length_map]

/-- The bytes of a field after the line before it. -/
def fieldBytes (field : String × String) : List UInt8 :=
  Utf8.encode ('\r' :: '\n' :: fieldLine field)

theorem length_fieldBytes_normalizedField {field : String × String}
    (token : isHttpToken field.1 = true) :
    (fieldBytes (normalizedField field)).length ≤ (fieldBytes field).length := by
  have value : (Utf8.encode (trim field.2).toList).length ≤ (Utf8.encode field.2.toList).length := by
    apply Utf8.length_encode_le
    unfold trim trimMatches
    rw [String.toList_ofList]
    exact (List.rdropWhile_prefix _ _).sublist.trans (List.dropWhile_sublist _)
  unfold fieldBytes fieldLine normalizedField
  simp only [Utf8.encode_cons, Utf8.encode_append, List.length_append,
    length_encode_asciiLowercase token]
  omega

theorem length_head (form : RequestForm) :
    (utf8Bytes form.head).length =
      (Utf8.encode form.requestLine.toList).length + (form.fields.flatMap fieldBytes).length := by
  unfold RequestForm.head utf8Bytes joinCrlf
  rw [Utf8.toList_toUTF8, String.toList_ofList, Utf8.encode_append, List.length_append,
    List.flatMap_map]
  unfold Utf8.encode fieldBytes
  rw [List.flatMap_assoc]
  rfl

/-- Normalized fields are no longer. -/
theorem length_flatMap_normalizedField {fields : List (String × String)}
    (tokens : ∀ field ∈ fields, isHttpToken field.1 = true) :
    ((fields.map normalizedField).flatMap fieldBytes).length ≤
      (fields.flatMap fieldBytes).length := by
  induction fields with
  | nil => exact Nat.le_refl 0
  | cons field fields ih =>
      obtain ⟨token, tokens⟩ := List.forall_mem_cons.mp tokens
      have first := length_fieldBytes_normalizedField token
      have rest := ih tokens
      rw [List.map_cons, List.flatMap_cons, List.flatMap_cons, List.length_append,
        List.length_append]
      omega

/-- A request line has room for its words with single spaces. -/
theorem length_requestLine {requestLine path version : String}
    (words : splitWhitespace requestLine = [method, target, version])
    (part : path.toList.Sublist target.toList) :
    (Utf8.encode (method ++ " " ++ path ++ " " ++ version).toList).length ≤
      (Utf8.encode requestLine.toList).length := by
  rw [splitWhitespace_eq] at words
  have lists := congrArg (List.map String.toList) words
  simp only [List.map_map, Function.comp_def, String.toList_ofList, List.map_id', List.map_cons,
    List.map_nil] at lists
  obtain ⟨before, rest, isLine, -, -, -, ends, later⟩ := Words.words_eq_cons lists
  obtain ⟨first, rest', rfl, -, filled, isWord, ends', later⟩ := Words.words_eq_cons later
  have firstGap := Words.ne_nil_of_ends filled isWord ends
  obtain ⟨second, rest'', rfl, -, filled, isWord, -, -⟩ := Words.words_eq_cons later
  have secondGap := Words.ne_nil_of_ends filled isWord ends'
  have positive : ∀ {characters : List Char}, characters ≠ [] →
      0 < (Utf8.encode characters).length := fun some =>
    List.length_pos_iff.mpr fun empty => some (Utf8.encode_eq_nil_iff.mp empty)
  have firstPositive := positive firstGap
  have secondPositive := positive secondGap
  have shorter := Utf8.length_encode_le part
  have space : (Utf8.encode " ".toList).length = 1 := by decide
  rw [isLine]
  simp only [String.toList_append, Utf8.encode_append, List.length_append, space]
  omega

/-- A request that was read is printed in no more bytes than it was read from. -/
theorem RequestForm.Readable.length_printed (readable : form.Readable method target)
    (isMethod : request.method = method) (builds : form.Builds target request) :
    (utf8Bytes request.form.head).length ≤ (utf8Bytes form.head).length := by
  have line : (Utf8.encode request.form.requestLine.toList).length ≤
      (Utf8.encode form.requestLine.toList).length := by
    unfold HttpRequest.form
    rw [isMethod]
    refine length_requestLine readable.words ?_
    rw [builds.path, toList_withoutQuery]
    exact List.takeWhile_sublist _
  have fields : (request.form.fields.flatMap fieldBytes).length ≤
      (form.fields.flatMap fieldBytes).length := by
    unfold HttpRequest.form
    rw [builds.headers, ((perm_entries readable.distinct).flatMap_right fieldBytes).length_eq]
    exact length_flatMap_normalizedField fun field member => (readable.names field member).1
  rw [length_head, length_head]
  omega

/-- A printed header is a field that was read, in normal form. -/
theorem RequestForm.Readable.mem_entries (readable : form.Readable method target)
    (builds : form.Builds target request) {entry : String × String} :
    entry ∈ request.form.fields ↔ ∃ field ∈ form.fields, normalizedField field = entry := by
  unfold HttpRequest.form
  rw [builds.headers, (perm_entries readable.distinct).mem_iff, List.mem_map]

/-- The target that is read has no white space. -/
theorem RequestForm.Readable.word (readable : form.Readable method target) :
    ∀ character ∈ target.toList, isWhiteSpace character = false := by
  have member : target ∈ splitWhitespace form.requestLine := by
    rw [readable.words]
    exact List.mem_cons_of_mem _ List.mem_cons_self
  rw [splitWhitespace_eq] at member
  obtain ⟨word, isWord, rfl⟩ := List.mem_map.mp member
  rw [String.toList_ofList]
  exact (Words.isWord_of_mem isWord).2

/-- What a request is printed as is readable. -/
theorem RequestForm.Readable.printed (readable : form.Readable method target)
    (isMethod : request.method = method) (builds : form.Builds target request) :
    request.form.Readable method request.path := by
  have word : ∀ character ∈ request.path.toList, isWhiteSpace character = false := by
    rw [builds.path, toList_withoutQuery]
    exact fun character inside => readable.word character ((List.takeWhile_sublist _).subset inside)
  have originForm : startsWith "/" request.path = true := by
    rw [builds.path, startsWith_withoutQuery]
    exact readable.originForm
  have line : request.form.requestLine = method ++ " " ++ request.path ++ " " ++ httpVersion := by
    rw [← isMethod]
    rfl
  have isBody : request.form.body = form.body := builds.body
  have fields : ∀ entry, entry ∈ request.form.fields ↔
      ∃ field ∈ form.fields, normalizedField field = entry := fun _ => readable.mem_entries builds
  refine
    { token := readable.token
      originForm
      names := fun entry member => ?_
      distinct := ?_
      unchunked := fun entry member => ?_
      unannounced := fun unnamed => ?_
      short := (readable.length_printed isMethod builds).trans readable.short
      fits := isBody ▸ readable.fits
      unbroken := ?_
      words := ?_
      unbrokenValues := fun entry member => ?_
      values := fun entry member => ?_
      announced := fun entry member isLength => ?_ }
  · obtain ⟨field, isField, rfl⟩ := (fields entry).mp member
    obtain ⟨token, unsplit⟩ := readable.names field isField
    exact ⟨(isHttpToken_asciiLowercase field.1).trans token, notMem_colon_asciiLowercase unsplit⟩
  · have lower : request.form.fields.map (fun entry => asciiLowercase entry.1) =
        request.headers.keys := by
      refine List.map_congr_left fun entry member => ?_
      obtain ⟨field, -, rfl⟩ := (fields entry).mp member
      exact asciiLowercase_asciiLowercase field.1
    rw [lower]
    exact request.headers.nodup_keys
  · obtain ⟨field, isField, rfl⟩ := (fields entry).mp member
    rw [isTransferEncoding_normalizedField]
    exact readable.unchunked field isField
  · rw [isBody]
    refine readable.unannounced fun field isField => ?_
    rw [← isContentLength_normalizedField]
    exact unnamed _ ((fields _).mpr ⟨field, isField, rfl⟩)
  · rw [line]
    exact unbroken_requestLine readable.token word
  · have words := @splitWhitespace_requestLine _ _ "" readable.token originForm word
      fun character among => nomatch among
    rwa [String.append_empty, ← line] at words
  · obtain ⟨field, isField, rfl⟩ := (fields entry).mp member
    exact unbroken_of_notMem (notMem_return_of_plain (readable.values field isField))
  · obtain ⟨field, isField, rfl⟩ := (fields entry).mp member
    exact fun character inside =>
      readable.values field isField character (mem_of_mem_trimMatches inside)
  · obtain ⟨field, isField, rfl⟩ := (fields entry).mp member
    rw [isContentLength_normalizedField] at isLength
    rw [isBody, ← readable.announced field isField isLength]
    exact congrArg parseUsize (Strings.trimMatches_trimMatches field.2)

/-- What is printed of a request builds the request. -/
theorem RequestForm.Readable.builds_printed (readable : form.Readable method target)
    (builds : form.Builds target request) : request.form.Builds request.path request where
  path := by rw [builds.path, withoutQuery_withoutQuery]
  headers := by
    have same : request.form.fields.map normalizedField = request.headers.entries := by
      refine (List.map_congr_left fun entry member => ?_).trans (List.map_id _)
      obtain ⟨field, -, rfl⟩ := (readable.mem_entries builds).mp member
      exact normalizedField_normalizedField field
    rw [same, SortedMap.ofList_entries]
  body := rfl

/-- A request that was read of any bytes is read again when it is printed. -/
theorem parseRequest_printed {bytes : List UInt8} (accepted : parseRequest bytes = .ok request) :
    parseRequest request.form.bytes = .ok request := by
  obtain ⟨form, target, -, readable, builds⟩ := exists_readable accepted
  obtain ⟨head, accepted⟩ := (readable.printed rfl builds).accepted rfl
    (readable.builds_printed builds)
  exact parseRequest_eq_ok.mpr ⟨_, _, _, accepted⟩

end Printing

end WebGateway
end YunXi
