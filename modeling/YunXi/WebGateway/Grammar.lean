import YunXi.Program.Words
import YunXi.WebGateway.Lines

/-!
# The requests that are read

A request is a request line and header fields, an empty line, and the body that a field
announces.  The parser takes any white space between the words of the request line and around the
values of fields, and a sign before the announced length.
-/

namespace YunXi
namespace WebGateway

open Protocol (isWhiteSpace)
open Strings (trimMatches startsWith toNat_toLower toLower_toLower)

/-- A request line, the header fields after it, and a body. -/
structure RequestForm where
  requestLine : String
  fields : List (String × String)
  body : List UInt8

/-- The line of a header field. -/
def fieldLine (field : String × String) : List Char := field.1.toList ++ ':' :: field.2.toList

def isContentLength {α : Type} (field : String × α) : Bool :=
  eqIgnoreAsciiCase field.1 "content-length"

def isTransferEncoding {α : Type} (field : String × α) : Bool :=
  eqIgnoreAsciiCase field.1 "transfer-encoding"

/-- A field as a request keeps it. -/
def normalizedField (field : String × String) : String × String :=
  (asciiLowercase field.1, trim field.2)

namespace RequestForm

variable (form : RequestForm)

def head : String :=
  String.ofList (joinCrlf form.requestLine.toList (form.fields.map fieldLine))

def bytes : List UInt8 := utf8Bytes form.head ++ 13 :: 10 :: 13 :: 10 :: form.body

/-- What the parser asks for, the white space aside. -/
structure Sound (method target : String) : Prop where
  token : isHttpToken method = true
  originForm : startsWith "/" target = true
  names : ∀ field ∈ form.fields, isHttpToken field.1 = true ∧ ':' ∉ field.1.toList
  distinct : (form.fields.map fun field => asciiLowercase field.1).Nodup
  unchunked : ∀ field ∈ form.fields, isTransferEncoding field = false
  unannounced : (∀ field ∈ form.fields, isContentLength field = false) → form.body = []
  short : (utf8Bytes form.head).length ≤ maxHttpHeaderBytes
  fits : form.body.length ≤ maxHttpBodyBytes

/-- The requests that are read: there may be any white space around the words of the request
line and around the values, and a sign before the length. -/
structure Readable (method target : String) : Prop extends Sound form method target where
  unbroken : Unbroken form.requestLine.toList
  words : splitWhitespace form.requestLine = [method, target, httpVersion]
  unbrokenValues : ∀ field ∈ form.fields, Unbroken field.2.toList
  values : ∀ field ∈ form.fields, ∀ character ∈ (trim field.2).toList,
    headerControl character = false
  announced : ∀ field ∈ form.fields, isContentLength field = true →
    parseUsize (trim field.2) = some form.body.length

/-- The request that a form is read as. -/
structure Builds (target : String) (request : HttpRequest) : Prop where
  path : request.path = withoutQuery target
  headers : request.headers = .ofList (form.fields.map normalizedField)
  body : request.body = form.body

end RequestForm

theorem tokenCharacter_toLower (character : Char) :
    WebContract.tokenCharacter character.toLower = WebContract.tokenCharacter character := by
  unfold WebContract.tokenCharacter
  rw [toNat_toLower]
  split
  · next upper =>
    rw [decide_eq_true (show 32 < character.toNat + 32 by omega),
      decide_eq_true (show character.toNat + 32 < 127 by omega),
      decide_eq_true (show 32 < character.toNat by omega),
      decide_eq_true (show character.toNat < 127 by omega)]
  · rfl

theorem isHttpToken_asciiLowercase (text : String) :
    isHttpToken (asciiLowercase text) = isHttpToken text := by
  unfold isHttpToken asciiLowercase
  rw [String.toList_ofList, List.all_map, show WebContract.tokenCharacter ∘ Char.toLower =
    WebContract.tokenCharacter from funext tokenCharacter_toLower]
  congr 2
  rw [ne_eq, ne_eq, ← String.toList_inj, ← String.toList_inj, String.toList_ofList]
  simp

theorem asciiLowercase_asciiLowercase (text : String) :
    asciiLowercase (asciiLowercase text) = asciiLowercase text := by
  unfold asciiLowercase
  rw [String.toList_ofList, List.map_map, show Char.toLower ∘ Char.toLower = Char.toLower from
    funext toLower_toLower]

theorem not_isWhiteSpace_of_token {character : Char}
    (token : WebContract.tokenCharacter character = true) : isWhiteSpace character = false := by
  unfold WebContract.tokenCharacter at token
  rw [Bool.and_eq_true, decide_eq_true_iff, decide_eq_true_iff] at token
  unfold isWhiteSpace
  grind

variable {text : String}

theorem isHttpToken_iff : isHttpToken text = true ↔
    text ≠ "" ∧ ∀ character ∈ text.toList, WebContract.tokenCharacter character = true := by
  unfold isHttpToken
  rw [Bool.and_eq_true, decide_eq_true_iff, List.all_eq_true]

theorem trimMatches_eq_self {test : Char → Bool}
    (plain : ∀ character ∈ text.toList, test character = false) : trimMatches test text = text := by
  have starts : text.toList.dropWhile test = text.toList := by
    refine List.dropWhile_eq_self_iff.mpr fun filled => ?_
    rw [plain _ (List.getElem_mem filled)]
    exact Bool.false_ne_true
  have ends : text.toList.rdropWhile test = text.toList := by
    refine List.rdropWhile_eq_self_iff.mpr fun filled => ?_
    rw [plain _ (List.getLast_mem filled)]
    exact Bool.false_ne_true
  unfold trimMatches
  rw [starts, ends, String.ofList_toList]

/-- A token is not trimmed. -/
theorem trim_of_isHttpToken (token : isHttpToken text = true) : trim text = text :=
  trimMatches_eq_self fun character member =>
    not_isWhiteSpace_of_token ((isHttpToken_iff.mp token).2 character member)

/-- `read_headers` keeps a field under its name, without the white space around its value. -/
def trimmedField (field : String × String) : String × String := (field.1, trim field.2)

/-- What the loop over the header lines asks of a field, before the length is read. -/
structure ReadableField (field : String × String) : Prop where
  unsplit : ':' ∉ field.1.toList
  trimmed : trim field.1 = field.1
  named : field.1 ≠ ""
  unchunked : isTransferEncoding field = false

/-- The lengths that fields announce after some have been read. -/
def Announces : Option Nat → List (String × String) → Option Nat → Prop
  | announced, [], length => length = announced
  | announced, field :: rest, length =>
      if isContentLength field then
        announced = none ∧ ∃ size ≤ maxHttpBodyBytes, parseUsize (trim field.2) = some size ∧
          Announces (some size) rest length
      else Announces announced rest length

variable {field : String × String}

theorem splitOnce_fieldLine (unsplit : ':' ∉ field.1.toList) :
    splitOnce ':' (String.ofList (fieldLine field)) = some field := by
  unfold splitOnce fieldLine
  rw [String.toList_ofList, if_pos (by simp)]
  have before : ∀ character ∈ field.1.toList, decide (character ≠ ':') = true := by
    intro character member
    exact decide_eq_true fun same => unsplit (same ▸ member)
  rw [List.takeWhile_append_of_pos before, List.dropWhile_append_of_pos before]
  simp

theorem splitOnce_eq_some {line : String}
    (split : splitOnce ':' line = some field) :
    line = String.ofList (fieldLine field) ∧ ':' ∉ field.1.toList := by
  by_cases found : ':' ∈ line.toList
  · obtain ⟨before, after, isLine, unsplit⟩ := List.eq_append_cons_of_mem found
    have unsplit' : ':' ∉ (String.ofList before).toList := by rwa [String.toList_ofList]
    have same : line = String.ofList (fieldLine (String.ofList before, String.ofList after)) := by
      rw [fieldLine, String.toList_ofList, String.toList_ofList, ← isLine, String.ofList_toList]
    rw [same, splitOnce_fieldLine unsplit'] at split
    cases split
    exact ⟨same, unsplit'⟩
  · unfold splitOnce at split
    rw [if_neg (by simpa using found)] at split
    cases split

variable {length announced : Option Nat}

theorem readContentLength_eq_ok :
    readContentLength field.1 (trim field.2) announced = .ok length ↔
      if isContentLength field then
        announced = none ∧ ∃ size ≤ maxHttpBodyBytes,
          parseUsize (trim field.2) = some size ∧ length = some size
      else length = announced := by
  unfold readContentLength isContentLength
  split
  case isFalse => exact ⟨fun same => (Except.ok.inj same).symm, fun same => same ▸ rfl⟩
  case isTrue =>
    cases announced with
    | some size => exact iff_of_false (fun same => nomatch same) fun both => nomatch both.1
    | none =>
        rw [if_neg (show ¬ (none : Option Nat).isSome = true from Bool.false_ne_true)]
        cases parseUsize (trim field.2) with
        | none =>
            refine iff_of_false (fun same => nomatch same) ?_
            rintro ⟨-, size, -, impossible, -⟩
            cases impossible
        | some size =>
            simp only
            split
            case isTrue large =>
              refine iff_of_false (fun same => nomatch same) ?_
              rintro ⟨-, other, fits, same, -⟩
              cases same
              exact absurd fits (not_le.mpr large)
            case isFalse fits =>
              constructor
              · intro same
                exact ⟨trivial, size, not_lt.mp fits, rfl, (Except.ok.inj same).symm⟩
              · rintro ⟨-, other, -, same, rfl⟩
                cases same
                rfl

variable {headers : List (String × String)}

/-- One header line is read. -/
theorem readHeaders_cons_eq_ok {line : String}
    {lines : List String} :
    readHeaders announced (line :: lines) = .ok (headers, length) ↔
      ∃ field : String × String, line = String.ofList (fieldLine field) ∧ ReadableField field ∧
        ∃ between, readContentLength field.1 (trim field.2) announced = .ok between ∧
          ∃ headers', readHeaders between lines = .ok (headers', length) ∧
            headers = trimmedField field :: headers' := by
  rw [readHeaders]
  constructor
  · intro reads
    cases split : splitOnce ':' line with
    | none =>
        rw [split] at reads
        cases reads
    | some field =>
        obtain ⟨isLine, unsplit⟩ := splitOnce_eq_some split
        rw [split] at reads
        simp only [Except.ite_error_eq_ok, Except.bind_eq_ok] at reads
        obtain ⟨trimmed, unchunked, between, readLength, ⟨headers', length'⟩, readRest, same⟩ := reads
        cases same
        rw [not_or, not_not] at trimmed
        exact ⟨field, isLine, ⟨unsplit, trimmed.1, trimmed.2, Bool.eq_false_iff.mpr unchunked⟩,
          between, readLength, headers', readRest, rfl⟩
  · rintro ⟨field, rfl, readable, between, readLength, headers', readRest, rfl⟩
    rw [splitOnce_fieldLine readable.unsplit]
    simp only [Except.ite_error_eq_ok, Except.bind_eq_ok]
    refine ⟨?_, Bool.eq_false_iff.mp readable.unchunked, between, readLength, (headers', length),
      readRest, rfl⟩
    rw [not_or, not_not]
    exact ⟨readable.trimmed, readable.named⟩

/-- The header lines that are read are those of readable fields. -/
theorem readHeaders_eq_ok {lines : List String} :
    readHeaders announced lines = .ok (headers, length) ↔
      ∃ fields : List (String × String),
        lines = fields.map (fun field => String.ofList (fieldLine field)) ∧
        headers = fields.map trimmedField ∧ (∀ field ∈ fields, ReadableField field) ∧
        Announces announced fields length := by
  induction lines generalizing announced headers with
  | nil =>
      constructor
      · intro same
        cases same
        exact ⟨[], rfl, rfl, fun field member => (nomatch member), rfl⟩
      · rintro ⟨fields, none, rfl, -, announces⟩
        obtain rfl := List.map_eq_nil_iff.mp none.symm
        obtain rfl : length = announced := announces
        rfl
  | cons line lines ih =>
      rw [readHeaders_cons_eq_ok]
      constructor
      · rintro ⟨field, rfl, readable, between, readLength, headers', readRest, rfl⟩
        obtain ⟨fields, rfl, rfl, readables, announces⟩ := ih.mp readRest
        refine ⟨field :: fields, rfl, rfl, List.forall_mem_cons.mpr ⟨readable, readables⟩, ?_⟩
        rw [readContentLength_eq_ok] at readLength
        unfold Announces
        split at readLength
        · next isLength =>
          obtain ⟨none, size, fits, parsed, rfl⟩ := readLength
          rw [if_pos isLength]
          exact ⟨none, size, fits, parsed, announces⟩
        · next other =>
          rw [if_neg other]
          exact readLength ▸ announces
      · rintro ⟨fields, isLines, rfl, readables, announces⟩
        cases fields with
        | nil => cases isLines
        | cons field fields =>
            obtain ⟨rfl, rfl⟩ := List.cons_eq_cons.mp isLines
            obtain ⟨readable, readables⟩ := List.forall_mem_cons.mp readables
            unfold Announces at announces
            split at announces
            · next isLength =>
              obtain ⟨none, size, fits, parsed, announces⟩ := announces
              refine ⟨field, rfl, readable, some size, ?_, fields.map trimmedField, ?_, rfl⟩
              · rw [readContentLength_eq_ok, if_pos isLength]
                exact ⟨none, size, fits, parsed, rfl⟩
              · exact ih.mpr ⟨fields, rfl, rfl, readables, announces⟩
            · next other =>
              refine ⟨field, rfl, readable, announced, ?_, fields.map trimmedField, ?_, rfl⟩
              · rw [readContentLength_eq_ok, if_neg other]
              · exact ih.mpr ⟨fields, rfl, rfl, readables, announces⟩

variable {fields : List (String × String)}

/-- Once a length is announced, no field announces another. -/
theorem announces_some_iff {announced : Nat} : Announces (some announced) fields length ↔
      (∀ field ∈ fields, isContentLength field = false) ∧ length = some announced := by
  induction fields with
  | nil => exact ⟨fun same => ⟨fun _ member => (nomatch member), same⟩, fun both => both.2⟩
  | cons field fields ih =>
      unfold Announces
      rw [List.forall_mem_cons]
      split
      · next isLength =>
        refine iff_of_false (fun impossible => nomatch impossible.1) fun both => ?_
        cases isLength.symm.trans both.1.1
      · next other =>
        rw [ih, and_assoc, and_iff_right (Bool.eq_false_iff.mpr other)]

/-- Fields of different names announce a length with at most one of them. -/
theorem announces_none_iff (distinct : (fields.map fun field => asciiLowercase field.1).Nodup) :
    Announces none fields length ↔
      (∀ field ∈ fields, isContentLength field = true →
        ∃ size ≤ maxHttpBodyBytes, parseUsize (trim field.2) = some size ∧ length = some size) ∧
      ((∀ field ∈ fields, isContentLength field = false) → length = none) := by
  induction fields with
  | nil =>
      exact ⟨fun same => ⟨fun _ member => (nomatch member), fun _ => same⟩,
        fun both => both.2 fun _ member => (nomatch member)⟩
  | cons field fields ih =>
      rw [List.map_cons, List.nodup_cons] at distinct
      unfold Announces
      rw [List.forall_mem_cons, List.forall_mem_cons]
      cases isLength : isContentLength field with
      | false =>
          rw [if_neg Bool.false_ne_true, ih distinct.2]
          simp only [Bool.false_eq_true, false_imp_iff, true_and]
      | true =>
          have others : ∀ other ∈ fields, isContentLength other = false := by
            intro other member
            refine Bool.eq_false_iff.mpr fun also => distinct.1 ?_
            have first := of_decide_eq_true isLength
            have second := of_decide_eq_true also
            rw [first, ← second]
            exact List.mem_map_of_mem member
          simp only [if_true, announces_some_iff, true_and, true_imp_iff, Bool.true_eq_false,
            false_and, false_imp_iff, and_true]
          constructor
          · rintro ⟨size, fits, parsed, -, isLength⟩
            refine ⟨⟨size, fits, parsed, isLength⟩, fun other member also => ?_⟩
            cases also.symm.trans (others other member)
          · rintro ⟨⟨size, fits, parsed, isLength⟩, -⟩
            exact ⟨size, fits, parsed, others, isLength⟩

/-- What the head of a form is read as. -/
theorem parseHead_eq_ok {head : Head} :
    parseHead text = .ok head ↔
      ∃ (requestLine : String) (fields : List (String × String)),
        splitCrlf text.toList = requestLine.toList :: fields.map fieldLine ∧
        splitWhitespace requestLine = [head.method, head.target, httpVersion] ∧
        head.headers = fields.map trimmedField ∧ (∀ field ∈ fields, ReadableField field) ∧
        Announces none fields head.contentLength := by
  obtain ⟨first, lines, split⟩ := List.exists_cons_of_ne_nil (splitCrlf_ne_nil text.toList)
  unfold parseHead
  rw [split]
  simp only
  constructor
  · intro reads
    split at reads
    · next method target version words =>
      split at reads
      · cases reads
      next isVersion =>
      rw [Except.bind_eq_ok] at reads
      obtain ⟨⟨headers, length⟩, readRest, same⟩ := reads
      cases same
      obtain ⟨fields, isLines, rfl, readables, announces⟩ := readHeaders_eq_ok.mp readRest
      refine ⟨String.ofList first, fields, ?_, ?_, rfl, readables, announces⟩
      · rw [String.toList_ofList]
        have lists := congrArg (List.map String.toList) isLines
        simp only [List.map_map, Function.comp_def, String.toList_ofList, List.map_id'] at lists
        rw [lists]
      · rw [words, not_not.mp isVersion]
    · cases reads
  · rintro ⟨requestLine, fields, same, words, isHeaders, readables, announces⟩
    obtain ⟨rfl, rfl⟩ := List.cons_eq_cons.mp same
    rw [String.ofList_toList, words]
    simp only [ne_eq, not_true_eq_false, if_false, Except.bind_eq_ok]
    refine ⟨(fields.map trimmedField, head.contentLength), ?_, ?_⟩
    · rw [readHeaders_eq_ok]
      exact ⟨fields, by rw [List.map_map]; rfl, rfl, readables, announces⟩
    · rw [← isHeaders]
      rfl

/-- The headers of a request are those of different tokens without control characters. -/
theorem normalizeHeaders_eq_ok {before after : SortedMap String String} :
    HttpRequest.normalizeHeaders before headers = .ok after ↔
      (∀ header ∈ headers, isHttpToken header.1 = true ∧
        ∀ character ∈ header.2.toList, headerControl character = false) ∧
      (headers.map fun header => asciiLowercase header.1).Nodup ∧
      (∀ header ∈ headers, asciiLowercase header.1 ∉ before.keys) ∧
      after = before.extend (headers.map normalizedField) := by
  induction headers generalizing before with
  | nil =>
      constructor
      · intro same
        cases same
        exact ⟨fun _ member => (nomatch member), List.nodup_nil,
          fun _ member => (nomatch member), rfl⟩
      · rintro ⟨-, -, -, rfl⟩
        rfl
  | cons header headers ih =>
      obtain ⟨name, value⟩ := header
      unfold HttpRequest.normalizeHeaders
      have controls : value.toList.any headerControl = false ↔
          ∀ character ∈ value.toList, headerControl character = false := by
        simp only [List.any_eq_false, Bool.not_eq_true]
      have others : (∀ header ∈ headers, asciiLowercase header.1 ∉
          (before.insert (asciiLowercase name) (trim value)).keys) ↔
            asciiLowercase name ∉ headers.map (fun header => asciiLowercase header.1) ∧
              ∀ header ∈ headers, asciiLowercase header.1 ∉ before.keys := by
        simp only [SortedMap.mem_keys_insert_iff, not_or, forall_and, List.mem_map, not_exists, not_and]
      simp only [Except.ite_error_eq_ok, ih, List.forall_mem_cons, List.map_cons,
        List.nodup_cons, isHttpToken_asciiLowercase, others, Bool.not_eq_true, controls,
        Bool.not_eq_false]
      constructor
      · rintro ⟨token, plain, isNew, sound, distinct, ⟨differ, areNew⟩, rfl⟩
        exact ⟨⟨⟨token, plain⟩, sound⟩, ⟨differ, distinct⟩, ⟨isNew, areNew⟩, rfl⟩
      · rintro ⟨⟨⟨token, plain⟩, sound⟩, ⟨differ, distinct⟩, ⟨isNew, areNew⟩, rfl⟩
        exact ⟨token, plain, isNew, sound, distinct, ⟨differ, areNew⟩, rfl⟩

theorem startsWith_slash : startsWith "/" text = true ↔ ∃ rest, text.toList = '/' :: rest := by
  unfold startsWith
  rw [List.isPrefixOf_iff_prefix]
  exact ⟨fun ⟨rest, same⟩ => ⟨rest, same.symm⟩, fun ⟨rest, same⟩ => ⟨rest, same.symm⟩⟩

theorem toList_withoutQuery (target : String) :
    (withoutQuery target).toList = target.toList.takeWhile (· ≠ '?') := by
  unfold withoutQuery
  split
  · next path query split =>
    unfold splitOnce at split
    split at split
    · cases split
      exact String.toList_ofList
    · cases split
  · next split =>
    unfold splitOnce at split
    split at split
    · cases split
    · next unsplit =>
      refine (List.takeWhile_eq_self_iff.mpr fun character member => ?_).symm
      refine decide_eq_true fun same => unsplit ?_
      rw [same] at member
      simpa using member

/-- A path starts with a slash if the target does. -/
theorem startsWith_withoutQuery {target : String} :
    startsWith "/" (withoutQuery target) = true ↔ startsWith "/" target = true := by
  rw [startsWith_slash, startsWith_slash, toList_withoutQuery]
  cases target.toList with
  | nil => exact iff_of_false (fun ⟨_, same⟩ => nomatch same) fun ⟨_, same⟩ => nomatch same
  | cons first rest =>
      rw [List.takeWhile_cons]
      by_cases query : first = '?'
      · subst query
        exact iff_of_false (fun ⟨_, same⟩ => nomatch same) fun ⟨_, same⟩ => nomatch same
      · rw [if_pos (decide_eq_true query)]
        constructor
        · rintro ⟨_, same⟩
          exact ⟨rest, by rw [(List.cons_eq_cons.mp same).1]⟩
        · rintro ⟨_, same⟩
          exact ⟨_, by rw [(List.cons_eq_cons.mp same).1]⟩

variable {request : HttpRequest}

/-- `HttpRequest::new` builds requests of tokens, paths and sound headers. -/
theorem new_eq_ok_iff {method target : String}
    {body : List UInt8} :
    HttpRequest.new method (withoutQuery target) (fields.map trimmedField) body = .ok request ↔
      isHttpToken method = true ∧ startsWith "/" target = true ∧ body.length ≤ maxHttpBodyBytes ∧
      (∀ field ∈ fields, isHttpToken field.1 = true ∧
        ∀ character ∈ (trim field.2).toList, headerControl character = false) ∧
      (fields.map fun field => asciiLowercase field.1).Nodup ∧
      request.method = method ∧ request.path = withoutQuery target ∧
      request.headers = .ofList (fields.map normalizedField) ∧ request.body = body := by
  have normalized : (fields.map trimmedField).map normalizedField = fields.map normalizedField := by
    rw [List.map_map]
    refine List.map_congr_left fun field _ => Prod.ext rfl ?_
    exact Strings.trimMatches_trimMatches field.2
  constructor
  · intro built
    unfold HttpRequest.new at built
    split at built
    case isFalse => cases built
    case isTrue validMethod =>
    split at built
    case isFalse => cases built
    case isTrue originForm =>
    split at built
    case isFalse => cases built
    case isTrue fits =>
      obtain ⟨headers, normalizes, same⟩ := Except.bind_eq_ok.mp built
      cases same
      obtain ⟨sound, distinct, -, rfl⟩ := normalizeHeaders_eq_ok.mp normalizes
      rw [List.map_map] at distinct
      rw [List.forall_mem_map] at sound
      exact ⟨validMethod, startsWith_withoutQuery.mp originForm, fits, sound, distinct, rfl, rfl,
        congrArg _ normalized, rfl⟩
  · rintro ⟨validMethod, originForm, fits, sound, distinct, isMethod, isPath, isHeaders, isBody⟩
    obtain ⟨method', path', headers', body', _, _, _⟩ := request
    simp only at isMethod isPath isHeaders isBody
    subst isMethod isPath isHeaders isBody
    refine HttpRequest.new_eq_ok validMethod (startsWith_withoutQuery.mpr originForm) fits
      (normalizeHeaders_eq_ok.mpr ⟨?_, ?_, fun _ _ => List.not_mem_nil, ?_⟩)
    · rw [List.forall_mem_map]
      exact sound
    · rw [List.map_map]
      exact distinct
    · rw [normalized]
      rfl

section Readable

variable {form : RequestForm} {method target : String}

theorem fieldLine_ne_nil (field : String × String) : fieldLine field ≠ [] :=
  List.append_ne_nil_of_right_ne_nil _ (List.cons_ne_nil _ _)

/-- The lines of a form are those of its head. -/
theorem splitCrlf_head (unbroken : Unbroken form.requestLine.toList)
    (names : ∀ field ∈ form.fields, isHttpToken field.1 = true)
    (values : ∀ field ∈ form.fields, Unbroken field.2.toList) :
    splitCrlf form.head.toList = form.requestLine.toList :: form.fields.map fieldLine := by
  unfold RequestForm.head
  rw [String.toList_ofList]
  refine splitCrlf_joinCrlf (List.forall_mem_cons.mpr ⟨unbroken, ?_⟩)
  rw [List.forall_mem_map]
  intro field member
  unfold fieldLine
  have plainName : '\r' ∉ field.1.toList ++ [':'] := by
    rw [List.mem_append, not_or]
    refine ⟨fun found => ?_, by decide⟩
    cases (isHttpToken_iff.mp (names field member)).2 _ found
  have whole := unbroken_append plainName (values field member)
  rwa [List.append_assoc] at whole

theorem RequestForm.Readable.lines (readable : form.Readable method target) :
    splitCrlf form.head.toList = form.requestLine.toList :: form.fields.map fieldLine :=
  splitCrlf_head readable.unbroken (fun field member => (readable.names field member).1)
    readable.unbrokenValues

/-- The head of a readable form is read up to the empty line behind it. -/
theorem RequestForm.Readable.splitHead_bytes (readable : form.Readable method target) :
    splitHead form.bytes = some (utf8Bytes form.head, form.body) := by
  refine splitHead_of_lines (fun line member => ?_) form.body
  rw [readable.lines, List.mem_cons] at member
  rcases member with rfl | member
  · intro empty
    have words := readable.words
    rw [String.toList_eq_nil_iff.mp empty] at words
    cases words
  · obtain ⟨field, -, rfl⟩ := List.mem_map.mp member
    exact fieldLine_ne_nil field

theorem readableField_of_token (token : isHttpToken field.1 = true)
    (unsplit : ':' ∉ field.1.toList) (unchunked : isTransferEncoding field = false) :
    ReadableField field where
  unsplit := unsplit
  trimmed := trim_of_isHttpToken token
  named := (isHttpToken_iff.mp token).1
  unchunked := unchunked

/-- A readable form is read. -/
theorem RequestForm.Readable.accepted (readable : form.Readable method target)
    (isMethod : request.method = method)
    (builds : form.Builds target request) :
    ∃ head, Accepted form.bytes request form.head head form.body := by
  obtain ⟨length, announces, announced⟩ : ∃ length, Announces none form.fields length ∧
      length.getD 0 = form.body.length := by
    by_cases some_ : ∃ field ∈ form.fields, isContentLength field = true
    · obtain ⟨field, member, isLength⟩ := some_
      refine ⟨some form.body.length, (announces_none_iff readable.distinct).mpr ⟨?_, ?_⟩, rfl⟩
      · intro other otherMember otherLength
        exact ⟨_, readable.fits, readable.announced other otherMember otherLength, rfl⟩
      · intro none
        cases (none field member).symm.trans isLength
    · have unnamed : ∀ field ∈ form.fields, isContentLength field = false :=
        fun field member => Bool.eq_false_iff.mpr fun isLength => some_ ⟨field, member, isLength⟩
      refine ⟨none, (announces_none_iff readable.distinct).mpr ⟨?_, fun _ => rfl⟩, ?_⟩
      · intro field member isLength
        cases (unnamed field member).symm.trans isLength
      · rw [readable.unannounced unnamed]
        rfl
  refine ⟨⟨method, target, form.fields.map trimmedField, length⟩, readable.splitHead_bytes,
    readable.short, parseHead_eq_ok.mpr ⟨form.requestLine, form.fields, readable.lines,
      readable.words, rfl, fun field member => ?_, announces⟩, announced, ?_⟩
  · exact readableField_of_token (readable.names field member).1 (readable.names field member).2
      (readable.unchunked field member)
  · exact new_eq_ok_iff.mpr ⟨readable.token, readable.originForm, readable.fits,
      fun field member => ⟨(readable.names field member).1, readable.values field member⟩,
      readable.distinct, isMethod, builds.path, builds.headers, builds.body⟩

/-- What is read is a readable form. -/
theorem exists_readable {bytes : List UInt8}
    (accepted : parseRequest bytes = .ok request) :
    ∃ (form : RequestForm) (target : String), form.bytes = bytes ∧
      form.Readable request.method target ∧ form.Builds target request := by
  obtain ⟨text, head, body, accepted⟩ := parseRequest_eq_ok.mp accepted
  obtain ⟨requestLine, fields, lines, words, isHeaders, readables, announces⟩ :=
    parseHead_eq_ok.mp accepted.reads
  have built := accepted.built
  rw [isHeaders] at built
  obtain ⟨token, originForm, fits, sound, distinct, isMethod, isPath, isRequestHeaders, isBody⟩ :=
    new_eq_ok_iff.mp built
  obtain ⟨joined, unbroken⟩ := splitCrlf_eq_cons lines
  obtain ⟨unbrokenLine, unbrokenFields⟩ := List.forall_mem_cons.mp unbroken
  rw [List.forall_mem_map] at unbrokenFields
  have isHead : (RequestForm.mk requestLine fields body).head = text := by
    unfold RequestForm.head
    rw [← joined, String.ofList_toList]
  obtain ⟨announced, unannounced⟩ := (announces_none_iff distinct).mp announces
  refine ⟨⟨requestLine, fields, body⟩, head.target, ?_, ?_, ⟨isPath, isRequestHeaders, isBody⟩⟩
  · unfold RequestForm.bytes
    rw [isHead]
    exact (splitHead_eq_some accepted.split).symm
  · rw [isMethod]
    exact
      { token
        originForm
        names := fun field member => ⟨(sound field member).1, (readables field member).unsplit⟩
        distinct
        unchunked := fun field member => (readables field member).unchunked
        unannounced := fun none => by
          have length := accepted.announced
          rw [unannounced none] at length
          exact List.eq_nil_of_length_eq_zero length.symm
        short := by
          rw [isHead]
          exact accepted.short
        fits
        unbroken := unbrokenLine
        words
        unbrokenValues := fun field member found => unbrokenFields field member
          (found.trans ⟨field.1.toList ++ [':'], [], by simp [fieldLine]⟩)
        values := fun field member => (sound field member).2
        announced := fun field member isLength => by
          obtain ⟨size, -, parsed, isSize⟩ := announced field member isLength
          have length := accepted.announced
          rw [isSize, Option.getD_some] at length
          rw [parsed, length] }

/-- The parser accepts the readable forms. -/
theorem parseRequest_isOk_iff {bytes : List UInt8} :
    (∃ request, parseRequest bytes = .ok request) ↔
      ∃ (form : RequestForm) (method target : String), form.bytes = bytes ∧
        form.Readable method target := by
  constructor
  · rintro ⟨request, accepted⟩
    obtain ⟨form, target, isBytes, readable, -⟩ := exists_readable accepted
    exact ⟨form, request.method, target, isBytes, readable⟩
  · rintro ⟨form, method, target, rfl, readable⟩
    let request : HttpRequest :=
      { method
        path := withoutQuery target
        headers := .ofList (form.fields.map normalizedField)
        body := form.body
        validMethod := readable.token
        originForm := startsWith_withoutQuery.mpr readable.originForm
        fits := readable.fits }
    obtain ⟨head, accepted⟩ := readable.accepted (show request.method = method from rfl)
      ⟨rfl, rfl, rfl⟩
    exact ⟨request, parseRequest_eq_ok.mpr ⟨_, _, _, accepted⟩⟩

end Readable

end WebGateway
end YunXi
