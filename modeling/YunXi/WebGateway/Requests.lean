import YunXi.WebGateway.Printing

/-!
# The grammar of requests

The grammar says of which bytes a request is made.  A target is any bytes without a space, and a
value any bytes without a control character.  The parser is laxer where a request line has other
white space, a value has control characters around it or a length has a sign.  It is stricter where
a value or a target is no text, and where there is white space inside a target.
-/

namespace YunXi
namespace WebGateway

open Protocol (isWhiteSpace)
open Strings (trimMatches startsWith)

/-- A decimal number. -/
def isDecimal (text : String) : Bool :=
  text ≠ "" && text.toList.all Protocol.isAsciiDigit

/-- A text without the spaces and tabs around it. -/
def trimBlanks (text : String) : String :=
  trimMatches (fun character => character = ' ' || character = '\t') text

/-- Bytes among which there is no control character other than a tab. -/
def Uncontrolled (value : List UInt8) : Prop :=
  ∀ character, headerControl character = true →
    ¬ String.utf8EncodeChar character <:+: value

/-- Bytes that are a decimal number, with spaces and tabs around it. -/
def IsLength (value : List UInt8) (length : Nat) : Prop :=
  ∃ text, value = utf8Bytes text ∧ isDecimal (trimBlanks text) = true ∧
    Protocol.Value.digitsValue (trimBlanks text).toList = length

/-- The parts of a request. -/
structure Request where
  method : String
  target : List UInt8
  fields : List (String × List UInt8)
  body : List UInt8

/-- The line of a header field. -/
def headerLine (field : String × List UInt8) : List UInt8 := utf8Bytes field.1 ++ 58 :: field.2

namespace Request

variable (request : Request)

def requestLine : List UInt8 :=
  utf8Bytes request.method ++ 32 :: (request.target ++ 32 :: utf8Bytes httpVersion)

def head : List UInt8 :=
  request.requestLine ++ (request.fields.map headerLine).flatMap fun line => 13 :: 10 :: line

def bytes : List UInt8 := request.head ++ 13 :: 10 :: 13 :: 10 :: request.body

/-- The requests of the grammar. -/
structure InGrammar : Prop where
  token : isHttpToken request.method = true
  originForm : request.target.head? = some 47
  spaceless : 32 ∉ request.target
  unbroken : ¬ [13, 10] <:+: request.target
  names : ∀ field ∈ request.fields, isHttpToken field.1 = true ∧ ':' ∉ field.1.toList
  distinct : (request.fields.map fun field => asciiLowercase field.1).Nodup
  values : ∀ field ∈ request.fields, Uncontrolled field.2
  unchunked : ∀ field ∈ request.fields, isTransferEncoding field = false
  announced : ∀ field ∈ request.fields, isContentLength field = true →
    IsLength field.2 request.body.length
  unannounced : (∀ field ∈ request.fields, isContentLength field = false) → request.body = []
  short : request.head.length ≤ maxHttpHeaderBytes
  fits : request.body.length ≤ maxHttpBodyBytes

/-- The values are texts, and the target is one with white space at its end only. -/
structure Legible : Prop where
  values : ∀ field ∈ request.fields, ∃ value, utf8Bytes value = field.2
  target : ∃ word blank : String, utf8Bytes (word ++ blank) = request.target ∧
    (∀ character ∈ word.toList, isWhiteSpace character = false) ∧
    ∀ character ∈ blank.toList, isWhiteSpace character = true

end Request

/-- Where nothing is laxer than the grammar. -/
structure RequestForm.Plain (form : RequestForm) (method target : String) : Prop where
  spaced : ∃ blank : String,
    (∀ character ∈ blank.toList, isWhiteSpace character = true ∧ character ≠ ' ') ∧
      form.requestLine = method ++ " " ++ (target ++ blank) ++ " " ++ httpVersion
  values : ∀ field ∈ form.fields, ∀ character ∈ field.2.toList, headerControl character = false
  announced : ∀ field ∈ form.fields, isContentLength field = true →
    isDecimal (trimBlanks field.2) = true

theorem isDecimal_iff {text : String} : isDecimal text = true ↔
    text ≠ "" ∧ ∀ character ∈ text.toList, Protocol.isAsciiDigit character = true := by
  unfold isDecimal
  rw [Bool.and_eq_true, decide_eq_true_iff, List.all_eq_true]

theorem not_isWhiteSpace_of_isAsciiDigit {character : Char}
    (digit : Protocol.isAsciiDigit character = true) : isWhiteSpace character = false := by
  unfold Protocol.isAsciiDigit at digit
  rw [Bool.and_eq_true, decide_eq_true_iff, decide_eq_true_iff] at digit
  unfold isWhiteSpace
  grind

/-- White space around a decimal number between blanks is only the blanks. -/
theorem trim_of_isDecimal {text : String} (decimal : isDecimal (trimBlanks text) = true) :
    trim text = trimBlanks text := by
  obtain ⟨filled, digits⟩ := isDecimal_iff.mp decimal
  have blank : ∀ character : Char, decide (character = ' ') || decide (character = '\t') →
      isWhiteSpace character = true := by
    intro character isBlank
    rw [Bool.or_eq_true, decide_eq_true_iff, decide_eq_true_iff] at isBlank
    rcases isBlank with rfl | rfl <;> decide
  obtain ⟨before, after, split, first, last⟩ := exists_trimMatches
    (fun character => character = ' ' || character = '\t') text
  change text = before ++ (trimBlanks text ++ after) at split
  have around := trimMatches_around filled
    (fun character member => not_isWhiteSpace_of_isAsciiDigit (digits character member))
    (fun character member => blank character (first character member))
    (fun character member => blank character (last character member))
  rw [← split] at around
  exact around

/-- A decimal number that fits is parsed. -/
theorem parseUsize_of_isDecimal {text : String} (decimal : isDecimal text = true)
    (fits : Protocol.Value.digitsValue text.toList < 2 ^ 64) :
    parseUsize text = some (Protocol.Value.digitsValue text.toList) := by
  obtain ⟨filled, digits⟩ := isDecimal_iff.mp decimal
  unfold parseUsize
  dsimp only
  split
  · next rest signed =>
    rw [signed] at digits
    cases digits '+' List.mem_cons_self
  · exact if_pos ⟨fun empty => filled (String.toList_eq_nil_iff.mp empty),
      List.all_eq_true.mpr digits, fits⟩

theorem digitsValue_of_parseUsize {text : String} {size : Nat} (decimal : isDecimal text = true)
    (parsed : parseUsize text = some size) : Protocol.Value.digitsValue text.toList = size := by
  unfold parseUsize at parsed
  dsimp only at parsed
  split at parsed
  · next rest signed =>
    have digits := (isDecimal_iff.mp decimal).2
    rw [signed] at digits
    cases digits '+' List.mem_cons_self
  · split at parsed
    · exact Option.some.inj parsed
    · cases parsed

theorem utf8Bytes_eq (text : String) : utf8Bytes text = Utf8.encode text.toList :=
  Utf8.toList_toUTF8 text

theorem utf8Bytes_append (first second : String) :
    utf8Bytes (first ++ second) = utf8Bytes first ++ utf8Bytes second := by
  rw [utf8Bytes_eq, utf8Bytes_eq, utf8Bytes_eq, String.toList_append, Utf8.encode_append]

/-- No control character is among the bytes of a text if none is among its characters. -/
theorem uncontrolled_utf8Bytes {text : String} : Uncontrolled (utf8Bytes text) ↔
    ∀ character ∈ text.toList, headerControl character = false := by
  unfold Uncontrolled
  rw [utf8Bytes_eq]
  constructor
  · intro uncontrolled character among
    obtain ⟨before, after, characters⟩ := List.append_of_mem among
    refine Bool.eq_false_iff.mpr fun control => uncontrolled character control ?_
    rw [characters, Utf8.encode_append, Utf8.encode_cons]
    exact ⟨_, _, List.append_assoc _ _ _⟩
  · intro plain character control found
    have among : [character] <:+: text.toList := Utf8.infix_of_encode <| by
      rwa [Utf8.encode_cons, Utf8.encode_nil, List.append_nil]
    cases control.symm.trans (plain character (among.subset (List.mem_singleton_self _)))

/-- The bytes of characters have a line break where the characters have one. -/
theorem unbroken_encode {characters : List Char} :
    ¬ [13, 10] <:+: Utf8.encode characters ↔ Unbroken characters := by
  refine not_congr ⟨fun found => Utf8.infix_of_encode found, ?_⟩
  rintro ⟨before, after, rfl⟩
  rw [Utf8.encode_append, Utf8.encode_append]
  exact ⟨_, _, rfl⟩

theorem mem_utf8Bytes
    {character : Char}
    {byte : UInt8}
    {text : String}
    (one : String.utf8EncodeChar character = [byte]) :
    byte ∈ utf8Bytes text ↔ character ∈ text.toList := by
  rw [utf8Bytes_eq]
  constructor
  · intro among
    obtain ⟨before, after, bytes⟩ := List.append_of_mem among
    have found : Utf8.encode [character] <:+: Utf8.encode text.toList :=
      ⟨before, after, by rw [bytes, Utf8.encode_cons, one, List.append_assoc]; rfl⟩
    exact (Utf8.infix_of_encode found).subset (List.mem_singleton_self _)
  · intro among
    obtain ⟨before, after, characters⟩ := List.append_of_mem among
    rw [characters, Utf8.encode_append, Utf8.encode_cons, one]
    exact List.mem_append_right _ List.mem_cons_self

theorem head?_utf8Bytes_slash {text : String} :
    (utf8Bytes text).head? = some 47 ↔ startsWith "/" text = true := by
  rw [startsWith_slash, utf8Bytes_eq]
  constructor
  · intro isHead
    obtain ⟨rest, bytes⟩ := List.head?_eq_some_iff.mp isHead
    obtain ⟨after, characters⟩ := Utf8.prefix_of_encode (show Utf8.encode ['/'] <+: _ from
      ⟨rest, bytes.symm⟩)
    exact ⟨after, characters.symm⟩
  · rintro ⟨rest, characters⟩
    rw [characters]
    rfl

section Forms

variable {form : RequestForm} {method target : String} {request : Request}

/-- A form with single spaces in its request line, as parts of bytes. -/
def RequestForm.parts (form : RequestForm) (method target : String) : Request where
  method := method
  target := utf8Bytes target
  fields := form.fields.map fun field => (field.1, utf8Bytes field.2)
  body := form.body

theorem headerLine_utf8Bytes (field : String × String) :
    headerLine (field.1, utf8Bytes field.2) = Utf8.encode (fieldLine field) := by
  unfold headerLine fieldLine
  rw [utf8Bytes_eq, utf8Bytes_eq, Utf8.encode_append, Utf8.encode_cons]
  rfl

theorem requestLine_parts : (form.parts method target).requestLine =
    utf8Bytes (method ++ " " ++ target ++ " " ++ httpVersion) := by
  simp only [utf8Bytes_append, List.append_assoc]
  rfl

theorem encode_joinCrlf (first : List Char) (rest : List (List Char)) :
    Utf8.encode (joinCrlf first rest) =
      Utf8.encode first ++ (rest.map Utf8.encode).flatMap fun line => 13 :: 10 :: line := by
  unfold joinCrlf
  rw [Utf8.encode_append]
  congr 1
  induction rest with
  | nil => rfl
  | cons line rest ih =>
      rw [List.flatMap_cons, List.map_cons, List.flatMap_cons, Utf8.encode_append, ih]
      rfl

theorem head_parts
    (spaced : form.requestLine = method ++ " " ++ target ++ " " ++ httpVersion) :
    (form.parts method target).head = utf8Bytes form.head := by
  unfold Request.head RequestForm.head
  rw [requestLine_parts, ← spaced, utf8Bytes_eq, utf8Bytes_eq, String.toList_ofList,
    encode_joinCrlf]
  congr 2
  unfold RequestForm.parts
  rw [List.map_map, List.map_map]
  exact List.map_congr_left fun field _ => headerLine_utf8Bytes field

theorem bytes_parts
    (spaced : form.requestLine = method ++ " " ++ target ++ " " ++ httpVersion) :
    (form.parts method target).bytes = form.bytes := by
  unfold Request.bytes RequestForm.bytes
  rw [head_parts spaced]
  rfl

/-- A plain form that is read is a request of the grammar. -/
theorem RequestForm.Readable.inGrammar
    (readable : form.Readable method target)
    (plain : form.Plain method target) :
    ∃ request : Request, request.bytes = form.bytes ∧ request.InGrammar := by
  obtain ⟨blank, isBlank, spaced⟩ := plain.spaced
  have unbroken : Unbroken (target ++ blank).toList := by
    refine fun found => readable.unbroken (found.trans ?_)
    rw [spaced]
    simp only [String.toList_append]
    exact ⟨method.toList ++ " ".toList, " ".toList ++ httpVersion.toList, by simp⟩
  refine ⟨form.parts method (target ++ blank), bytes_parts spaced, ?_⟩
  exact
    { token := readable.token
      originForm := by
        obtain ⟨rest, characters⟩ := startsWith_slash.mp readable.originForm
        refine head?_utf8Bytes_slash.mpr (startsWith_slash.mpr ⟨rest ++ blank.toList, ?_⟩)
        rw [String.toList_append, characters, List.cons_append]
      spaceless := by
        intro found
        have among := (@mem_utf8Bytes ' ' 32 _ rfl).mp found
        rw [String.toList_append, List.mem_append] at among
        rcases among with among | among
        · cases readable.word _ among
        · exact (isBlank _ among).2 rfl
      unbroken := by
        change ¬ _ <:+: utf8Bytes (target ++ blank)
        rw [utf8Bytes_eq]
        exact unbroken_encode.mpr unbroken
      names := List.forall_mem_map.mpr readable.names
      distinct := by
        unfold RequestForm.parts
        rw [List.map_map]
        exact readable.distinct
      values := List.forall_mem_map.mpr fun field member =>
        uncontrolled_utf8Bytes.mpr (plain.values field member)
      unchunked := List.forall_mem_map.mpr readable.unchunked
      announced := List.forall_mem_map.mpr fun field member isLength => by
        have decimal := plain.announced field member isLength
        have parsed := readable.announced field member isLength
        rw [trim_of_isDecimal decimal] at parsed
        exact ⟨field.2, rfl, decimal, digitsValue_of_parseUsize decimal parsed⟩
      unannounced := fun none => readable.unannounced (List.forall_mem_map.mp none)
      short := by
        rw [head_parts spaced]
        exact readable.short
      fits := readable.fits }

theorem exists_texts
    {fields : List (String × List UInt8)}
    (texts : ∀ field ∈ fields, ∃ value, utf8Bytes value = field.2) :
    ∃ read : List (String × String),
      read.map (fun field => (field.1, utf8Bytes field.2)) = fields := by
  induction fields with
  | nil => exact ⟨[], rfl⟩
  | cons field fields ih =>
      obtain ⟨⟨value, isValue⟩, texts⟩ := List.forall_mem_cons.mp texts
      obtain ⟨read, isRead⟩ := ih texts
      exact ⟨(field.1, value) :: read, by rw [List.map_cons, isRead, isValue]⟩

theorem parseUsize_of_isLength
    {value : String}
    {length : Nat}
    (isLength : IsLength (utf8Bytes value) length)
    (fits : length ≤ maxHttpBodyBytes) :
    parseUsize (trim value) = some length := by
  obtain ⟨text, same, decimal, rfl⟩ := isLength
  rw [utf8Bytes_eq, utf8Bytes_eq, Utf8.encode_injective.eq_iff, String.toList_inj] at same
  subst same
  rw [trim_of_isDecimal decimal]
  exact parseUsize_of_isDecimal decimal (fits.trans_lt (by decide))

/-- A request of the grammar is read if it is legible. -/
theorem Request.InGrammar.exists_readable
    (grammatical : request.InGrammar)
    (legible : request.Legible) :
    ∃ (form : RequestForm) (method target : String), form.bytes = request.bytes ∧
      form.Readable method target := by
  obtain ⟨method, target, fields, body⟩ := request
  obtain ⟨word, blank, isTarget, isWord, isBlank⟩ := legible.target
  obtain ⟨read, isRead⟩ := exists_texts legible.values
  dsimp only at isTarget isRead
  subst isTarget isRead
  let form : RequestForm := ⟨method ++ " " ++ (word ++ blank) ++ " " ++ httpVersion, read, body⟩
  have spaced : form.requestLine = method ++ " " ++ (word ++ blank) ++ " " ++ httpVersion := rfl
  have values : ∀ field ∈ read, ∀ character ∈ field.2.toList, headerControl character = false :=
    fun field member => uncontrolled_utf8Bytes.mp (List.forall_mem_map.mp grammatical.values field member)
  have originForm : startsWith "/" word = true := by
    obtain ⟨rest, characters⟩ :=
      startsWith_slash.mp (head?_utf8Bytes_slash.mp grammatical.originForm)
    rw [String.toList_append] at characters
    cases split : word.toList with
    | nil =>
        rw [split, List.nil_append] at characters
        rw [characters] at isBlank
        cases isBlank '/' List.mem_cons_self
    | cons first tail =>
        rw [split] at characters
        obtain ⟨rfl, -⟩ := List.cons_eq_cons.mp characters
        exact startsWith_slash.mpr ⟨tail, split⟩
  refine ⟨form, method, word, (bytes_parts spaced).symm, ?_⟩
  exact
    { token := grammatical.token
      originForm
      names := List.forall_mem_map.mp grammatical.names
      distinct := by
        have distinct := grammatical.distinct
        rw [List.map_map] at distinct
        exact distinct
      unchunked := List.forall_mem_map.mp grammatical.unchunked
      unannounced := fun none => grammatical.unannounced (List.forall_mem_map.mpr none)
      short := by
        rw [← head_parts spaced]
        exact grammatical.short
      fits := grammatical.fits
      unbroken := by
        have unbroken : Unbroken (word ++ blank).toList := by
          rw [← unbroken_encode, ← utf8Bytes_eq]
          exact grammatical.unbroken
        have plainMethod : '\r' ∉ (method ++ " ").toList := by
          rw [String.toList_append, List.mem_append, not_or]
          exact ⟨notMem_return (word_of_isHttpToken grammatical.token).2, by decide⟩
        have pieces : form.requestLine.toList = (method ++ " ").toList ++
            ((word ++ blank).toList ++ (" " ++ httpVersion).toList) := by
          simp only [spaced, String.toList_append, List.append_assoc]
        rw [pieces]
        exact unbroken_append plainMethod (unbroken_append_of_notMem unbroken (by decide))
      words := splitWhitespace_requestLine grammatical.token originForm isWord isBlank
      unbrokenValues := fun field member =>
        unbroken_of_notMem (notMem_return_of_plain (values field member))
      values := fun field member character inside =>
        values field member character (mem_of_mem_trimMatches inside)
      announced := fun field member isLength =>
        parseUsize_of_isLength (List.forall_mem_map.mp grammatical.announced field member isLength)
          grammatical.fits }

/-- Bytes without a line break do not end a head. -/
theorem splitHead_append_left
    {line rest : List UInt8}
    (unbroken : ¬ [13, 10] <:+: line)
    (goesOn : rest.head? ≠ some 10) :
    splitHead (line ++ rest) =
      (splitHead rest).map fun parts => (line ++ parts.1, parts.2) := by
  induction line with
  | nil => exact Option.map_id'.symm
  | cons byte line ih =>
      have notBreak : ∀ tail, byte = 13 → line ++ rest = 10 :: 13 :: 10 :: tail → False := by
        rintro tail rfl same
        cases line with
        | nil =>
            rw [List.nil_append] at same
            exact goesOn (same ▸ rfl)
        | cons next line =>
            obtain ⟨rfl, -⟩ := List.cons_eq_cons.mp same
            exact unbroken ⟨[], line, rfl⟩
      have unbrokenLine : ¬ [13, 10] <:+: line := fun found =>
        unbroken (found.trans (List.suffix_cons _ _).isInfix)
      rw [List.cons_append, splitHead.eq_3 _ _ notBreak, ih unbrokenLine, Option.map_map]
      rfl

/-- Lines with something on them do not end a head either. -/
theorem splitHead_flatMap
    {lines : List (List UInt8)}
    (filled : ∀ line ∈ lines, line ≠ [] ∧ 13 ∉ line)
    (body : List UInt8) :
    splitHead ((lines.flatMap fun line => 13 :: 10 :: line) ++ 13 :: 10 :: 13 :: 10 :: body) =
      some (lines.flatMap fun line => 13 :: 10 :: line, body) := by
  induction lines with
  | nil => rfl
  | cons line lines ih =>
      obtain ⟨⟨isSome, plain⟩, filled⟩ := List.forall_mem_cons.mp filled
      have unbroken : ¬ [13, 10] <:+: line := fun found => plain (found.subset List.mem_cons_self)
      have goesOn : ((lines.flatMap fun line => 13 :: 10 :: line) ++
          13 :: 10 :: 13 :: 10 :: body).head? ≠ some 10 := by
        cases lines <;> exact fun same => absurd (Option.some.inj same) (by decide)
      have later := splitHead_append_left unbroken goesOn
      rw [ih filled] at later
      obtain ⟨byte, rest, rfl⟩ := List.exists_cons_of_ne_nil isSome
      have other : byte ≠ 13 := fun same => plain (same ▸ List.mem_cons_self)
      rw [List.flatMap_cons, List.append_assoc, List.cons_append, List.cons_append,
        splitHead.eq_3, splitHead.eq_3, later]
      · rfl
      · exact fun _ impossible => absurd impossible (by decide)
      · rintro tail - same
        exact other (List.cons_eq_cons.mp (List.cons_eq_cons.mp same).2).1

theorem notMem_headerLine
    {field : String × List UInt8}
    (token : isHttpToken field.1 = true)
    (uncontrolled : Uncontrolled field.2) :
    headerLine field ≠ [] ∧ 13 ∉ headerLine field := by
  refine ⟨List.append_ne_nil_of_right_ne_nil _ (List.cons_ne_nil _ _), ?_⟩
  unfold headerLine
  rw [List.mem_append, List.mem_cons, not_or, not_or]
  refine ⟨fun found => ?_, by decide, fun found => ?_⟩
  · exact notMem_return (word_of_isHttpToken token).2 ((@mem_utf8Bytes '\r' 13 _ rfl).mp found)
  · obtain ⟨before, after, bytes⟩ := List.append_of_mem found
    exact uncontrolled '\r' (by decide) ⟨before, after, by rw [bytes, List.append_assoc]; rfl⟩

theorem Request.InGrammar.unbroken_requestLine (grammatical : request.InGrammar) :
    ¬ [13, 10] <:+: request.requestLine := by
  have method : 13 ∉ utf8Bytes request.method ++ [32] := by
    rw [List.mem_append, not_or, @mem_utf8Bytes '\r' 13 _ rfl]
    exact ⟨notMem_return (word_of_isHttpToken grammatical.token).2, by decide⟩
  have version : 10 ∉ 32 :: utf8Bytes httpVersion := by
    rw [List.mem_cons, not_or, @mem_utf8Bytes '\n' 10 _ rfl]
    exact ⟨by decide, by decide⟩
  have whole := unbroken_append method (unbroken_append_of_notMem grammatical.unbroken version)
  rwa [List.append_assoc] at whole

/-- The head of a request of the grammar is what is before the first empty line. -/
theorem Request.InGrammar.splitHead_bytes (grammatical : request.InGrammar) :
    splitHead request.bytes = some (request.head, request.body) := by
  have filled : ∀ line ∈ request.fields.map headerLine, line ≠ [] ∧ 13 ∉ line :=
    List.forall_mem_map.mpr fun field member =>
      notMem_headerLine (grammatical.names field member).1 (grammatical.values field member)
  have lines := splitHead_flatMap filled request.body
  unfold Request.bytes Request.head
  rw [List.append_assoc, splitHead_append_left grammatical.unbroken_requestLine, lines]
  · rfl
  · cases request.fields <;> exact fun same => absurd (Option.some.inj same) (by decide)

/-- Text whose bytes are lines consists of lines. -/
theorem exists_lines
    {characters : List Char}
    {first : List UInt8}
    {lines : List (List UInt8)}
    (same : Utf8.encode characters = first ++ lines.flatMap fun line => 13 :: 10 :: line) :
    ∃ start rest, characters = joinCrlf start rest ∧ Utf8.encode start = first ∧
      rest.map Utf8.encode = lines := by
  induction lines generalizing characters first with
  | nil =>
      rw [List.flatMap_nil, List.append_nil] at same
      exact ⟨characters, [], (List.append_nil _).symm, same, rfl⟩
  | cons line lines ih =>
      rw [List.flatMap_cons, List.cons_append, List.cons_append] at same
      obtain ⟨start, after, rfl, isFirst, isRest⟩ :=
        @Utf8.exists_append_of_encode ['\r', '\n'] _ _ _ (List.cons_ne_nil _ _) same
      obtain ⟨next, rest, rfl, isLine, isLines⟩ := ih isRest
      exact ⟨start, next :: rest, rfl, isFirst, by rw [List.map_cons, isLine, isLines]⟩

/-- The line of a field gives its name and its value. -/
theorem field_of_headerLine
    {field : String × List UInt8}
    {read : String × String}
    (unsplit : ':' ∉ field.1.toList)
    (unsplitRead : ':' ∉ read.1.toList)
    (same : Utf8.encode (fieldLine read) = headerLine field) :
    field = (read.1, utf8Bytes read.2) := by
  obtain ⟨before, after, isLine, isName, isValue⟩ :=
    @Utf8.exists_append_of_encode [':'] _ _ _ (List.cons_ne_nil _ _) same
  rw [utf8Bytes_eq, Utf8.encode_injective.eq_iff] at isName
  have isField : fieldLine read = fieldLine (field.1, String.ofList after) := by
    rw [isLine, isName, fieldLine, String.toList_ofList]
    rfl
  have split := splitOnce_fieldLine unsplitRead
  rw [isField, splitOnce_fieldLine unsplit] at split
  obtain rfl := Option.some.inj split
  rw [utf8Bytes_eq, String.toList_ofList, isValue]

theorem fields_of_headerLines
    {fields : List (String × List UInt8)}
    {read : List (String × String)}
    (unsplit : ∀ field ∈ fields, ':' ∉ field.1.toList)
    (unsplitRead : ∀ field ∈ read, ':' ∉ field.1.toList)
    (same : (read.map fieldLine).map Utf8.encode = fields.map headerLine) :
    fields = read.map fun field => (field.1, utf8Bytes field.2) := by
  induction fields generalizing read with
  | nil =>
      rw [List.map_nil, List.map_eq_nil_iff, List.map_eq_nil_iff] at same
      rw [same, List.map_nil]
  | cons field fields ih =>
      cases read with
      | nil => cases same
      | cons first read =>
          obtain ⟨sameLine, same⟩ := List.cons_eq_cons.mp same
          obtain ⟨here, unsplit⟩ := List.forall_mem_cons.mp unsplit
          obtain ⟨hereRead, unsplitRead⟩ := List.forall_mem_cons.mp unsplitRead
          rw [List.map_cons, ← field_of_headerLine here hereRead sameLine,
            ← ih unsplit unsplitRead same]

/-- A request line of the grammar whose bytes are those of a text with three words. -/
theorem Request.InGrammar.exists_blank
    (grammatical : request.InGrammar)
    {line : String}
    (isLine : utf8Bytes line = request.requestLine)
    (words : splitWhitespace line = [method, target, httpVersion]) :
    ∃ blank : String, request.method = method ∧
      utf8Bytes (target ++ blank) = request.target ∧
      (∀ character ∈ blank.toList, isWhiteSpace character = true ∧ character ≠ ' ') ∧
      line = method ++ " " ++ (target ++ blank) ++ " " ++ httpVersion := by
  rw [utf8Bytes_eq] at isLine
  obtain ⟨before, rest, isBefore, isMethod, isRest⟩ :=
    @Utf8.exists_append_of_encode [' '] _ _ _ (List.cons_ne_nil _ _) isLine
  obtain ⟨middle, last, rfl, isTarget, isVersion⟩ :=
    @Utf8.exists_append_of_encode [' '] _ _ _ (List.cons_ne_nil _ _) isRest
  change _ = utf8Bytes request.method at isMethod
  change _ = utf8Bytes httpVersion at isVersion
  rw [utf8Bytes_eq, Utf8.encode_injective.eq_iff] at isMethod isVersion
  subst isMethod isVersion
  have token := word_of_isHttpToken grammatical.token
  have space : isWhiteSpace ' ' = true := by decide
  have filled : ∀ {text : String}, text ≠ "" → text.toList ≠ [] := fun some empty =>
    some (String.toList_eq_nil_iff.mp empty)
  rw [splitWhitespace_eq, isBefore, List.singleton_append, Words.words_append_cons space,
    List.singleton_append, Words.words_append_cons space,
    Words.words_of_word (filled token.1) token.2,
    Words.words_of_word (filled httpVersion_word.1) httpVersion_word.2, List.map_append,
    List.map_append] at words
  obtain ⟨isMethod, words⟩ := List.cons_eq_cons.mp words
  obtain ⟨word, isWords, isTargetWord⟩ : ∃ word, Words.words isWhiteSpace middle = [word] ∧
      String.ofList word = target := by
    cases found : Words.words isWhiteSpace middle with
    | nil => rw [found] at words; cases words
    | cons word more =>
        rw [found] at words
        obtain ⟨isTargetWord, words⟩ := List.cons_eq_cons.mp words
        cases more with
        | nil => exact ⟨word, rfl, isTargetWord⟩
        | cons second more =>
            have lengths := congrArg List.length words
            simp at lengths
  obtain ⟨blank, rest, rfl, isBlank, -, -, -, none⟩ := Words.words_eq_cons isWords
  have isBytes : ∀ {characters : List Char}, Utf8.encode characters = request.target →
      utf8Bytes (String.ofList characters) = request.target := fun same => by
    rwa [utf8Bytes_eq, String.toList_ofList]
  have originForm := grammatical.originForm
  have spaceless := grammatical.spaceless
  rw [← isBytes isTarget, head?_utf8Bytes_slash, startsWith_slash, String.toList_ofList] at originForm
  rw [← isBytes isTarget, @mem_utf8Bytes ' ' 32 _ rfl, String.toList_ofList] at spaceless
  cases blank with
  | cons first blank =>
      obtain ⟨tail, characters⟩ := originForm
      obtain ⟨rfl, -⟩ := List.cons_eq_cons.mp characters
      cases isBlank '/' List.mem_cons_self
  | nil =>
      rw [List.nil_append] at isBefore isTarget spaceless
      rw [String.ofList_toList] at isMethod
      subst isMethod isTargetWord
      refine ⟨String.ofList rest, rfl, ?_, ?_, ?_⟩
      · rw [← String.ofList_append]
        exact isBytes isTarget
      · rw [String.toList_ofList]
        exact fun character among => ⟨Words.isBlank_of_words_eq_nil none character among,
          fun same => spaceless (same ▸ List.mem_append_right _ among)⟩
      · rw [← String.toList_inj, isBefore]
        simp [String.toList_append, String.toList_ofList]

/-- A request of the grammar that is read is legible, and plain where it is read. -/
theorem Request.InGrammar.plain
    (grammatical : request.InGrammar)
    (readable : form.Readable method target)
    (sameBytes : request.bytes = form.bytes) :
    request.Legible ∧ form.Plain method target := by
  have split := readable.splitHead_bytes
  rw [← sameBytes, grammatical.splitHead_bytes, Option.some_inj, Prod.mk.injEq] at split
  obtain ⟨sameHead, sameBody⟩ := split
  have filled : ∀ line ∈ request.fields.map headerLine, line ≠ [] ∧ 13 ∉ line :=
    List.forall_mem_map.mpr fun field member =>
      notMem_headerLine (grammatical.names field member).1 (grammatical.values field member)
  obtain ⟨first, rest, isHead, isLine, areLines⟩ :=
    exists_lines ((utf8Bytes_eq form.head).symm.trans sameHead.symm)
  have unbroken : ∀ line ∈ first :: rest, Unbroken line := by
    refine List.forall_mem_cons.mpr ⟨?_, fun line member => ?_⟩
    · rw [← unbroken_encode, isLine]
      exact grammatical.unbroken_requestLine
    · have isLine : Utf8.encode line ∈ request.fields.map headerLine :=
        areLines ▸ List.mem_map_of_mem member
      exact unbroken_encode.mp fun found => (filled _ isLine).2 (found.subset List.mem_cons_self)
  have lines := readable.lines
  rw [isHead, splitCrlf_joinCrlf unbroken] at lines
  obtain ⟨rfl, rfl⟩ := List.cons_eq_cons.mp lines
  rw [← utf8Bytes_eq] at isLine
  obtain ⟨blank, isMethod, isTarget, isBlank, spaced⟩ :=
    grammatical.exists_blank isLine readable.words
  have fields := fields_of_headerLines (fun field member => (grammatical.names field member).2)
    (fun field member => (readable.names field member).2) areLines
  have values := grammatical.values
  have announced := grammatical.announced
  rw [fields, List.forall_mem_map] at values announced
  constructor
  · exact
      { values := by
          rw [fields, List.forall_mem_map]
          exact fun field _ => ⟨field.2, rfl⟩
        target := ⟨target, blank, isTarget, readable.word, fun character among =>
          (isBlank character among).1⟩ }
  · exact
      { spaced := ⟨blank, isBlank, spaced⟩
        values := fun field member => uncontrolled_utf8Bytes.mp (values field member)
        announced := fun field member isLength => by
          obtain ⟨text, same, decimal, -⟩ := announced field member isLength
          rw [utf8Bytes_eq, utf8Bytes_eq, Utf8.encode_injective.eq_iff, String.toList_inj] at same
          rwa [same] }

end Forms

/-- The parser accepts bytes exactly if they are in the grammar. -/
def AcceptsGrammar (bytes : List UInt8) : Prop :=
  (∃ request, parseRequest bytes = .ok request) ↔
    ∃ request : Request, request.bytes = bytes ∧ request.InGrammar

/-- What is read of bytes is read again when it is printed. -/
def ReadsPrinted (bytes : List UInt8) : Prop :=
  ∀ request, parseRequest bytes = .ok request → parseRequest request.form.bytes = .ok request

/-- Where the parser and the grammar agree on bytes: what is read of them is plain, and what they
are a request of the grammar of is legible. -/
structure Agrees (bytes : List UInt8) : Prop where
  plain : ∀ (form : RequestForm) (method target : String), form.bytes = bytes →
    form.Readable method target → form.Plain method target
  legible : ∀ request : Request, request.bytes = bytes → request.InGrammar → request.Legible

theorem acceptsGrammar_iff {bytes : List UInt8} : AcceptsGrammar bytes ↔ Agrees bytes := by
  unfold AcceptsGrammar
  rw [parseRequest_isOk_iff]
  constructor
  · intro accepts
    constructor
    · intro form method target isBytes readable
      obtain ⟨request, sameBytes, grammatical⟩ :=
        accepts.mp ⟨form, method, target, isBytes, readable⟩
      exact (grammatical.plain readable (sameBytes.trans isBytes.symm)).2
    · intro request isBytes grammatical
      obtain ⟨form, method, target, sameBytes, readable⟩ :=
        accepts.mpr ⟨request, isBytes, grammatical⟩
      exact (grammatical.plain readable (isBytes.trans sameBytes.symm)).1
  · intro agrees
    constructor
    · rintro ⟨form, method, target, rfl, readable⟩
      exact readable.inGrammar (agrees.plain form method target rfl readable)
    · rintro ⟨request, rfl, grammatical⟩
      exact grammatical.exists_readable (agrees.legible request rfl grammatical)

/-- The parser keeps to its grammar, and reads what is printed, exactly where what it reads has single
spaces in the request line, no control characters around a value and digits alone for the length,
and what the grammar allows is text, without white space inside the target. -/
theorem parseRequest_grammar_iff (bytes : List UInt8) :
    AcceptsGrammar bytes ∧ ReadsPrinted bytes ↔ Agrees bytes := by
  rw [acceptsGrammar_iff]
  exact and_iff_left fun _ => parseRequest_printed

/-- A post that announces its body with a sign. -/
def signedForm : RequestForm where
  requestLine := "POST / HTTP/1.1"
  fields := [("Content-Length", "+1")]
  body := [120]

theorem readable_signedForm : signedForm.Readable "POST" "/" where
  token := by decide
  originForm := by decide
  names := by decide
  distinct := by decide
  unchunked := by decide
  unannounced := fun unnamed => nomatch unnamed _ List.mem_cons_self
  short := by decide
  fits := by decide
  unbroken := unbroken_of_notMem (by decide)
  words := by decide
  unbrokenValues := fun field member => by
    obtain rfl := List.mem_singleton.mp member
    exact unbroken_of_notMem (by decide)
  values := fun field member character among => by
    obtain rfl := List.mem_singleton.mp member
    have all : ((trim "+1").toList.all fun character => !headerControl character) = true := by
      decide
    simpa using List.all_eq_true.mp all character among
  announced := by decide

/-- It is read, and is not in the grammar. -/
theorem not_acceptsGrammar_signed : ¬ ∀ bytes, AcceptsGrammar bytes ∧ ReadsPrinted bytes := by
  intro right
  have agrees := acceptsGrammar_iff.mp (right signedForm.bytes).1
  have plain := agrees.plain signedForm "POST" "/" rfl readable_signedForm
  cases plain.announced _ List.mem_cons_self (by decide)

end WebGateway
end YunXi
