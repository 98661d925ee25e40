import YunXi.Program.SortedMap
import YunXi.Program.Strings
import YunXi.WebContract.Rpc

/-!
# HTTP requests

A request is read from bytes: a head of lines up to an empty line, and a body as long as the
head announces.  What is incomplete so far is told apart from what is malformed.
-/

namespace YunXi
namespace WebGateway

open Protocol (isWhiteSpace)
open Strings (trimMatches startsWith)
open WebContract

def maxHttpHeaderBytes : Nat := 16 * 1024
def maxHttpBodyBytes : Nat := maxFrameBytes
def httpVersion : String := "HTTP/1.1"

inductive HttpParseError
  | incomplete
  | tooLarge (kind : String) (maximum : Nat)
  | malformed (message : String)
  deriving DecidableEq, Repr

variable (text : String)

/-- A text that is not empty and has no control characters and no white space. -/
def isHttpToken : Bool :=
  text ≠ "" && text.toList.all tokenCharacter

/-- `to_ascii_lowercase`. -/
def asciiLowercase : String :=
  String.ofList (text.toList.map Char.toLower)

def eqIgnoreAsciiCase (left right : String) : Bool :=
  asciiLowercase left = asciiLowercase right

/-- A control character other than a tab, in a header value. -/
def headerControl (character : Char) : Bool :=
  (character.toNat < 32 || (127 ≤ character.toNat && character.toNat < 160)) &&
    character ≠ '\t'

def trim : String := trimMatches isWhiteSpace text

structure HttpRequest where
  method : String
  path : String
  headers : SortedMap String String
  body : List UInt8
  validMethod : isHttpToken method = true
  originForm : startsWith "/" path = true
  fits : body.length ≤ maxHttpBodyBytes

namespace HttpRequest

/-- The headers of a request under their names in lower case. -/
def normalizeHeaders : SortedMap String String → List (String × String) →
    Except HttpParseError (SortedMap String String)
  | normalized, [] => .ok normalized
  | normalized, (name, value) :: rest =>
      let name := asciiLowercase name
      if isHttpToken name = false then .error (.malformed "HTTP header name is invalid")
      else if value.toList.any headerControl then
        .error (.malformed "HTTP header value is invalid")
      else if name ∈ normalized.keys then .error (.malformed "duplicate HTTP header")
      else normalizeHeaders (normalized.insert name (trim value)) rest

/-- `HttpRequest::new`. -/
def new (method path : String) (headers : List (String × String)) (body : List UInt8) :
    Except HttpParseError HttpRequest :=
  if validMethod : isHttpToken method = true then
    if originForm : startsWith "/" path = true then
      if fits : body.length ≤ maxHttpBodyBytes then do
        let headers ← normalizeHeaders .empty headers
        return ⟨method, path, headers, body, validMethod, originForm, fits⟩
      else .error (.tooLarge "request body" maxHttpBodyBytes)
    else .error (.malformed "HTTP path must be origin-form")
  else .error (.malformed "HTTP method is invalid")

def header (request : HttpRequest) (name : String) : Option String :=
  request.headers.lookup? (asciiLowercase name)

end HttpRequest

/-- The bytes before the first empty line, and those after it. -/
def splitHead : List UInt8 → Option (List UInt8 × List UInt8)
  | [] => none
  | 13 :: 10 :: 13 :: 10 :: rest => some ([], rest)
  | byte :: rest => (splitHead rest).map fun parts => (byte :: parts.1, parts.2)

/-- `text.split("\r\n")` of its characters. -/
def splitCrlf : List Char → List (List Char)
  | [] => [[]]
  | '\r' :: '\n' :: rest => [] :: splitCrlf rest
  | character :: rest =>
      match splitCrlf rest with
      | [] => [[character]]
      | line :: more => (character :: line) :: more

/-- `text.split_once(separator)`. -/
def splitOnce (separator : Char) (text : String) : Option (String × String) :=
  if text.toList.contains separator then
    some (String.ofList (text.toList.takeWhile (· ≠ separator)),
      String.ofList ((text.toList.dropWhile (· ≠ separator)).drop 1))
  else none

/-- `text.split_whitespace()`. -/
def splitWhitespace : List String :=
  ((text.toList.splitOnP isWhiteSpace).filter (· ≠ [])).map String.ofList

/-- `text.parse::<usize>()`: digits after an optional plus sign. -/
def parseUsize : Option Nat :=
  let digits := match text.toList with
    | '+' :: rest => rest
    | characters => characters
  if digits ≠ [] ∧ digits.all Protocol.isAsciiDigit ∧
      Protocol.Value.digitsValue digits < 2 ^ 64 then
    some (Protocol.Value.digitsValue digits)
  else none

/-- What the lines of a head say. -/
structure Head where
  method : String
  target : String
  headers : List (String × String)
  contentLength : Option Nat
  deriving DecidableEq

/-- The length a header announces, if it is the one that does. -/
def readContentLength (name value : String) (announced : Option Nat) :
    Except HttpParseError (Option Nat) :=
  if eqIgnoreAsciiCase name "content-length" then
    if announced.isSome then .error (.malformed "duplicate content-length header")
    else
      match parseUsize value with
      | none => .error (.malformed "content-length header is invalid")
      | some length =>
          if length > maxHttpBodyBytes then .error (.tooLarge "request body" maxHttpBodyBytes)
          else .ok (some length)
  else .ok announced

/-- The header lines, with the content length among them. -/
def readHeaders : Option Nat → List String →
    Except HttpParseError (List (String × String) × Option Nat)
  | announced, [] => .ok ([], announced)
  | announced, line :: rest =>
      match splitOnce ':' line with
      | none => .error (.malformed "HTTP header line is invalid")
      | some (name, value) =>
          if trim name ≠ name ∨ name = "" then
            .error (.malformed "HTTP header name is invalid")
          else if eqIgnoreAsciiCase name "transfer-encoding" then
            .error (.malformed "chunked transfer encoding is not supported")
          else do
            let announced ← readContentLength name (trim value) announced
            let (headers, announced) ← readHeaders announced rest
            return ((name, trim value) :: headers, announced)

/-- The part of `parse_request` that reads the head. -/
def parseHead : Except HttpParseError Head :=
  match splitCrlf text.toList with
  | [] => .error (.malformed "HTTP request line is missing")
  | requestLine :: lines =>
      match splitWhitespace (String.ofList requestLine) with
      | [method, target, version] =>
          if version ≠ httpVersion then .error (.malformed "HTTP request line is invalid")
          else do
            let (headers, contentLength) ← readHeaders none (lines.map String.ofList)
            return ⟨method, target, headers, contentLength⟩
      | _ => .error (.malformed "HTTP request line is invalid")

/-- A target without its query. -/
def withoutQuery (target : String) : String :=
  match splitOnce '?' target with
  | some (path, _) => path
  | none => target

/-- `std::str::from_utf8`. -/
def decodeUtf8 (bytes : List UInt8) : Option String :=
  String.fromUTF8? ⟨bytes.toArray⟩

/-- `parse_request`. -/
def parseRequest (bytes : List UInt8) : Except HttpParseError HttpRequest :=
  match splitHead bytes with
  | none =>
      if bytes.length > maxHttpHeaderBytes then
        .error (.tooLarge "HTTP headers" maxHttpHeaderBytes)
      else .error .incomplete
  | some (headBytes, body) =>
      if headBytes.length > maxHttpHeaderBytes then
        .error (.tooLarge "HTTP headers" maxHttpHeaderBytes)
      else
        match decodeUtf8 headBytes with
        | none => .error (.malformed "HTTP headers are not UTF-8")
        | some text => do
            let head ← parseHead text
            let length := head.contentLength.getD 0
            if body.length < length then throw .incomplete
            else if body.length ≠ length then
              throw (.malformed "pipelined HTTP requests are not supported")
            else HttpRequest.new head.method (withoutQuery head.target) head.headers body

structure HttpResponse where
  status : Nat
  reason : String
  headers : List (String × String)
  body : List UInt8
  deriving DecidableEq

def utf8Bytes : List UInt8 := text.toUTF8.data.toList

theorem length_utf8Bytes : (utf8Bytes text).length = text.utf8ByteSize := by
  unfold utf8Bytes
  rw [Array.length_toList]
  exact String.size_toByteArray

namespace HttpResponse

end HttpResponse

/-- `response`. -/
def response (status : Nat) (reason : String) (headers : List (String × String))
    (body : List UInt8) : HttpResponse where
  status := status
  reason := reason
  headers := headers ++ [("Content-Length", toString body.length), ("Connection", "close")]
  body := body

/-- `status_reason`. -/
def statusReason : Nat → Nat × String
  | 200 => (200, "OK")
  | 400 => (400, "Bad Request")
  | 404 => (404, "Not Found")
  | 413 => (413, "Payload Too Large")
  | 415 => (415, "Unsupported Media Type")
  | _ => (500, "Internal Server Error")

/-- `text_response`. -/
def textResponse (status : Nat) (text : String) : HttpResponse :=
  response (statusReason status).1 (statusReason status).2
    [("Content-Type", "text/plain; charset=utf-8")] (utf8Bytes text)

/-- `parse_error_response`. -/
def parseErrorResponse : HttpParseError → HttpResponse
  | .tooLarge _ _ => textResponse 413 "request too large"
  | .incomplete | .malformed _ => textResponse 400 "bad request"

/-- The head ends at the first empty line. -/
theorem splitHead_append {head : List UInt8} (body : List UInt8)
    (unfinished : splitHead (head ++ [13, 10, 13]) = none) :
    splitHead (head ++ 13 :: 10 :: 13 :: 10 :: body) = some (head, body) := by
  induction head with
  | nil => rfl
  | cons byte rest ih =>
      have goesOn : ∀ tail : List UInt8, byte :: (rest ++ [13, 10, 13]) = 13 :: 10 :: 13 :: 10 :: tail →
          False := by
        intro tail same
        rw [List.cons_append, same] at unfinished
        cases unfinished
      have unfinishedRest : splitHead (rest ++ [13, 10, 13]) = none := by
        rw [List.cons_append, splitHead.eq_3 _ _ fun tail first second =>
          goesOn tail (by rw [first, second])] at unfinished
        exact Option.map_eq_none_iff.mp unfinished
      rw [List.cons_append, splitHead.eq_3, ih unfinishedRest]
      · rfl
      · rintro tail rfl same
        rcases rest with _ | ⟨second, rest⟩
        · cases same
        rcases rest with _ | ⟨third, rest⟩
        · exact goesOn [13] (by cases same; rfl)
        rcases rest with _ | ⟨fourth, rest⟩
        · cases same
        · exact goesOn (rest ++ [13, 10, 13]) (by cases same; rfl)

theorem decodeUtf8_utf8Bytes : decodeUtf8 (utf8Bytes text) = some text := by
  unfold decodeUtf8 utf8Bytes String.fromUTF8?
  rw [Array.toArray_toList]
  exact dif_pos text.isValidUTF8

theorem HttpRequest.new_eq_ok {method path : String} {headers : List (String × String)}
    {body : List UInt8} {normalized : SortedMap String String}
    (validMethod : isHttpToken method = true) (originForm : startsWith "/" path = true)
    (fits : body.length ≤ maxHttpBodyBytes)
    (reads : normalizeHeaders .empty headers = .ok normalized) :
    HttpRequest.new method path headers body =
      .ok ⟨method, path, normalized, body, validMethod, originForm, fits⟩ := by
  unfold HttpRequest.new
  rw [dif_pos validMethod, dif_pos originForm, dif_pos fits, reads]
  rfl

/-- A request with a readable head and as many bytes after it as it announces. -/
theorem parseRequest_append {text : String} {head : Head} {body : List UInt8}
    (unfinished : splitHead (utf8Bytes text ++ [13, 10, 13]) = none)
    (short : (utf8Bytes text).length ≤ maxHttpHeaderBytes) (reads : parseHead text = .ok head)
    (announced : head.contentLength.getD 0 = body.length) :
    parseRequest (utf8Bytes text ++ 13 :: 10 :: 13 :: 10 :: body) =
      HttpRequest.new head.method (withoutQuery head.target) head.headers body := by
  unfold parseRequest
  rw [splitHead_append body unfinished]
  simp only [if_neg (not_lt.mpr short), decodeUtf8_utf8Bytes, reads]
  change (if body.length < head.contentLength.getD 0 then _ else
    if body.length ≠ head.contentLength.getD 0 then _ else _) = _
  rw [announced, if_neg (lt_irrefl _), if_neg (not_not.mpr rfl)]

end WebGateway
end YunXi
