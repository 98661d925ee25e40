import YunXi.Program.Utf8
import YunXi.WebGateway.Http

/-!
# The lines of a head

A head ends before the first empty line.  Its lines are those between the line breaks, and no
line breaks are found in them.
-/

namespace YunXi
namespace WebGateway

variable {bytes body head : List UInt8}

/-- A head is followed by the first empty line. -/
theorem splitHead_eq_some (split : splitHead bytes = some (head, body)) :
    bytes = head ++ 13 :: 10 :: 13 :: 10 :: body := by
  induction bytes using splitHead.induct generalizing head with
  | case1 => cases split
  | case2 rest =>
      cases split
      rfl
  | case3 byte rest notEmptyLine ih =>
      rw [splitHead.eq_3 _ _ notEmptyLine] at split
      obtain ⟨⟨head', body'⟩, splitRest, same⟩ := Option.map_eq_some_iff.mp split
      cases same
      rw [List.cons_append, ← ih splitRest]

/-- More bytes belong to the body. -/
theorem splitHead_append_right (more : List UInt8)
    (split : splitHead bytes = some (head, body)) :
    splitHead (bytes ++ more) = some (head, body ++ more) := by
  induction bytes using splitHead.induct generalizing head with
  | case1 => cases split
  | case2 rest =>
      cases split
      rfl
  | case3 byte rest notEmptyLine ih =>
      rw [splitHead.eq_3 _ _ notEmptyLine] at split
      obtain ⟨⟨head', body'⟩, splitRest, same⟩ := Option.map_eq_some_iff.mp split
      cases same
      have goesOn : ∀ tail, byte = 13 → rest ++ more = 10 :: 13 :: 10 :: tail → False := by
        rintro tail rfl same
        have form := splitHead_eq_some splitRest
        have long : 4 ≤ rest.length := by
          rw [form, List.length_append]
          exact Nat.le_add_left_of_le (Nat.le_add_left 4 _)
        rcases rest with _ | ⟨second, _ | ⟨third, _ | ⟨fourth, rest⟩⟩⟩
        · cases splitRest
        · exact absurd long (show ¬ 4 ≤ 1 by decide)
        · exact absurd long (show ¬ 4 ≤ 2 by decide)
        · injection same with isSecond rest_
          injection rest_ with isThird rest_
          injection rest_ with isFourth rest_
          subst isSecond isThird isFourth
          exact notEmptyLine rest rfl rfl
      rw [List.cons_append, splitHead.eq_3 _ _ goesOn, ih splitRest]
      rfl

/-- Up to its last byte the empty line is not there. -/
theorem splitHead_unfinished
    (split : splitHead bytes = some (head, body)) : splitHead (head ++ [13, 10, 13]) = none := by
  cases cut : splitHead (head ++ [13, 10, 13]) with
  | none => rfl
  | some parts =>
      obtain ⟨head', begun⟩ := parts
      have whole := splitHead_append_right (10 :: body) cut
      rw [List.append_assoc, show [13, 10, 13] ++ 10 :: body = 13 :: 10 :: 13 :: 10 :: body from rfl,
        ← splitHead_eq_some split, split] at whole
      have length := congrArg (fun parts => parts.2.length) (Option.some.inj whole)
      simp only [List.length_append, List.length_cons] at length
      omega

/-- Where a whole request is cut, the empty line is not there yet, or the same head is read. -/
theorem splitHead_of_append {first more : List UInt8}
    (split : splitHead (first ++ more) = some (head, body)) :
    (splitHead first = none ∧ first.length < head.length + 4) ∨
      ∃ begun, splitHead first = some (head, begun) ∧ body = begun ++ more := by
  cases cut : splitHead first with
  | none =>
      refine .inl ⟨rfl, Nat.lt_of_not_le fun long => ?_⟩
      have begins : head ++ [13, 10, 13, 10] <+: first ++ more :=
        ⟨body, by rw [splitHead_eq_some split, List.append_assoc]; rfl⟩
      obtain ⟨begun, rfl⟩ := List.prefix_of_prefix_length_le begins (List.prefix_append first more)
        (by rw [List.length_append]; exact long)
      rw [List.append_assoc, show [13, 10, 13, 10] ++ begun = 13 :: 10 :: 13 :: 10 :: begun from rfl,
        splitHead_append begun (splitHead_unfinished split)] at cut
      cases cut
  | some parts =>
      obtain ⟨head', begun⟩ := parts
      have whole := splitHead_append_right more cut
      rw [split] at whole
      cases whole
      exact .inr ⟨begun, rfl, rfl⟩

/-- What a request is accepted for. -/
structure Accepted (bytes : List UInt8) (request : HttpRequest) (text : String) (head : Head)
    (body : List UInt8) : Prop where
  split : splitHead bytes = some (utf8Bytes text, body)
  short : (utf8Bytes text).length ≤ maxHttpHeaderBytes
  reads : parseHead text = .ok head
  announced : head.contentLength.getD 0 = body.length
  built : HttpRequest.new head.method (withoutQuery head.target) head.headers body = .ok request

theorem decodeUtf8_eq_some {text : String} :
    decodeUtf8 bytes = some text ↔ bytes = utf8Bytes text := by
  constructor
  · intro decoded
    unfold decodeUtf8 String.fromUTF8? at decoded
    split at decoded
    case isTrue valid =>
      cases decoded
      rfl
    case isFalse => cases decoded
  · rintro rfl
    exact decodeUtf8_utf8Bytes text

theorem parseRequest_eq_ok {request : HttpRequest} :
    parseRequest bytes = .ok request ↔ ∃ text head body, Accepted bytes request text head body := by
  constructor
  · intro accepted
    unfold parseRequest at accepted
    split at accepted
    · split at accepted <;> cases accepted
    · next headBytes body split =>
      split at accepted
      · cases accepted
      next short =>
      split at accepted
      · cases accepted
      next text decoded =>
      obtain rfl := decodeUtf8_eq_some.mp decoded
      cases reads : parseHead text with
      | error error =>
          rw [reads] at accepted
          cases accepted
      | ok head =>
          rw [reads] at accepted
          change (if body.length < head.contentLength.getD 0 then _ else
            if body.length ≠ head.contentLength.getD 0 then _ else _) = _ at accepted
          split at accepted
          · cases accepted
          split at accepted
          · cases accepted
          next announced =>
          exact ⟨text, head, body, split, not_lt.mp short, reads, (not_not.mp announced).symm,
            accepted⟩
  · rintro ⟨text, head, body, accepted⟩
    rw [splitHead_eq_some accepted.split, parseRequest_append (splitHead_unfinished accepted.split)
      accepted.short accepted.reads accepted.announced]
    exact accepted.built

theorem HttpRequest.fits_of_new {method path : String} {headers : List (String × String)}
    {request : HttpRequest}
    (built : HttpRequest.new method path headers body = .ok request) :
    body.length ≤ maxHttpBodyBytes := by
  unfold HttpRequest.new at built
  split at built
  · split at built
    · split at built
      · assumption
      · cases built
    · cases built
  · cases built

/-- Characters are empty, or start with a line break, or with a character that starts none. -/
theorem lineInduction {motive : List Char → Prop} (nil : motive [])
    (lineBreak : ∀ rest, motive rest → motive ('\r' :: '\n' :: rest))
    (other : ∀ character rest, (∀ tail, character = '\r' → rest = '\n' :: tail → False) →
      motive rest → motive (character :: rest)) (characters : List Char) : motive characters := by
  induction characters using splitCrlf.induct with
  | case1 => exact nil
  | case2 rest ih => exact lineBreak rest ih
  | case3 character rest notBreak _ ih
  | case4 character rest notBreak _ _ _ ih =>
      exact other character rest notBreak ih

theorem splitCrlf_ne_nil (characters : List Char) : splitCrlf characters ≠ [] := by
  induction characters using lineInduction with
  | nil => exact List.cons_ne_nil _ _
  | lineBreak => exact List.cons_ne_nil _ _
  | other character rest notBreak _ =>
      rw [splitCrlf.eq_3 _ _ notBreak]
      split <;> exact List.cons_ne_nil _ _

/-- A character that starts no line break belongs to the first line. -/
theorem splitCrlf_cons {character : Char} {rest : List Char}
    (notBreak : ∀ tail, character = '\r' → rest = '\n' :: tail → False) :
    ∃ line more, splitCrlf rest = line :: more ∧
      splitCrlf (character :: rest) = (character :: line) :: more := by
  obtain ⟨line, more, split⟩ := List.exists_cons_of_ne_nil (splitCrlf_ne_nil rest)
  refine ⟨line, more, split, ?_⟩
  rw [splitCrlf.eq_3 _ _ notBreak, split]

/-- A line break splits the lines before it from those after it. -/
theorem splitCrlf_append_break (first second : List Char) :
    splitCrlf (first ++ '\r' :: '\n' :: second) = splitCrlf first ++ splitCrlf second := by
  induction first using lineInduction with
  | nil => rfl
  | lineBreak rest ih =>
      change [] :: splitCrlf (rest ++ '\r' :: '\n' :: second) = [] :: splitCrlf rest ++ _
      rw [ih, List.cons_append]
  | other character rest notBreak ih =>
      have goesOn : ∀ tail, character = '\r' → rest ++ '\r' :: '\n' :: second = '\n' :: tail →
          False := by
        intro tail isReturn same
        cases rest with
        | nil => cases same
        | cons next rest =>
            cases same
            exact notBreak rest isReturn rfl
      obtain ⟨line, more, split, splitCons⟩ := splitCrlf_cons notBreak
      obtain ⟨line', more', split', splitCons'⟩ := splitCrlf_cons goesOn
      rw [ih, split] at split'
      cases split'
      rw [List.cons_append, splitCons', splitCons]
      rfl

/-- Characters without a line break among them. -/
def Unbroken (characters : List Char) : Prop := ¬ ['\r', '\n'] <:+: characters

theorem splitCrlf_eq_self_iff {line : List Char} : splitCrlf line = [line] ↔ Unbroken line := by
  constructor
  · rintro isLine ⟨before, after, rfl⟩
    rw [List.append_assoc, show ['\r', '\n'] ++ after = '\r' :: '\n' :: after from rfl,
      splitCrlf_append_break] at isLine
    have lengths := congrArg List.length isLine
    have first := List.length_pos_iff.mpr (splitCrlf_ne_nil before)
    have second := List.length_pos_iff.mpr (splitCrlf_ne_nil after)
    rw [List.length_append, List.length_singleton] at lengths
    omega
  · intro unbroken
    induction line using lineInduction with
    | nil => rfl
    | lineBreak rest => exact absurd ⟨[], rest, rfl⟩ unbroken
    | other character rest notBreak ih =>
        have unbrokenRest : Unbroken rest := fun found =>
          unbroken (found.trans (List.suffix_cons character rest).isInfix)
        obtain ⟨line, more, split, splitCons⟩ := splitCrlf_cons notBreak
        rw [ih unbrokenRest] at split
        cases split
        exact splitCons

section Pairs

variable {α : Type} {left right : α} {first line last : List α}

/-- Behind values without its first one a pair is found only where it was. -/
theorem unbroken_append (plain : left ∉ first) (unbroken : ¬ [left, right] <:+: line) :
    ¬ [left, right] <:+: first ++ line := by
  induction first with
  | nil => exact unbroken
  | cons value rest ih =>
      rw [List.mem_cons, not_or] at plain
      intro found
      rcases List.infix_cons_iff.mp found with here | later
      · exact plain.1 (List.cons_prefix_cons.mp here).1
      · exact ih plain.2 later

theorem unbroken_append_of_notMem (unbroken : ¬ [left, right] <:+: line) (plain : right ∉ last) :
    ¬ [left, right] <:+: line ++ last := by
  induction line with
  | nil => exact fun found => plain (found.subset (List.mem_cons_of_mem _ List.mem_cons_self))
  | cons value rest ih =>
      intro found
      rcases List.infix_cons_iff.mp found with here | later
      · obtain ⟨rfl, begins⟩ := List.cons_prefix_cons.mp here
        cases rest with
        | nil => exact plain (begins.subset List.mem_cons_self)
        | cons next rest =>
            obtain ⟨rfl, -⟩ := List.cons_prefix_cons.mp begins
            exact unbroken ⟨[], rest, rfl⟩
      · exact ih (fun inside => unbroken (inside.trans (List.suffix_cons _ _).isInfix)) later

end Pairs

theorem unbroken_of_notMem {line : List Char} (plain : '\r' ∉ line) : Unbroken line := by
  intro found
  exact plain (found.subset List.mem_cons_self)

/-- A first line and others after line breaks. -/
def joinCrlf (first : List Char) (rest : List (List Char)) : List Char :=
  first ++ rest.flatMap fun line => '\r' :: '\n' :: line

theorem joinCrlf_cons (first second : List Char) (rest : List (List Char)) :
    joinCrlf first (second :: rest) = first ++ '\r' :: '\n' :: joinCrlf second rest := rfl

/-- Lines without line breaks are the lines of what they are joined to. -/
theorem splitCrlf_joinCrlf {first : List Char} {rest : List (List Char)}
    (unbroken : ∀ line ∈ first :: rest, Unbroken line) :
    splitCrlf (joinCrlf first rest) = first :: rest := by
  induction rest generalizing first with
  | nil =>
      rw [joinCrlf, List.flatMap_nil, List.append_nil]
      exact splitCrlf_eq_self_iff.mpr (unbroken first List.mem_cons_self)
  | cons second rest ih =>
      obtain ⟨isLine, unbroken⟩ := List.forall_mem_cons.mp unbroken
      rw [joinCrlf_cons, splitCrlf_append_break, splitCrlf_eq_self_iff.mpr isLine,
        ih unbroken]
      rfl

/-- The lines of a text give it back, and have no line breaks. -/
theorem splitCrlf_eq_cons {characters first : List Char} {rest : List (List Char)}
    (split : splitCrlf characters = first :: rest) :
    characters = joinCrlf first rest ∧ ∀ line ∈ first :: rest, Unbroken line := by
  induction characters using lineInduction generalizing first rest with
  | nil =>
      cases split
      exact ⟨rfl, List.forall_mem_singleton.mpr (unbroken_of_notMem List.not_mem_nil)⟩
  | lineBreak tail ih =>
      cases split
      obtain ⟨second, rest, split⟩ := List.exists_cons_of_ne_nil (splitCrlf_ne_nil tail)
      obtain ⟨joined, unbroken⟩ := ih split
      rw [split, joinCrlf_cons, ← joined]
      exact ⟨rfl, List.forall_mem_cons.mpr ⟨unbroken_of_notMem List.not_mem_nil, unbroken⟩⟩
  | other character tail notBreak ih =>
      obtain ⟨line, more, splitTail, splitCons⟩ := splitCrlf_cons notBreak
      rw [split] at splitCons
      cases splitCons
      obtain ⟨joined, unbroken⟩ := ih splitTail
      obtain ⟨isLine, unbroken⟩ := List.forall_mem_cons.mp unbroken
      refine ⟨by rw [joined]; rfl, List.forall_mem_cons.mpr ⟨fun found => ?_, unbroken⟩⟩
      rcases List.infix_cons_iff.mp found with here | later
      · obtain ⟨isReturn, after⟩ := List.cons_prefix_cons.mp here
        obtain ⟨later, rfl⟩ := after
        exact notBreak _ isReturn.symm joined
      · exact isLine later

/-- The end of a head, in characters. -/
def emptyLine : List Char := ['\r', '\n', '\r', '\n']

/-- Lines that are not empty leave no empty line before the one that ends the head. -/
theorem not_infix_emptyLine {characters : List Char}
    (filled : ∀ line ∈ splitCrlf characters, line ≠ []) :
    ¬ emptyLine <:+: characters ++ ['\r', '\n', '\r'] := by
  rintro ⟨before, after, same⟩
  have lines := congrArg splitCrlf same
  rw [emptyLine, List.append_assoc, show ['\r', '\n', '\r', '\n'] ++ after =
    '\r' :: '\n' :: ([] ++ '\r' :: '\n' :: after) from rfl, splitCrlf_append_break,
    splitCrlf_append_break, splitCrlf_append_break characters ['\r']] at lines
  have member : [] ∈ splitCrlf characters ++ splitCrlf ['\r'] := by
    rw [← lines]
    exact List.mem_append_right _ List.mem_cons_self
  rcases List.mem_append.mp member with isLine | isReturn
  · exact filled [] isLine rfl
  · cases List.mem_singleton.mp isReturn

/-- So the head of such lines is what is read of it before the empty line. -/
theorem splitHead_of_lines {text : String} (filled : ∀ line ∈ splitCrlf text.toList, line ≠ [])
    (body : List UInt8) :
    splitHead (utf8Bytes text ++ 13 :: 10 :: 13 :: 10 :: body) = some (utf8Bytes text, body) := by
  refine splitHead_append body ?_
  cases split : splitHead (utf8Bytes text ++ [13, 10, 13]) with
  | none => rfl
  | some parts =>
      refine absurd (Utf8.infix_of_encode ?_) (not_infix_emptyLine filled)
      rw [Utf8.encode_append, ← Utf8.toList_toUTF8]
      exact ⟨parts.1, parts.2, by
        rw [List.append_assoc]
        exact (splitHead_eq_some split).symm⟩

end WebGateway
end YunXi
