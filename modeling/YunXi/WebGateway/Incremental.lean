import YunXi.WebGateway.Printing
import YunXi.WebGateway.Serving

/-!
# Requests that arrive in pieces

A server parses the bytes it has after every read.  What is still incomplete has to stay so until
the last piece, or a request is refused for how its bytes were cut.
-/

namespace YunXi
namespace WebGateway

variable {request : HttpRequest} {body : List UInt8} {text : String} {head : Head}

/-- A beginning of a request is incomplete, unless it is long and has no empty line yet. -/
theorem Accepted.parseRequest_first {first more : List UInt8}
    (accepted : Accepted (first ++ more) request text head body) (goesOn : more ≠ []) :
    parseRequest first =
      if splitHead first = none ∧ maxHttpHeaderBytes < first.length then
        .error (.tooLarge "HTTP headers" maxHttpHeaderBytes)
      else .error .incomplete := by
  unfold parseRequest
  rcases splitHead_of_append accepted.split with ⟨unfinished, -⟩ | ⟨begun, split, rfl⟩
  · rw [unfinished]
    simp only [true_and, gt_iff_lt]
  · rw [split, if_neg (show ¬ (_ ∧ _) from fun both => nomatch both.1)]
    simp only [if_neg (not_lt.mpr accepted.short), decodeUtf8_utf8Bytes, accepted.reads]
    have shorter : begun.length < head.contentLength.getD 0 := by
      rw [accepted.announced, List.length_append]
      exact Nat.lt_add_of_pos_right (List.length_pos_iff.mpr goesOn)
    change (if begun.length < head.contentLength.getD 0 then _ else _) = _
    rw [if_pos shorter]
    rfl

variable {bytes : List UInt8}

theorem Accepted.length_le (accepted : Accepted bytes request text head body) :
    bytes.length ≤ maxRequestBytes := by
  have fits := HttpRequest.fits_of_new accepted.built
  have short := accepted.short
  rw [splitHead_eq_some accepted.split]
  unfold maxRequestBytes
  simp only [List.length_append, List.length_cons]
  omega

/-- What one read gives at most. -/
def readBufferBytes : Nat := 4096

/-- Reads that deliver some bytes. -/
structure DeliversBytes (chunks : List (List UInt8)) (bytes : List UInt8) : Prop where
  filled : ∀ chunk ∈ chunks, chunk ≠ []
  buffered : ∀ chunk ∈ chunks, chunk.length ≤ readBufferBytes
  whole : chunks.flatten = bytes

/-- However the bytes are delivered, the request is read. -/
def ReadsInPieces (bytes : List UInt8) (request : HttpRequest) : Prop :=
  ∀ chunks, DeliversBytes chunks bytes → readRequest [] (chunks.map .ok) = .ok request

/-- No beginning of the bytes is refused, or taken for all of them. -/
def IncompleteBefore (bytes : List UInt8) : Prop :=
  ∀ first more, more ≠ [] → first ++ more = bytes → parseRequest first = .error .incomplete

/-- How many bytes are before the first empty line. -/
def headLength (bytes : List UInt8) : Nat :=
  ((splitHead bytes).map fun parts => parts.1.length).getD 0

theorem Accepted.headLength_eq (accepted : Accepted bytes request text head body) :
    headLength bytes = (utf8Bytes text).length := by
  unfold headLength
  rw [accepted.split]
  rfl

/-- A request is read from its pieces exactly when it is incomplete before each of them. -/
theorem readRequest_eq_ok_iff (accepted : Accepted bytes request text head body)
    {before : List UInt8} {chunks : List (List UInt8)} (filled : ∀ chunk ∈ chunks, chunk ≠ [])
    (whole : before ++ chunks.flatten = bytes) :
    readRequest before (chunks.map .ok) = .ok request ↔
      ∀ count < chunks.length,
        parseRequest (before ++ (chunks.take count).flatten) = .error .incomplete := by
  induction chunks generalizing before with
  | nil =>
      refine iff_of_true ?_ fun count impossible => absurd impossible (Nat.not_lt_zero count)
      rw [List.flatten_nil, List.append_nil] at whole
      rw [List.map_nil, readRequest, requestSoFar, whole,
        parseRequest_eq_ok.mpr ⟨text, head, body, accepted⟩]
      rfl
  | cons chunk rest ih =>
      rw [List.forall_mem_cons] at filled
      rw [List.flatten_cons] at whole
      have goesOn : chunk ++ rest.flatten ≠ [] := fun empty =>
        filled.1 (List.append_eq_nil_iff.mp empty).1
      have length := accepted.length_le
      have first := (whole ▸ accepted).parseRequest_first goesOn
      rw [← whole, List.length_append] at length
      rw [← List.append_assoc] at whole
      have later := ih filled.2 whole
      have counts : (∀ count < (chunk :: rest).length,
          parseRequest (before ++ ((chunk :: rest).take count).flatten) = .error .incomplete) ↔
            parseRequest before = .error .incomplete ∧ ∀ count < rest.length,
              parseRequest (before ++ chunk ++ (rest.take count).flatten) = .error .incomplete := by
        rw [List.length_cons, Nat.forall_lt_succ_left]
        simp only [List.take_zero, List.flatten_nil, List.append_nil, List.take_succ_cons,
          List.flatten_cons, List.append_assoc]
      rw [counts, ← later, List.map_cons, readRequest, requestSoFar, first]
      by_cases long : splitHead before = none ∧ maxHttpHeaderBytes < before.length
      · simp only [if_pos long]
        constructor
        · intro same
          cases same
        · rintro ⟨same, -⟩
          cases same
      · simp only [if_neg long, if_neg (show ¬ before.length > maxRequestBytes by omega),
          if_neg filled.1, true_and]

/-- Reads of single bytes deliver any bytes. -/
theorem delivers_singletons (bytes : List UInt8) : DeliversBytes (bytes.map ([·])) bytes where
  filled := by simp
  buffered := by
    intro chunk member
    obtain ⟨byte, -, rfl⟩ := List.mem_map.mp member
    exact Nat.le_of_ble_eq_true rfl
  whole := by
    induction bytes with
    | nil => rfl
    | cons byte rest ih =>
        rw [List.map_cons, List.flatten_cons, ih]
        rfl

theorem Accepted.readsInPieces_iff (accepted : Accepted bytes request text head body) :
    ReadsInPieces bytes request ↔ IncompleteBefore bytes := by
  constructor
  · intro reads first more goesOn whole
    have singles := delivers_singletons bytes
    have incomplete := (readRequest_eq_ok_iff accepted singles.filled
      ((List.nil_append _).trans singles.whole)).mp (reads _ singles) first.length (by
        rw [List.length_map, ← whole, List.length_append]
        exact Nat.lt_add_of_pos_right (List.length_pos_iff.mpr goesOn))
    rwa [List.nil_append, ← List.map_take, (delivers_singletons _).whole, ← whole,
      List.take_left] at incomplete
  · intro incomplete chunks delivers
    refine (readRequest_eq_ok_iff accepted delivers.filled
      ((List.nil_append _).trans delivers.whole)).mpr fun count before => ?_
    rw [List.nil_append]
    refine incomplete _ (chunks.drop count).flatten (fun empty => ?_) ?_
    · obtain ⟨chunk, rest, cut⟩ :=
        List.exists_cons_of_ne_nil (List.ne_nil_of_length_pos (by
          rw [List.length_drop]
          exact Nat.sub_pos_of_lt before))
      rw [cut, List.flatten_cons] at empty
      exact delivers.filled chunk
        (List.mem_of_mem_drop (cut ▸ List.mem_cons_self : chunk ∈ chunks.drop count))
        (List.append_eq_nil_iff.mp empty).1
    · rw [← List.flatten_append, List.take_append_drop, delivers.whole]

theorem Accepted.incompleteBefore_iff (accepted : Accepted bytes request text head body) :
    IncompleteBefore bytes ↔ headLength bytes + 3 ≤ maxHttpHeaderBytes := by
  rw [accepted.headLength_eq]
  constructor
  · intro incomplete
    have form := splitHead_eq_some accepted.split
    have unfinished := splitHead_unfinished accepted.split
    have whole : (utf8Bytes text ++ [13, 10, 13]) ++ 10 :: body = bytes := by
      rw [form, List.append_assoc]
      rfl
    have first := incomplete _ _ (List.cons_ne_nil 10 body) whole
    have cut : Accepted ((utf8Bytes text ++ [13, 10, 13]) ++ 10 :: body) request text head body :=
      whole ▸ accepted
    rw [cut.parseRequest_first (List.cons_ne_nil 10 body)] at first
    split at first
    · cases first
    next fits =>
      refine le_of_not_gt fun long => fits ⟨unfinished, ?_⟩
      rw [List.length_append]
      exact long
  · rintro fits first more goesOn rfl
    rw [accepted.parseRequest_first goesOn, if_neg]
    rintro ⟨unfinished, long⟩
    rcases splitHead_of_append accepted.split with ⟨-, short⟩ | ⟨begun, split, -⟩
    · omega
    · cases unfinished.symm.trans split

/-- An accepted request is read however its bytes are delivered, and incomplete before its last
byte, exactly when its head leaves room for the empty line within the limit. -/
theorem readRequest_pieces_iff (accepted : parseRequest bytes = .ok request) :
    (ReadsInPieces bytes request ↔ headLength bytes + 3 ≤ maxHttpHeaderBytes) ∧
      (IncompleteBefore bytes ↔ headLength bytes + 3 ≤ maxHttpHeaderBytes) := by
  obtain ⟨text, head, body, accepted⟩ := parseRequest_eq_ok.mp accepted
  exact ⟨accepted.readsInPieces_iff.trans accepted.incompleteBefore_iff,
    accepted.incompleteBefore_iff⟩

/-- A request with a header of some length. -/
def paddedForm (count : Nat) : RequestForm where
  requestLine := "GET / HTTP/1.1"
  fields := [("x", String.ofList (List.replicate count 'a'))]
  body := []

theorem length_paddedForm (count : Nat) :
    (utf8Bytes (paddedForm count).head).length = count + 18 := by
  have ascii : Utf8.IsAscii (List.replicate count 'a') := fun character member => by
    rw [List.eq_of_mem_replicate member]
    rfl
  have line : (Utf8.encode (paddedForm count).requestLine.toList).length = 14 :=
    show (Utf8.encode "GET / HTTP/1.1".toList).length = 14 by decide
  have name : (Utf8.encode ('\r' :: '\n' :: ("x".toList ++ [':']))).length = 4 := by decide
  have field : fieldBytes ("x", String.ofList (List.replicate count 'a')) =
      Utf8.encode ('\r' :: '\n' :: ("x".toList ++ [':'])) ++
        Utf8.encode (List.replicate count 'a') := by
    have padding : (String.ofList (List.replicate count 'a')).toList = List.replicate count 'a' :=
      String.toList_ofList
    rw [← Utf8.encode_append, fieldBytes, fieldLine]
    dsimp only
    rw [padding]
    rfl
  rw [length_head, line, paddedForm, List.flatMap_singleton, field, List.length_append, name,
    Utf8.length_encode_of_isAscii ascii, List.length_replicate]
  omega

theorem readable_paddedForm {count : Nat} (fits : count + 18 ≤ maxHttpHeaderBytes) :
    (paddedForm count).Readable "GET" "/" := by
  have padding : ∀ character ∈ (String.ofList (List.replicate count 'a')).toList,
      character = 'a' := by
    rw [String.toList_ofList]
    exact fun character => List.eq_of_mem_replicate
  have onField : ∀ {P : String × String → Prop},
      P ("x", String.ofList (List.replicate count 'a')) → ∀ field ∈ (paddedForm count).fields,
        P field := fun holds field member => List.mem_singleton.mp member ▸ holds
  have unnamed : eqIgnoreAsciiCase "x" "content-length" = false := by decide
  exact
    { token := by decide
      originForm := by decide
      names := onField (show isHttpToken "x" = true ∧ ':' ∉ "x".toList by decide)
      distinct := List.pairwise_singleton _ _
      unchunked := onField (show eqIgnoreAsciiCase "x" "transfer-encoding" = false by decide)
      unannounced := fun _ => rfl
      short := by rwa [length_paddedForm]
      fits := Nat.zero_le _
      unbroken := unbroken_of_notMem (show '\r' ∉ "GET / HTTP/1.1".toList by decide)
      words := show splitWhitespace "GET / HTTP/1.1" = ["GET", "/", httpVersion] by decide
      unbrokenValues := onField (unbroken_of_notMem fun found => nomatch padding _ found)
      values := onField fun character inside => by
        rw [padding _ (mem_of_mem_trimMatches inside)]
        decide
      announced := onField fun isLength => nomatch unnamed.symm.trans isLength }

theorem headLength_paddedForm {count : Nat} (fits : count + 18 ≤ maxHttpHeaderBytes) :
    headLength (paddedForm count).bytes = count + 18 := by
  unfold headLength
  rw [(readable_paddedForm fits).splitHead_bytes, Option.map_some, Option.getD_some,
    length_paddedForm]

/-- A short request is read in pieces. -/
theorem readRequest_pieces_short : ∃ request, ReadsInPieces (paddedForm 0).bytes request ∧
    IncompleteBefore (paddedForm 0).bytes := by
  have small : 0 + 18 ≤ maxHttpHeaderBytes := Nat.le_of_ble_eq_true rfl
  obtain ⟨request, accepted⟩ :=
    parseRequest_isOk_iff.mpr ⟨_, _, _, rfl, readable_paddedForm small⟩
  have short : headLength (paddedForm 0).bytes + 3 ≤ maxHttpHeaderBytes := by
    rw [headLength_paddedForm small]
    exact Nat.le_of_ble_eq_true rfl
  obtain ⟨inPieces, incomplete⟩ := readRequest_pieces_iff accepted
  exact ⟨request, inPieces.mpr short, incomplete.mpr short⟩

/-- A head of the greatest length is refused when its empty line arrives in two pieces. -/
theorem not_readsInPieces_longest : ¬ ∀ bytes request, parseRequest bytes = .ok request →
    ReadsInPieces bytes request ∧ IncompleteBefore bytes := by
  have longest : 16366 + 18 ≤ maxHttpHeaderBytes := Nat.le_of_ble_eq_true rfl
  obtain ⟨request, accepted⟩ :=
    parseRequest_isOk_iff.mpr ⟨_, _, _, rfl, readable_paddedForm longest⟩
  intro reads
  obtain ⟨text, head, body, whole⟩ := parseRequest_eq_ok.mp accepted
  have fits := whole.incompleteBefore_iff.mp (reads _ request accepted).2
  rw [headLength_paddedForm longest] at fits
  unfold maxHttpHeaderBytes at fits
  omega

end WebGateway
end YunXi
