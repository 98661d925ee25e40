import Mathlib.Data.List.Basic
import Mathlib.Data.List.TakeWhile

/-!
# Newline-delimited frames

A transport reads frames from a stream that delivers its bytes in chunks of any size.  A frame
ends with a line feed, and is refused when it is longer than the limit of the transport.
-/

namespace YunXi
namespace Protocol

abbrev Bytes := List UInt8

def lineFeed : UInt8 := 10

def carriageReturn : UInt8 := 13

/-- `DEFAULT_MAX_FRAME_BYTES`. -/
def defaultMaxFrameBytes : Nat := 16 * 1024 * 1024

/-- Bytes that a reader holds; what it holds is not empty before the end of the stream. -/
abbrev Chunk := { bytes : Bytes // bytes ≠ [] }

/-- The errors of `read_frame`. -/
inductive ProtocolError (ε : Type)
  | io (error : ε)
  | connectionClosed
  | frameTooLarge (limit : Nat)
  deriving DecidableEq, Repr

/-- The answers of the reader to its next fills, and at last the end of the stream. -/
abbrev Stream (ε : Type) := List (Except ε Chunk)

structure JsonLineTransport (ε : Type) where
  reader : Stream ε
  maxFrameBytes : Nat
  positive : 1 ≤ maxFrameBytes

/-- What becomes of the available bytes. -/
inductive Taken
  | tooLarge
  | more (frame : Bytes)
  | done (frame rest : Bytes)
  deriving DecidableEq, Repr

/-- Take the available bytes up to a line feed, unless the frame gets too large. -/
def takeAvailable (limit : Nat) (frame available : Bytes) : Taken :=
  let delimiter := available.findIdx? (· = lineFeed)
  let take := (delimiter.map (· + 1)).getD available.length
  if frame.length + take > limit then .tooLarge
  else if delimiter.isSome then .done (frame ++ available.take take) (available.drop take)
  else .more (frame ++ available.take take)

/-- Bytes that were not consumed stay in the reader. -/
def putBack {ε : Type} (rest : Bytes) (stream : Stream ε) : Stream ε :=
  if some : rest ≠ [] then .ok ⟨rest, some⟩ :: stream else stream

/-- The loop of `read_frame`. -/
def fillFrame {ε : Type} (limit : Nat) (frame : Bytes) :
    Stream ε → Except (ProtocolError ε) Bytes × Stream ε
  | [] => (.error .connectionClosed, [])
  | .error error :: stream => (.error (.io error), stream)
  | .ok available :: stream =>
      match takeAvailable limit frame available with
      | .tooLarge => (.error (.frameTooLarge limit), .ok available :: stream)
      | .more frame => fillFrame limit frame stream
      | .done frame rest => (.ok frame, putBack rest stream)

/-- The contents that the buffer of the frame goes through in the loop. -/
def buffers {ε : Type} (limit : Nat) (frame : Bytes) : Stream ε → List Bytes
  | .ok available :: stream =>
      match takeAvailable limit frame available with
      | .tooLarge => [frame]
      | .more next => frame :: buffers limit next stream
      | .done next _ => [frame, next]
  | _ => [frame]

/-- Take a byte from the end of a frame. -/
def popLast (byte : UInt8) (frame : Bytes) : Bytes :=
  if frame.getLast? = some byte then frame.dropLast else frame

namespace JsonLineTransport

variable {ε : Type}

def new (reader : Stream ε) : JsonLineTransport ε :=
  ⟨reader, defaultMaxFrameBytes, by decide⟩

def withMaxFrameBytes (transport : JsonLineTransport ε) (maxFrameBytes : Nat) :
    JsonLineTransport ε :=
  { transport with maxFrameBytes := max maxFrameBytes 1, positive := Nat.le_max_right _ _ }

/-- `read_frame`. -/
def readFrame (transport : JsonLineTransport ε) :
    Except (ProtocolError ε) Bytes × JsonLineTransport ε :=
  let (frame, reader) := fillFrame transport.maxFrameBytes [] transport.reader
  (frame.map fun frame => popLast carriageReturn (popLast lineFeed frame),
    { transport with reader })

/-- `read_frame`, a number of times. -/
def readFrames : Nat → JsonLineTransport ε →
    List (Except (ProtocolError ε) Bytes) × JsonLineTransport ε
  | 0, transport => ([], transport)
  | count + 1, transport =>
      let (frame, next) := transport.readFrame
      let (frames, last) := readFrames count next
      (frame :: frames, last)

end JsonLineTransport

section Taking

variable {limit : Nat} {frame line available : Bytes}

theorem findIdx?_line (noFeed : lineFeed ∉ line) (rest : Bytes) :
    (line ++ lineFeed :: rest).findIdx? (· = lineFeed) = some line.length := by
  induction line with
  | nil => rw [List.nil_append, List.findIdx?_cons, decide_eq_true rfl, if_pos rfl, List.length_nil]
  | cons byte line ih =>
      have differ : byte ≠ lineFeed := fun same => noFeed (same ▸ List.mem_cons_self)
      have later := ih fun member => noFeed (List.mem_cons_of_mem _ member)
      rw [List.cons_append, List.findIdx?_cons, later]
      simp [differ]

theorem findIdx?_none (noFeed : lineFeed ∉ available) :
    available.findIdx? (· = lineFeed) = none := by
  rw [List.findIdx?_eq_none_iff]
  intro byte member
  exact decide_eq_false fun same => noFeed (same ▸ member)

/-- A line that ends in the available bytes. -/
theorem takeAvailable_line (noFeed : lineFeed ∉ line) (rest : Bytes) :
    takeAvailable limit frame (line ++ lineFeed :: rest) =
      if frame.length + (line.length + 1) > limit then .tooLarge
      else .done (frame ++ (line ++ [lineFeed])) rest := by
  have split : line ++ lineFeed :: rest = (line ++ [lineFeed]) ++ rest := by simp
  have length : line.length + 1 = (line ++ [lineFeed]).length := by simp
  have taken : (line ++ lineFeed :: rest).take (line.length + 1) = line ++ [lineFeed] := by
    rw [split, length, List.take_left]
  have left : (line ++ lineFeed :: rest).drop (line.length + 1) = rest := by
    rw [split, length, List.drop_left]
  unfold takeAvailable
  rw [findIdx?_line noFeed]
  dsimp only [Option.map_some, Option.getD_some, Option.isSome_some]
  rw [taken, left]
  rfl

/-- The line does not end in the available bytes. -/
theorem takeAvailable_open (limit : Nat) (frame : Bytes) (noFeed : lineFeed ∉ available) :
    takeAvailable limit frame available =
      if frame.length + available.length > limit then .tooLarge
      else .more (frame ++ available) := by
  unfold takeAvailable
  rw [findIdx?_none noFeed]
  dsimp only [Option.map_none, Option.getD_none, Option.isSome_none]
  rw [List.take_length]
  rfl

end Taking

section Filling

variable {ε : Type} {limit : Nat}

/-- The bytes that the chunks of a stream add up to. -/
def bytesOf (chunks : List Chunk) : Bytes :=
  (chunks.map Subtype.val).flatten

/-- A stream that delivers chunks. -/
def deliver (chunks : List Chunk) : Stream ε :=
  chunks.map .ok

/-- What a chunk holds of the bytes of a stream: a line feed after a part of them, or none. -/
theorem chunk_cases {available : Bytes} {line rest later : Bytes} (noFeed : lineFeed ∉ line)
    (same : available ++ later = line ++ lineFeed :: rest) :
    (∃ left, available = line ++ lineFeed :: left ∧ left ++ later = rest) ∨
      ∃ next, line = available ++ next ∧ lineFeed ∉ available ∧ lineFeed ∉ next ∧
        later = next ++ lineFeed :: rest := by
  rcases List.append_eq_append_iff.mp same with ⟨next, rfl, later⟩ | ⟨more, rfl, later⟩
  · refine .inr ⟨next, rfl, ?_, ?_, later⟩
    · exact fun member => noFeed (List.mem_append_left _ member)
    · exact fun member => noFeed (List.mem_append_right _ member)
  · cases more with
    | nil =>
        refine .inr ⟨[], by simp, by simpa using noFeed, List.not_mem_nil, ?_⟩
        simpa using later.symm
    | cons byte left =>
        obtain ⟨rfl, rfl⟩ := List.cons.inj later
        exact .inl ⟨left, rfl, rfl⟩

theorem putBack_deliver (rest : Bytes) (chunks : List Chunk) :
    ∃ kept, putBack rest (deliver chunks : Stream ε) = deliver kept ∧
      bytesOf kept = rest ++ bytesOf chunks := by
  unfold putBack
  split
  · rename_i some
    exact ⟨⟨rest, some⟩ :: chunks, rfl, rfl⟩
  · rename_i none
    refine ⟨chunks, rfl, ?_⟩
    rw [not_not.mp none, List.nil_append]

section Step

variable {frame next rest : Bytes} {available : Chunk} {chunks : List Chunk}

theorem fillFrame_of_tooLarge (taken : takeAvailable limit frame available = .tooLarge) :
    (fillFrame limit frame (deliver (available :: chunks) : Stream ε)).1 =
      .error (.frameTooLarge limit) := by
  change (fillFrame limit frame (.ok available :: deliver chunks)).1 = _
  unfold fillFrame
  rw [taken]

theorem fillFrame_of_more (taken : takeAvailable limit frame available = .more next) :
    fillFrame limit frame (deliver (available :: chunks) : Stream ε) =
      fillFrame limit next (deliver chunks) := by
  change fillFrame limit frame (.ok available :: deliver chunks) = _
  rw [fillFrame, taken]

theorem fillFrame_of_done (taken : takeAvailable limit frame available = .done next rest) :
    fillFrame limit frame (deliver (available :: chunks) : Stream ε) =
      (.ok next, putBack rest (deliver chunks)) := by
  change fillFrame limit frame (.ok available :: deliver chunks) = _
  rw [fillFrame, taken]

end Step

/-- A line that fits is read to its end, however it is delivered. -/
theorem fillFrame_line {line rest : Bytes} {chunks : List Chunk} :
    ∀ frame : Bytes, lineFeed ∉ line → bytesOf chunks = line ++ lineFeed :: rest →
      frame.length + (line.length + 1) ≤ limit →
        ∃ kept, fillFrame limit frame (deliver chunks : Stream ε) =
            (.ok (frame ++ (line ++ [lineFeed])), deliver kept) ∧ bytesOf kept = rest := by
  induction chunks generalizing line with
  | nil =>
      intro frame _ same
      exact absurd same.symm (by simp [bytesOf])
  | cons available chunks ih =>
      intro frame noFeed same fits
      rcases chunk_cases noFeed same with ⟨left, whole, later⟩ |
        ⟨next, split, openChunk, openNext, later⟩
      · obtain ⟨kept, back, bytes⟩ := putBack_deliver left chunks
        have taken : takeAvailable limit frame available =
            .done (frame ++ (line ++ [lineFeed])) left := by
          rw [whole, takeAvailable_line noFeed, if_neg (Nat.not_lt.mpr fits)]
        exact ⟨kept, (fillFrame_of_done taken).trans (congrArg _ back), bytes.trans later⟩
      · have lengths : line.length = available.1.length + next.length := by
          rw [split, List.length_append]
        have taken : takeAvailable limit frame available = .more (frame ++ available.1) := by
          rw [takeAvailable_open limit frame openChunk, if_neg (by omega)]
        rw [fillFrame_of_more taken]
        obtain ⟨kept, filled, bytes⟩ := ih (frame ++ available.1) openNext
          later (by rw [List.length_append]; omega)
        refine ⟨kept, filled.trans ?_, bytes⟩
        rw [split, List.append_assoc, List.append_assoc]

/-- A line that does not fit is refused, however it is delivered. -/
theorem fillFrame_tooLarge {line rest : Bytes} {chunks : List Chunk} :
    ∀ frame : Bytes, lineFeed ∉ line → bytesOf chunks = line ++ lineFeed :: rest →
      limit < frame.length + (line.length + 1) →
        (fillFrame limit frame (deliver chunks : Stream ε)).1 = .error (.frameTooLarge limit) := by
  induction chunks generalizing line with
  | nil =>
      intro frame _ same
      exact absurd same.symm (by simp [bytesOf])
  | cons available chunks ih =>
      intro frame noFeed same large
      rcases chunk_cases noFeed same with ⟨left, whole, -⟩ | ⟨next, split, openChunk, openNext, later⟩
      · refine fillFrame_of_tooLarge ?_
        rw [whole, takeAvailable_line noFeed, if_pos large]
      · have lengths : line.length = available.1.length + next.length := by
          rw [split, List.length_append]
        have taken := takeAvailable_open limit frame openChunk
        by_cases early : frame.length + available.1.length > limit
        · exact fillFrame_of_tooLarge (taken.trans (if_pos early))
        · rw [fillFrame_of_more (taken.trans (if_neg early))]
          exact ih _ openNext later (by rw [List.length_append]; omega)

/-- A stream that ends before the line does gives no frame. -/
theorem fillFrame_ends {chunks : List Chunk} :
    ∀ frame : Bytes, lineFeed ∉ bytesOf chunks →
      (fillFrame limit frame (deliver chunks : Stream ε)).1 =
        if chunks ≠ [] ∧ limit < frame.length + (bytesOf chunks).length then
          .error (.frameTooLarge limit)
        else .error .connectionClosed := by
  induction chunks with
  | nil => exact fun _ _ => rfl
  | cons available chunks ih =>
      intro frame noFeed
      have bytes : bytesOf (available :: chunks) = available.1 ++ bytesOf chunks := rfl
      rw [bytes] at noFeed
      have taken := takeAvailable_open limit frame
        fun member => noFeed (List.mem_append_left _ member)
      rw [bytes, List.length_append]
      by_cases early : frame.length + available.1.length > limit
      · rw [fillFrame_of_tooLarge (taken.trans (if_pos early)), if_pos ⟨nofun, by omega⟩]
      · rw [fillFrame_of_more (taken.trans (if_neg early))]
        refine (ih (frame ++ available.1)
          fun member => noFeed (List.mem_append_right _ member)).trans ?_
        rw [List.length_append, Nat.add_assoc]
        cases chunks with
        | nil =>
            have fits : ¬ limit < frame.length + (available.1.length + (bytesOf []).length) := by
              change ¬ limit < frame.length + (available.1.length + 0)
              omega
            rw [if_neg fun both => both.1 rfl, if_neg fun both => fits both.2]
        | cons next chunks =>
            simp only [ne_eq, reduceCtorEq, not_false_eq_true, true_and]

/-- The buffer of a frame never holds more than the limit. -/
theorem length_le_of_mem_buffers {stream : Stream ε} :
    ∀ {frame : Bytes}, frame.length ≤ limit →
      ∀ buffered ∈ buffers limit frame stream, buffered.length ≤ limit := by
  induction stream with
  | nil => exact fun fits => List.forall_mem_singleton.mpr fits
  | cons answer stream ih =>
      intro frame fits
      cases answer with
      | error error => exact List.forall_mem_singleton.mpr fits
      | ok available =>
          unfold buffers
          have taken : ∀ next, (∀ rest, takeAvailable limit frame available = .done next rest →
                next.length ≤ limit) ∧
              (takeAvailable limit frame available = .more next → next.length ≤ limit) := by
            intro next
            unfold takeAvailable
            dsimp only
            split
            · exact ⟨nofun, nofun⟩
            · rename_i small
              have short : (frame ++ available.1.take
                  ((Option.map (· + 1) (available.1.findIdx? (· = lineFeed))).getD
                    available.1.length)).length ≤ limit := by
                rw [List.length_append, List.length_take]
                omega
              split
              · refine ⟨fun rest same => ?_, nofun⟩
                rw [← (Taken.done.inj same).1]
                exact short
              · refine ⟨nofun, fun same => ?_⟩
                rw [← Taken.more.inj same]
                exact short
          split
          · exact List.forall_mem_singleton.mpr fits
          · rename_i next more
            exact List.forall_mem_cons.mpr ⟨fits, ih ((taken next).2 more)⟩
          · rename_i next rest done
            exact List.forall_mem_cons.mpr
              ⟨fits, List.forall_mem_singleton.mpr ((taken next).1 rest done)⟩

end Filling

/-- A frame that a sender may send: it fits the limit, and its end can be seen. -/
structure Sendable (limit : Nat) (frame : Bytes) : Prop where
  noFeed : lineFeed ∉ frame
  noReturn : frame.getLast? ≠ some carriageReturn
  short : frame.length < limit

/-- Frames as they are sent, each with a line feed. -/
def terminated (frames : List Bytes) : Bytes :=
  (frames.map fun frame => frame ++ [lineFeed]).flatten

namespace JsonLineTransport

variable {ε : Type}

/-- The reader delivers the bytes in chunks, and then ends. -/
def Delivers (transport : JsonLineTransport ε) (bytes : Bytes) : Prop :=
  ∃ chunks, transport.reader = deliver chunks ∧ bytesOf chunks = bytes

/-- The line feed is taken from the end of a frame. -/
theorem popLast_terminated {frame : Bytes} (noReturn : frame.getLast? ≠ some carriageReturn) :
    popLast carriageReturn (popLast lineFeed (frame ++ [lineFeed])) = frame := by
  have first : popLast lineFeed (frame ++ [lineFeed]) = frame := by
    unfold popLast
    rw [List.getLast?_concat, if_pos rfl, List.dropLast_concat]
  rw [first]
  exact if_neg noReturn

/-- One frame is read, and what comes after it stays. -/
theorem readFrame_line {transport : JsonLineTransport ε} {frame rest : Bytes}
    (sendable : Sendable transport.maxFrameBytes frame)
    (delivers : transport.Delivers (frame ++ lineFeed :: rest)) :
    ∃ next, transport.readFrame = (.ok frame, next) ∧ next.Delivers rest ∧
      next.maxFrameBytes = transport.maxFrameBytes := by
  obtain ⟨chunks, reader, bytes⟩ := delivers
  have fits : ([] : Bytes).length + (frame.length + 1) ≤ transport.maxFrameBytes := by
    have short := sendable.short
    rw [List.length_nil]
    omega
  obtain ⟨kept, filled, left⟩ := fillFrame_line [] sendable.noFeed bytes fits
  refine ⟨{ transport with reader := deliver kept }, ?_, ⟨kept, rfl, left⟩, rfl⟩
  unfold readFrame
  rw [reader, filled]
  dsimp only [Except.map]
  rw [List.nil_append, popLast_terminated sendable.noReturn]

/-- Every frame is read, in order, and what comes after them stays. -/
theorem readFrames_terminated {frames : List Bytes} {tail : Bytes} :
    ∀ {transport : JsonLineTransport ε},
      (∀ frame ∈ frames, Sendable transport.maxFrameBytes frame) →
      transport.Delivers (terminated frames ++ tail) →
        ∃ last, readFrames frames.length transport = (frames.map .ok, last) ∧
          last.Delivers tail ∧ last.maxFrameBytes = transport.maxFrameBytes := by
  induction frames with
  | nil => exact fun _ delivers => ⟨_, rfl, delivers, rfl⟩
  | cons frame frames ih =>
      intro transport sendable delivers
      obtain ⟨first, others⟩ := List.forall_mem_cons.mp sendable
      have split : terminated (frame :: frames) ++ tail =
          frame ++ lineFeed :: (terminated frames ++ tail) := by
        simp [terminated]
      rw [split] at delivers
      obtain ⟨next, read, left, same⟩ := readFrame_line first delivers
      obtain ⟨last, later, leftLater, sameLater⟩ :=
        ih (same ▸ others) left
      refine ⟨last, ?_, leftLater, sameLater.trans same⟩
      rw [List.length_cons, readFrames, read]
      dsimp only
      rw [later]
      rfl

/-- What is read of what follows the frames. -/
structure Ends (transport : JsonLineTransport ε) (tail : Bytes) : Prop where
  /-- A frame that is too long is refused. -/
  tooLarge : ∀ frame rest, tail = frame ++ lineFeed :: rest → lineFeed ∉ frame →
    transport.maxFrameBytes < frame.length + 1 →
      transport.readFrame.1 = .error (.frameTooLarge transport.maxFrameBytes)
  /-- A stream that ends inside a frame gives no frame. -/
  closed : lineFeed ∉ tail →
    transport.readFrame.1 =
      if transport.maxFrameBytes < tail.length then
        .error (.frameTooLarge transport.maxFrameBytes)
      else .error .connectionClosed

theorem ends {transport : JsonLineTransport ε} {tail : Bytes}
    (delivers : transport.Delivers tail) : transport.Ends tail := by
  obtain ⟨chunks, reader, bytes⟩ := delivers
  have read : transport.readFrame.1 =
      (fillFrame transport.maxFrameBytes [] (deliver chunks)).1.map
        fun frame => popLast carriageReturn (popLast lineFeed frame) := by
    rw [← reader]
    rfl
  constructor
  · intro frame rest split noFeed large
    rw [read, fillFrame_tooLarge [] noFeed (bytes.trans split) (by rw [List.length_nil]; omega)]
    rfl
  · intro noFeed
    rw [read, fillFrame_ends [] (bytes ▸ noFeed), bytes, List.length_nil, Nat.zero_add]
    by_cases large : transport.maxFrameBytes < tail.length
    · have some : chunks ≠ [] := by
        rintro rfl
        rw [← bytes] at large
        exact absurd large (Nat.not_lt_zero _)
      rw [if_pos ⟨some, large⟩, if_pos large]
      rfl
    · rw [if_neg fun both => large both.2, if_neg large]
      rfl

/-- Frames are read back as they were sent, however they are delivered; what follows them is
refused when it is too long, and is no frame when the stream ends in it. -/
theorem frames_read_back (transport : JsonLineTransport ε) (frames : List Bytes) (tail : Bytes)
    (sendable : ∀ frame ∈ frames, Sendable transport.maxFrameBytes frame)
    (delivers : transport.Delivers (terminated frames ++ tail)) :
    ∃ last, readFrames frames.length transport = (frames.map .ok, last) ∧
      last.maxFrameBytes = transport.maxFrameBytes ∧ last.Ends tail ∧
        ∀ buffered ∈ buffers last.maxFrameBytes [] last.reader,
          buffered.length ≤ last.maxFrameBytes := by
  obtain ⟨last, read, left, same⟩ := readFrames_terminated sendable delivers
  exact ⟨last, read, same, ends left, length_le_of_mem_buffers (Nat.zero_le _)⟩

/-- Two frames and an empty one, in three chunks, and a stream that ends in the fourth. -/
theorem frames_read_back_chunks :
    let reader : Stream Unit :=
      deliver [⟨[97], by decide⟩, ⟨[98, 10, 99, 10], by decide⟩, ⟨[10, 100], by decide⟩]
    let transport := (JsonLineTransport.new reader).withMaxFrameBytes 4
    ∃ last, readFrames 3 transport = ([.ok [97, 98], .ok [99], .ok []], last) ∧
      last.maxFrameBytes = 4 ∧ last.Ends [100] ∧
        ∀ buffered ∈ buffers last.maxFrameBytes [] last.reader,
          buffered.length ≤ last.maxFrameBytes := by
  intro reader transport
  refine frames_read_back transport [[97, 98], [99], []] [100] ?_ ⟨_, rfl, rfl⟩
  refine List.forall_mem_cons.mpr ⟨⟨by decide, by decide, by decide⟩, ?_⟩
  refine List.forall_mem_cons.mpr ⟨⟨by decide, by decide, by decide⟩, ?_⟩
  exact List.forall_mem_singleton.mpr ⟨by decide, by decide, by decide⟩

end JsonLineTransport

end Protocol
end YunXi
