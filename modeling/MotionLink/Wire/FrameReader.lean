import MotionLink.Wire.Frame
import MotionLink.Wire.Stream

/-!
# Reading frames

## Main definitions

* `FrameReader` — a source with the bytes read past the last message
* `FrameReader.next` — the next message
-/

namespace MotionLink

/-- A source of messages. -/
structure FrameReader where
  limit : Nat
  /-- bytes that came after the last complete message -/
  buffer : Bytes
  source : Source

/-- Read until the buffer holds a message: the message or why there is none, then what stays in
the buffer and in the source. An interrupted read is repeated. -/
def readFrame (limit : Nat) (buffer : Bytes) (source : Source) :
    Except FrameError Frame × Bytes × Source :=
  -- The buffer may hold a message already, so the stream is read only when it does not.
  match Frame.decode limit buffer with
  | .error e => (.error e, buffer, source)
  | .ok (some (frame, rest)) => (.ok frame, rest, source)
  | .ok none =>
    match source with
    | [] => (.error .closed, buffer, [])
    | .bytes [] :: source => (.error .closed, buffer, source)
    | .bytes b :: source => readFrame limit (buffer ++ b) source
    | .fault f :: source =>
      if f.isInterruption then readFrame limit buffer source
      else (.error (.fault f), buffer, source)

theorem size_lt_of_readFrame {limit : Nat} {buffer rest : Bytes} {source left : Source}
    {frame : Frame} (h : readFrame limit buffer source = (.ok frame, rest, left)) :
    rest.length + left.size < buffer.length + source.size := by
  fun_induction readFrame limit buffer source with
  | case1 => simp at h
  | case2 buffer source found behind hfound =>
    simp only [Prod.mk.injEq, Except.ok.injEq] at h
    obtain ⟨rfl, rfl, rfl⟩ := h
    have := Frame.length_lt_of_decode hfound
    omega
  | case3 => simp at h
  | case4 => simp at h
  | case5 buffer hnone b source _ ih =>
    have := ih h
    simp only [List.length_append] at this
    simp only [Source.size, Arrival.size] at *
    omega
  | case6 buffer hnone f source _ ih =>
    have := ih h
    simpa [Source.size, Arrival.size] using this
  | case7 => simp at h

namespace FrameReader

/-- The most bytes that one read takes. -/
def readSize : Nat := 1024

/-- A reader at the start of a source. -/
def ofSource (limit : Nat) (source : Source) : FrameReader :=
  ⟨limit, [], source.inPieces readSize⟩

/-- The next message, or why there is none. -/
def next (reader : FrameReader) : Except FrameError Frame × FrameReader :=
  let (result, buffer, source) := readFrame reader.limit reader.buffer reader.source
  (result, { reader with buffer, source })

/-- The bytes that the reader holds and may still be given. -/
def size (reader : FrameReader) : Nat := reader.buffer.length + reader.source.size

theorem size_lt_of_next {reader behind : FrameReader} {frame : Frame}
    (h : reader.next = (.ok frame, behind)) : behind.size < reader.size := by
  simp only [next, Prod.mk.injEq] at h
  obtain ⟨hframe, rfl⟩ := h
  exact size_lt_of_readFrame (Prod.ext hframe rfl)

end FrameReader

end MotionLink
