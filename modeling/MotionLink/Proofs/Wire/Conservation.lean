import MotionLink.Proofs.Wire.Reading

/-!
# Nothing is lost between calls

A reader takes the bytes of its stream in pieces, and keeps what comes behind a frame. It also keeps
what it holds when a call fails, and may be asked again. So the frames returned and the bytes held
are at any time all that the stream has delivered, and where the stream was cut shows nowhere but
in the size that is told of a payload that was too large.

## Main definitions

* `Source.content` — all the bytes of some reads, also behind a failure
* `Source.Flows` — no read fails, and nothing comes behind the end
* `FrameReader.calls` — calls one behind the other, also behind one that failed
* `FrameError.kind` — an error without what it tells
* `FrameReader.Faithful` — what is to be expected of all calls on a reader

## Main results

* `FrameReader.exists_content_eq` — frames returned and bytes held are what was delivered
* `FrameReader.kinds_calls_eq` — readers that will be given the same bytes answer alike
* `FrameReader.faithful_ofSource` — every reader is faithful to its stream
-/

namespace MotionLink

/-! ### The bytes of a stream -/

/-- The bytes that an arrival brings. -/
def Arrival.content : Arrival → Bytes
  | bytes b => b
  | fault _ => []

namespace Source

/-- All the bytes that some reads bring, also those behind a failure. -/
def content (source : Source) : Bytes := source.flatMap Arrival.content

/-- No read fails for good, and nothing comes behind the end of the stream. -/
structure Flows (source : Source) : Prop where
  sound : ∀ f, .fault f ∈ source → f.isInterruption = true
  whole : source.delivered = source.content

variable {arrival : Arrival} {source more : Source}

@[simp] theorem content_nil : content [] = [] := rfl

@[simp] theorem content_cons : content (arrival :: source) = arrival.content ++ content source :=
  List.flatMap_cons

@[simp] theorem content_append : content (source ++ more) = content source ++ content more :=
  List.flatMap_append

/-- Cutting a stream into pieces loses no byte of it. -/
theorem content_inPieces (size : Nat) (source : Source) :
    content (source.inPieces size) = content source := by
  induction source with
  | nil => rfl
  | cons arrival source ih =>
    have hcons : inPieces size (arrival :: source) =
        arrival.inPieces size ++ inPieces size source :=
      List.flatMap_cons
    have hpieces : content (arrival.inPieces size) = arrival.content := by
      cases arrival with
      | bytes bytes =>
        rw [Arrival.inPieces, content, List.flatMap_map]
        exact List.flatMap_id'.trans (flatten_cutIntoPieces size bytes)
      | fault f => rfl
    rw [hcons, content_append, hpieces, ih, content_cons]

/-- What is delivered before the stream ends or fails comes first. -/
theorem delivered_prefix_content (source : Source) : source.delivered <+: source.content := by
  fun_induction delivered source with
  | case1 => exact List.prefix_refl _
  | case2 => exact List.nil_prefix
  | case3 b bytes source ih =>
    rw [content_cons]
    exact (List.prefix_append_right_inj _).mpr ih
  | case4 f source hf ih => exact ih
  | case5 => exact List.nil_prefix

namespace Flows

/-- Behind a piece the stream flows on. -/
theorem tail (h : Flows (arrival :: source)) : Flows source := by
  refine ⟨fun f hf => h.sound f (List.mem_cons_of_mem _ hf), ?_⟩
  have hwhole := h.whole
  rw [content_cons] at hwhole
  cases arrival with
  | bytes bytes =>
    by_cases hne : bytes = []
    · -- Nothing comes behind an end, and so nothing is delivered there either.
      subst hne
      have hnone : content source = [] := hwhole.symm
      have hle := delivered_prefix_content source
      rw [hnone] at hle ⊢
      exact List.prefix_nil.mp hle
    · rw [delivered_bytes hne] at hwhole
      exact List.append_cancel_left hwhole
  | fault f =>
    rw [delivered_interruption (h.sound f List.mem_cons_self)] at hwhole
    exact hwhole

theorem inPieces (h : Flows source) (size : Nat) : Flows (source.inPieces size) := by
  constructor
  · intro f hf
    obtain ⟨arrival, harrival, hpiece⟩ := List.mem_flatMap.mp hf
    cases arrival with
    | bytes bytes => simp [Arrival.inPieces] at hpiece
    | fault g =>
      obtain rfl : f = g := by simpa [Arrival.inPieces] using hpiece
      exact h.sound f harrival
  · rw [delivered_inPieces, content_inPieces, h.whole]

end Flows

end Source

/-! ### Errors -/

namespace FrameError

/-- What kind of error it is. -/
inductive Kind where
  | terminatorInPayload
  | payloadTooLarge
  | fault
  | closed
deriving DecidableEq

/-- An error without what it tells. -/
def kind : FrameError → Kind
  | terminatorInPayload _ => .terminatorInPayload
  | payloadTooLarge .. => .payloadTooLarge
  | fault _ => .fault
  | closed => .closed

end FrameError

/-! ### Taking a frame off more bytes -/

namespace Frame

variable {limit : Nat} {buffer more rest : Bytes} {frame : Frame} {e : FrameError}

theorem length_le_of_decode (h : decode limit buffer = .ok (some (frame, rest))) :
    frame.payload.length ≤ limit := by
  simp only [decode] at h
  split at h
  · cases h
  · rename_i hle
    split at h
    · cases h
    · cases h
      exact Nat.le_of_not_lt hle

/-- A frame that was found is found again with more bytes behind it. -/
theorem decode_append_of_found (h : decode limit buffer = .ok (some (frame, rest))) :
    decode limit (buffer ++ more) = .ok (some (frame, rest ++ more)) := by
  have hlimit := length_le_of_decode h
  obtain ⟨hplain, hbuffer⟩ := eq_append_of_decode h
  rw [hbuffer, List.append_assoc, List.cons_append]
  exact decode_append hplain hlimit

theorem decode_eq_error_iff :
    (∃ e, decode limit buffer = .error e) ↔
      limit < (buffer.takeWhile (· != terminator)).length := by
  simp only [decode]
  constructor
  · rintro ⟨e, he⟩
    split at he
    · assumption
    · split at he <;> cases he
  · intro hlong
    exact ⟨_, if_pos hlong⟩

theorem kind_of_decode_eq_error (h : decode limit buffer = .error e) :
    e.kind = .payloadTooLarge := by
  simp only [decode] at h
  split at h
  · cases h
    rfl
  · split at h <;> cases h

/-- A payload that is too large stays so with more bytes behind it. Its terminator may be among
them, and then another size is told. -/
theorem exists_decode_append_eq_error (h : decode limit buffer = .error e) (more : Bytes) :
    ∃ e', decode limit (buffer ++ more) = .error e' ∧ e'.kind = e.kind := by
  have hlong := decode_eq_error_iff.mp ⟨e, h⟩
  have hle : (buffer.takeWhile (· != terminator)).length ≤
      ((buffer ++ more).takeWhile (· != terminator)).length := by
    rw [List.takeWhile_append]
    split
    · rename_i hall
      rw [hall, List.length_append]
      exact Nat.le_add_right _ _
    · exact Nat.le_refl _
  obtain ⟨e', he'⟩ := decode_eq_error_iff.mpr (Nat.lt_of_lt_of_le hlong hle)
  exact ⟨e', he', (kind_of_decode_eq_error he').trans (kind_of_decode_eq_error h).symm⟩

end Frame

/-! ### One call -/

/-- The bytes on the wire that an answer accounts for: those of its frame. -/
def wireOf : Except FrameError Frame → Bytes
  | .ok frame => frame.toWire
  | .error _ => []

/-- An answer without what an error tells. -/
def kindOf (answer : Except FrameError Frame) : Except FrameError.Kind Frame :=
  answer.mapError FrameError.kind

section ReadFrame

variable {limit : Nat} {buffer rest : Bytes} {source left : Source} {frame : Frame}
  {answer : Except FrameError Frame}

/-- Whether a call succeeds or fails, what it took off the stream is its frame and what is held
behind it. -/
theorem exists_content_readFrame (h : readFrame limit buffer source = (answer, rest, left)) :
    ∃ met, source = met ++ left ∧ buffer ++ Source.content met = wireOf answer ++ rest := by
  fun_induction readFrame limit buffer source with
  | case1 source buffer e he =>
    cases h
    exact ⟨[], rfl, List.append_nil _⟩
  | case2 source buffer found behind hfound =>
    cases h
    obtain ⟨-, hbuffer⟩ := Frame.eq_append_of_decode hfound
    refine ⟨[], rfl, ?_⟩
    simp [wireOf, Frame.toWire, hbuffer]
  | case3 buffer hnone =>
    cases h
    exact ⟨[], rfl, List.append_nil _⟩
  | case4 buffer hnone source =>
    cases h
    exact ⟨[.bytes []], rfl, List.append_nil _⟩
  | case5 buffer hnone bytes source hne ih =>
    obtain ⟨met, rfl, hmet⟩ := ih h
    refine ⟨.bytes bytes :: met, rfl, ?_⟩
    rw [Source.content_cons, ← hmet, List.append_assoc]
    rfl
  | case6 buffer hnone f source hf ih =>
    obtain ⟨met, rfl, hmet⟩ := ih h
    exact ⟨.fault f :: met, rfl, hmet⟩
  | case7 buffer hnone f source hf =>
    cases h
    exact ⟨[.fault f], rfl, List.append_nil _⟩

theorem length_le_of_readFrame (h : readFrame limit buffer source = (.ok frame, rest, left)) :
    frame.payload.length ≤ limit := by
  fun_induction readFrame limit buffer source with
  | case2 source buffer found behind hfound =>
    cases h
    exact Frame.length_le_of_decode hfound
  | case5 buffer hnone bytes source hne ih => exact ih h
  | case6 buffer hnone f source hf ih => exact ih h
  | case1 | case3 | case4 | case7 => cases h

/-- On a stream that flows, a call comes to what it would with all bytes at hand. -/
theorem kindOf_readFrame (limit : Nat) (buffer : Bytes) (h : source.Flows) :
    kindOf (readFrame limit buffer source).1 =
        kindOf (readFrame limit (buffer ++ source.delivered) []).1 ∧
      (readFrame limit buffer source).2.1 ++ (readFrame limit buffer source).2.2.delivered =
        (readFrame limit (buffer ++ source.delivered) []).2.1 ∧
      (readFrame limit buffer source).2.2.Flows := by
  fun_induction readFrame limit buffer source with
  | case1 source buffer e he =>
    obtain ⟨e', he', hkind⟩ := Frame.exists_decode_append_eq_error he (Source.delivered source)
    rw [readFrame, he']
    exact ⟨congrArg Except.error hkind.symm, rfl, h⟩
  | case2 source buffer found behind hfound =>
    rw [readFrame, Frame.decode_append_of_found hfound]
    exact ⟨rfl, rfl, h⟩
  | case3 buffer hnone =>
    rw [Source.delivered, List.append_nil, readFrame, hnone]
    exact ⟨rfl, rfl, h⟩
  | case4 buffer hnone source =>
    -- The stream has ended, and nothing comes behind its end.
    have hnothing : Source.delivered source = [] := by
      have hcontent : Source.content source = [] := h.whole.symm
      rw [h.tail.whole, hcontent]
    rw [Source.delivered, List.append_nil, readFrame, hnone]
    exact ⟨rfl, by rw [hnothing, List.append_nil], h.tail⟩
  | case5 buffer hnone bytes source hne ih =>
    rw [Source.delivered_bytes (fun hnil => hne hnil), ← List.append_assoc]
    exact ih h.tail
  | case6 buffer hnone f source hf ih =>
    rw [Source.delivered_interruption hf]
    exact ih h.tail
  | case7 buffer hnone f source hf => exact absurd (h.sound f List.mem_cons_self) hf

end ReadFrame

/-! ### Many calls -/

namespace FrameReader

variable {reader other : FrameReader}

/-- What some calls answer, one behind the other, and the reader behind them. A call may follow one
that failed. -/
def calls : Nat → FrameReader → List (Except FrameError Frame) × FrameReader
  | 0, reader => ([], reader)
  | n + 1, reader =>
    let (answer, behind) := reader.next
    let (answers, last) := calls n behind
    (answer :: answers, last)

/-- The frames that some calls returned. -/
def framesOf (answers : List (Except FrameError Frame)) : List Frame :=
  answers.filterMap Except.toOption

theorem flatMap_toWire_framesOf_cons (answer : Except FrameError Frame)
    (answers : List (Except FrameError Frame)) :
    (framesOf (answer :: answers)).flatMap Frame.toWire =
      wireOf answer ++ (framesOf answers).flatMap Frame.toWire := by
  cases answer with
  | error e => rfl
  | ok frame => exact List.flatMap_cons

/-- The frames returned and the bytes held are what was held before and what was delivered since. -/
theorem exists_content_eq (n : Nat) (reader : FrameReader) :
    ∃ met, reader.source = met ++ (reader.calls n).2.source ∧
      reader.buffer ++ Source.content met =
        (framesOf (reader.calls n).1).flatMap Frame.toWire ++ (reader.calls n).2.buffer := by
  induction n generalizing reader with
  | zero => exact ⟨[], rfl, List.append_nil _⟩
  | succ n ih =>
    have hread : readFrame reader.limit reader.buffer reader.source =
        (reader.next.1, reader.next.2.buffer, reader.next.2.source) := rfl
    obtain ⟨met, hsource, hmet⟩ := exists_content_readFrame hread
    obtain ⟨more, hmore, hcontent⟩ := ih reader.next.2
    refine ⟨met ++ more, ?_, ?_⟩
    · rw [List.append_assoc]
      exact hsource.trans (congrArg (met ++ ·) hmore)
    · rw [calls, flatMap_toWire_framesOf_cons, Source.content_append, ← List.append_assoc, hmet,
        List.append_assoc, List.append_assoc]
      exact congrArg (wireOf reader.next.1 ++ ·) hcontent

theorem mem_framesOf {answers : List (Except FrameError Frame)} {frame : Frame} :
    frame ∈ framesOf answers ↔ .ok frame ∈ answers := by
  rw [framesOf, List.mem_filterMap]
  constructor
  · rintro ⟨answer, hanswer, hsome⟩
    cases answer with
    | error e => cases hsome
    | ok found =>
      cases hsome
      exact hanswer
  · intro h
    exact ⟨.ok frame, h, rfl⟩

/-- No frame holds a terminator, and none is longer than the limit. -/
theorem forall_mem_framesOf_calls (n : Nat) (reader : FrameReader) :
    ∀ frame ∈ framesOf (reader.calls n).1,
      Frame.terminator ∉ frame.payload ∧ frame.payload.length ≤ reader.limit := by
  induction n generalizing reader with
  | zero => exact nofun
  | succ n ih =>
    intro frame hframe
    rcases List.mem_cons.mp (mem_framesOf.mp hframe) with hfirst | hlater
    · have hnext : readFrame reader.limit reader.buffer reader.source = (.ok frame, _, _) :=
        Prod.ext hfirst.symm rfl
      exact ⟨(eq_append_of_readFrame hnext).1, length_le_of_readFrame hnext⟩
    · exact ih reader.next.2 frame (mem_framesOf.mpr hlater)

/-- Readers that will be given the same bytes, however cut. -/
structure Alike (reader other : FrameReader) : Prop where
  limit : reader.limit = other.limit
  pending : reader.pending = other.pending
  flows : reader.source.Flows
  flowsToo : other.source.Flows

/-- They answer alike, and will be given the same bytes from then on. -/
theorem Alike.next (h : Alike reader other) :
    kindOf reader.next.1 = kindOf other.next.1 ∧ Alike reader.next.2 other.next.2 := by
  obtain ⟨hanswer, hbehind, hflows⟩ := kindOf_readFrame reader.limit reader.buffer h.flows
  obtain ⟨hanswer', hbehind', hflows'⟩ := kindOf_readFrame other.limit other.buffer h.flowsToo
  -- Both answer as if all that is pending were at hand.
  have hall : readFrame reader.limit (reader.buffer ++ reader.source.delivered) [] =
      readFrame other.limit (other.buffer ++ other.source.delivered) [] := by
    rw [h.limit]
    exact congrArg (readFrame other.limit · []) h.pending
  rw [hall] at hanswer hbehind
  exact ⟨hanswer.trans hanswer'.symm, h.limit, hbehind.trans hbehind'.symm, hflows, hflows'⟩

/-- Readers that will be given the same bytes answer alike for ever. -/
theorem kinds_calls_eq (n : Nat) (h : Alike reader other) :
    (reader.calls n).1.map kindOf = (other.calls n).1.map kindOf := by
  induction n generalizing reader other with
  | zero => rfl
  | succ n ih =>
    obtain ⟨hanswer, hbehind⟩ := h.next
    exact List.cons_eq_cons.mpr ⟨hanswer, ih hbehind⟩

/-- What is to be expected of all calls on a reader that starts at a stream. -/
structure Faithful (limit : Nat) (source : Source) : Prop where
  /-- the frames returned and the bytes held are what the reads so far have delivered -/
  conserves : ∀ n, ∃ met,
    source.inPieces readSize = met ++ ((ofSource limit source).calls n).2.source ∧
    (framesOf ((ofSource limit source).calls n).1).flatMap Frame.toWire ++
      ((ofSource limit source).calls n).2.buffer = Source.content met
  /-- the reads deliver the bytes of the stream and no others -/
  pieces : Source.content (source.inPieces readSize) = source.content
  frames : ∀ n, ∀ frame ∈ framesOf ((ofSource limit source).calls n).1,
    Frame.terminator ∉ frame.payload ∧ frame.payload.length ≤ limit
  /-- where a stream is cut and interrupted does not matter to any call -/
  cuts : ∀ other : Source, source.Flows → other.Flows → source.content = other.content → ∀ n,
    ((ofSource limit source).calls n).1.map kindOf = ((ofSource limit other).calls n).1.map kindOf

/-- Every reader is faithful to its stream. -/
theorem faithful_ofSource (limit : Nat) (source : Source) : Faithful limit source := by
  constructor
  case conserves =>
    intro n
    obtain ⟨met, hsource, hmet⟩ := exists_content_eq n (ofSource limit source)
    exact ⟨met, hsource, hmet.symm⟩
  case pieces => exact Source.content_inPieces readSize source
  case frames => exact fun n => forall_mem_framesOf_calls n (ofSource limit source)
  case cuts =>
    intro other hflows hflows' hcontent n
    refine kinds_calls_eq n ⟨rfl, ?_, hflows.inPieces readSize, hflows'.inPieces readSize⟩
    rw [pending_ofSource, pending_ofSource, hflows.whole, hflows'.whole, hcontent]

-- Before its terminator has come, a payload that is too large is told to be shorter than it is.
example :
    ((ofSource 2 [.bytes (Utf8.octets "long#")]).calls 1).1 = [.error (.payloadTooLarge 4 2)] ∧
      ((ofSource 2 [.bytes (Utf8.octets "lon"), .bytes (Utf8.octets "g#")]).calls 1).1 =
        [.error (.payloadTooLarge 3 2)] := by
  decide +kernel

end FrameReader

end MotionLink
