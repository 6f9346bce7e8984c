import MotionLink.Log.Router

/-!
# Chunks of the log

Where a stream is cut into chunks does not matter: the bytes of a line wait for its end, and a
block stays open from one chunk to the next. While no block is open, nothing of the lines before
can be told from the state.

## Main definitions

* `Router.Alike` — two states that show the same from now on, up to the bytes that wait
* `Router.Same` — two states that show the same from now on
* `Router.Input`, `Router.run` — lines, chunks and ends of streams in any order

## Main results

* `LineBuffer.push_append` — the lines of two chunks are those of the chunks together
* `Router.feed_append` — so are the events, and the router behind them
* `Router.same_start_of_flush` — at the end of a stream everything is as at the start
* `Router.run_chunks` — in every state, only the bytes count and not how they are divided
-/

namespace MotionLink

/-! ### Lines -/

namespace LineBuffer

theorem feedOnto_eq (lines : Array (List Char)) (buffer : LineBuffer) (byte : UInt8) :
    feedOnto (lines, buffer) byte =
      (lines ++ (buffer.feed byte).1.toList, (buffer.feed byte).2) := by
  rw [feedOnto]
  rcases buffer.feed byte with ⟨_ | line, behind⟩
  · simp
  · simp

theorem foldl_feedOnto (chunk : Bytes) (lines : Array (List Char)) (buffer : LineBuffer) :
    chunk.foldl feedOnto (lines, buffer) =
      (lines ++ (buffer.push chunk).1, (buffer.push chunk).2) := by
  induction chunk generalizing lines buffer with
  | nil => simp [push]
  | cons byte chunk ih =>
    rw [push, List.foldl_cons, List.foldl_cons, feedOnto_eq, feedOnto_eq, ih, ih]
    refine Prod.ext (Array.ext' ?_) rfl
    simp

theorem push_cons (buffer : LineBuffer) (byte : UInt8) (chunk : Bytes) :
    buffer.push (byte :: chunk) =
      ((buffer.feed byte).1.toList ++ ((buffer.feed byte).2.push chunk).1,
        ((buffer.feed byte).2.push chunk).2) := by
  rw [push, List.foldl_cons, feedOnto_eq, foldl_feedOnto]
  simp

/-- The lines of two chunks are those of the chunks together. -/
theorem push_append (buffer : LineBuffer) (chunk more : Bytes) :
    buffer.push (chunk ++ more) =
      ((buffer.push chunk).1 ++ ((buffer.push chunk).2.push more).1,
        ((buffer.push chunk).2.push more).2) := by
  induction chunk generalizing buffer with
  | nil => rfl
  | cons byte chunk ih => rw [List.cons_append, push_cons, ih, push_cons, List.append_assoc]

theorem limit_feed (buffer : LineBuffer) (byte : UInt8) :
    (buffer.feed byte).2.limit = buffer.limit := by
  rw [feed]
  split
  · rfl
  · dsimp only
    split <;> rfl

theorem limit_push (buffer : LineBuffer) (chunk : Bytes) :
    (buffer.push chunk).2.limit = buffer.limit := by
  induction chunk generalizing buffer with
  | nil => rfl
  | cons byte chunk ih => rw [push_cons, ih, limit_feed]

/-- No bytes wait behind the end of a stream. -/
theorem flush_eq_ofLimit (buffer : LineBuffer) : buffer.flush.2 = ofLimit buffer.limit := by
  obtain ⟨limit, pending⟩ := buffer
  rw [flush]
  split
  · rename_i hempty
    have hnil : pending = #[] := Array.isEmpty_iff.mp hempty
    rw [hnil]
    rfl
  · rfl

end LineBuffer

/-! ### Events -/

namespace Router

variable {router other : Router}

/-- The two routers show the same for the same lines. The turns of the next fields do not count
while no block is open, since each block begins anew. -/
structure Alike (router other : Router) : Prop where
  inRecord : router.inRecord = other.inRecord
  tally : router.inRecord = true → router.tally = other.tally

theorem segments_alike (htally : router.tally = other.tally)
    (hopen : router.inRecord = other.inRecord) (chars : List Char) :
    (router.segments chars).1 = (other.segments chars).1 ∧
      Alike (router.segments chars).2 (other.segments chars).2 := by
  rw [segments, segments, htally]
  exact ⟨rfl, hopen, fun _ => rfl⟩

theorem close_alike (h : Alike router other) :
    router.close.1 = other.close.1 ∧ Alike router.close.2 other.close.2 := by
  rw [close, close, ← h.inRecord]
  split
  · exact ⟨rfl, rfl, fun hopen => absurd hopen Bool.false_ne_true⟩
  · exact ⟨rfl, h⟩

theorem inRecord_close (router : Router) : router.close.2.inRecord = false := by
  rw [close]
  split
  · rfl
  · rename_i hclosed
    simpa using hclosed

theorem opened_alike (router other : Router) (chars : List Char) :
    (router.opened chars).2.1 = (other.opened chars).2.1 ∧
      Alike (router.opened chars).2.2 (other.opened chars).2.2 := by
  simp only [opened, segments, close, if_true]
  split
  · exact ⟨rfl, rfl, fun _ => rfl⟩
  · split
    · exact ⟨rfl, rfl, fun _ => rfl⟩
    · exact ⟨rfl, rfl, fun _ => rfl⟩

theorem freeLine_alike (hrouter : router.inRecord = false) (hother : other.inRecord = false)
    (chars : List Char) :
    (router.freeLine chars).2.1 = (other.freeLine chars).2.1 ∧
      Alike (router.freeLine chars).2.2 (other.freeLine chars).2.2 := by
  have hclosed {r r' : Router} (h : r.inRecord = false) (h' : r'.inRecord = false) : Alike r r' :=
    ⟨h.trans h'.symm, fun hopen => absurd (h.symm.trans hopen) Bool.false_ne_true⟩
  rw [freeLine, freeLine]
  rcases Embedding.ofLine? chars with _ | _ | _
  · exact ⟨rfl, hclosed hrouter hother⟩
  · change (router.serialized chars).2.1 = (other.serialized chars).2.1 ∧
      Alike (router.serialized chars).2.2 (other.serialized chars).2.2
    rw [serialized, serialized]
    rcases Payload.ofLine chars with e | payload
    · exact ⟨rfl, hclosed hrouter hother⟩
    · exact ⟨rfl, hclosed hrouter hother⟩
  · exact opened_alike router other chars

theorem blockLine_alike (h : Alike router other) (hopen : router.inRecord = true)
    (chars : List Char) :
    (router.blockLine chars).2.1 = (other.blockLine chars).2.1 ∧
      Alike (router.blockLine chars).2.2 (other.blockLine chars).2.2 := by
  rw [blockLine, blockLine]
  split
  · obtain ⟨hevents, hclosed⟩ := close_alike h
    exact ⟨congrArg ([.literal chars, .endLine] ++ ·) hevents, hclosed⟩
  · dsimp only
    split
    · exact ⟨rfl, h⟩
    · exact segments_alike (h.tally hopen) h.inRecord chars

/-- Alike routers show the same for a line, and are alike behind it. -/
theorem line_alike (h : Alike router other) (chars : List Char) :
    (router.line chars).2.1 = (other.line chars).2.1 ∧
      Alike (router.line chars).2.2 (other.line chars).2.2 := by
  rw [line, line, ← h.inRecord]
  split
  · rename_i hblock
    exact blockLine_alike h (by simpa using (Bool.and_eq_true_iff.mp hblock).1) chars
  · -- A line that shows a command closes the block first, and then the turns do not count.
    obtain ⟨hclosing, -⟩ := close_alike h
    obtain ⟨hevents, halike⟩ :=
      freeLine_alike (inRecord_close router) (inRecord_close other) chars
    refine ⟨?_, halike⟩
    change router.close.1 ++ (router.close.2.freeLine chars).2.1 =
      other.close.1 ++ (other.close.2.freeLine chars).2.1
    rw [hclosing, hevents]

/-! A line neither looks at the bytes that wait nor changes them. -/

theorem close_withBuffer (router : Router) (buffer : LineBuffer) :
    close { router with buffer } = (router.close.1, { router.close.2 with buffer }) := by
  rw [close, close]
  split <;> rfl

theorem buffer_close (router : Router) : router.close.2.buffer = router.buffer :=
  congrArg (·.2.buffer) (close_withBuffer router router.buffer)

theorem opened_withBuffer (router : Router) (buffer : LineBuffer) (chars : List Char) :
    opened { router with buffer } chars =
      ((router.opened chars).1, (router.opened chars).2.1,
        { (router.opened chars).2.2 with buffer }) := by
  simp only [opened, segments, close, if_true]
  split
  · rfl
  · split <;> rfl

theorem freeLine_withBuffer (router : Router) (buffer : LineBuffer) (chars : List Char) :
    freeLine { router with buffer } chars =
      ((router.freeLine chars).1, (router.freeLine chars).2.1,
        { (router.freeLine chars).2.2 with buffer }) := by
  rw [freeLine, freeLine]
  rcases Embedding.ofLine? chars with _ | _ | _
  · rfl
  · dsimp only
    rw [serialized, serialized]
    rcases Payload.ofLine chars with e | payload <;> rfl
  · exact opened_withBuffer router buffer chars

theorem blockLine_withBuffer (router : Router) (buffer : LineBuffer) (chars : List Char) :
    blockLine { router with buffer } chars =
      ((router.blockLine chars).1, (router.blockLine chars).2.1,
        { (router.blockLine chars).2.2 with buffer }) := by
  rw [blockLine, blockLine, close_withBuffer]
  split
  · rfl
  · dsimp only
    split <;> rfl

theorem line_withBuffer (router : Router) (buffer : LineBuffer) (chars : List Char) :
    line { router with buffer } chars =
      ((router.line chars).1, (router.line chars).2.1,
        { (router.line chars).2.2 with buffer }) := by
  rw [line, line]
  split
  · exact blockLine_withBuffer router buffer chars
  · rw [close_withBuffer]
    dsimp only
    rw [freeLine_withBuffer]

/-! ### Rows of lines -/

theorem lineOnto_eq (events : Array Event) (router : Router) (chars : List Char) :
    lineOnto (events, router) chars =
      (events ++ (router.line chars).2.1, (router.line chars).2.2) := by
  change ((router.line chars).2.1.foldl Array.push events, (router.line chars).2.2) = _
  refine Prod.ext (Array.ext' ?_) rfl
  simp

theorem foldl_lineOnto (all : List (List Char)) (events : Array Event) (router : Router) :
    all.foldl lineOnto (events, router) =
      (events ++ (router.lines all).1, (router.lines all).2) := by
  induction all generalizing events router with
  | nil => simp [lines]
  | cons chars all ih =>
    rw [lines, List.foldl_cons, List.foldl_cons, lineOnto_eq, lineOnto_eq, ih, ih]
    refine Prod.ext (Array.ext' ?_) rfl
    simp

theorem lines_cons (router : Router) (chars : List Char) (all : List (List Char)) :
    router.lines (chars :: all) =
      ((router.line chars).2.1 ++ ((router.line chars).2.2.lines all).1,
        ((router.line chars).2.2.lines all).2) := by
  rw [lines, List.foldl_cons, lineOnto_eq, foldl_lineOnto]
  simp

theorem lines_append (router : Router) (all more : List (List Char)) :
    router.lines (all ++ more) =
      ((router.lines all).1 ++ ((router.lines all).2.lines more).1,
        ((router.lines all).2.lines more).2) := by
  induction all generalizing router with
  | nil => rfl
  | cons chars all ih => rw [List.cons_append, lines_cons, ih, lines_cons, List.append_assoc]

theorem lines_alike (h : Alike router other) (all : List (List Char)) :
    (router.lines all).1 = (other.lines all).1 ∧
      Alike (router.lines all).2 (other.lines all).2 := by
  induction all generalizing router other with
  | nil => exact ⟨rfl, h⟩
  | cons chars all ih =>
    obtain ⟨hevents, hbehind⟩ := line_alike h chars
    obtain ⟨hmore, halike⟩ := ih hbehind
    rw [lines_cons, lines_cons, hevents, hmore]
    exact ⟨rfl, halike⟩

theorem lines_withBuffer (router : Router) (buffer : LineBuffer) (all : List (List Char)) :
    lines { router with buffer } all =
      ((router.lines all).1, { (router.lines all).2 with buffer }) := by
  induction all generalizing router with
  | nil => rfl
  | cons chars all ih => rw [lines_cons, lines_cons, line_withBuffer, ih]

theorem buffer_lines (router : Router) (all : List (List Char)) :
    (router.lines all).2.buffer = router.buffer :=
  congrArg (·.2.buffer) (lines_withBuffer router router.buffer all)

/-! ### Chunks and the end of the stream -/

/-- The two routers show the same for the same bytes. -/
structure Same (router other : Router) : Prop where
  buffer : router.buffer = other.buffer
  alike : Alike router other

theorem Same.refl (router : Router) : Same router router := ⟨rfl, rfl, fun _ => rfl⟩

theorem Same.trans {third : Router} (h : Same router other) (h' : Same other third) :
    Same router third :=
  ⟨h.buffer.trans h'.buffer, h.alike.inRecord.trans h'.alike.inRecord, fun hopen =>
    (h.alike.tally hopen).trans (h'.alike.tally (h.alike.inRecord.symm.trans hopen))⟩

theorem feed_eq (router : Router) (chunk : Bytes) :
    router.feed chunk =
      lines { router with buffer := (router.buffer.push chunk).2 } (router.buffer.push chunk).1 :=
  rfl

theorem flush_eq (router : Router) :
    router.flush =
      ((lines { router with buffer := router.buffer.flush.2 } router.buffer.flush.1.toList).1 ++
          (lines { router with buffer := router.buffer.flush.2 }
            router.buffer.flush.1.toList).2.close.1,
        (lines { router with buffer := router.buffer.flush.2 }
          router.buffer.flush.1.toList).2.close.2) :=
  rfl

theorem alike_withBuffer (h : Alike router other) (buffer buffer' : LineBuffer) :
    Alike { router with buffer } { other with buffer := buffer' } :=
  ⟨h.inRecord, h.tally⟩

theorem feed_same (h : Same router other) (chunk : Bytes) :
    (router.feed chunk).1 = (other.feed chunk).1 ∧
      Same (router.feed chunk).2 (other.feed chunk).2 := by
  rw [feed_eq, feed_eq, h.buffer]
  obtain ⟨hevents, halike⟩ :=
    lines_alike (alike_withBuffer h.alike _ (other.buffer.push chunk).2) (other.buffer.push chunk).1
  exact ⟨hevents, by rw [buffer_lines, buffer_lines], halike⟩

theorem flush_same (h : Same router other) :
    router.flush.1 = other.flush.1 ∧ Same router.flush.2 other.flush.2 := by
  rw [flush_eq, flush_eq, h.buffer]
  obtain ⟨hevents, halike⟩ :=
    lines_alike (alike_withBuffer h.alike _ other.buffer.flush.2) other.buffer.flush.1.toList
  obtain ⟨hclosing, hclosed⟩ := close_alike halike
  refine ⟨by rw [hevents, hclosing], ?_, hclosed⟩
  rw [buffer_close, buffer_close, buffer_lines, buffer_lines]

/-- Two chunks show what the chunks together show, and leave the same behind: the lines of the first
one are routed while other bytes wait, which makes no difference to them. -/
theorem feed_append (router : Router) (chunk more : Bytes) :
    router.feed (chunk ++ more) =
      ((router.feed chunk).1 ++ ((router.feed chunk).2.feed more).1,
        ((router.feed chunk).2.feed more).2) := by
  simp only [feed_eq, LineBuffer.push_append, lines_append, lines_withBuffer]

theorem feed_nil (router : Router) : router.feed [] = ([], router) := rfl

theorem limit_feed (router : Router) (chunk : Bytes) :
    (router.feed chunk).2.buffer.limit = router.buffer.limit := by
  rw [feed_eq, buffer_lines]
  exact LineBuffer.limit_push router.buffer chunk

/-- Behind the end of a stream everything is as at the start. -/
theorem same_start_of_flush (h : router.buffer.limit = LineBuffer.defaultLimit) :
    Same router.flush.2 start := by
  have hclosed : router.flush.2.inRecord = false := by
    rw [flush_eq]
    exact inRecord_close _
  refine ⟨?_, hclosed, fun hopen => absurd (hclosed.symm.trans hopen) Bool.false_ne_true⟩
  rw [flush_eq, buffer_close, buffer_lines, LineBuffer.flush_eq_ofLimit, h]
  rfl

/-! ### Lines, chunks and ends of streams in any order -/

/-- What a router is given. -/
inductive Input where
  | line (chars : List Char)
  | chunk (bytes : Bytes)
  /-- the end of a stream -/
  | flush

/-- What is shown for it, and the router behind it. -/
def take (router : Router) : Input → List Event × Router
  | .line chars => (router.line chars).2
  | .chunk bytes => router.feed bytes
  | .flush => router.flush

/-- All that is shown, in order. -/
def run (router : Router) : List Input → List Event × Router
  | [] => ([], router)
  | input :: rest =>
    ((router.take input).1 ++ ((router.take input).2.run rest).1,
      ((router.take input).2.run rest).2)

theorem run_append (router : Router) (inputs more : List Input) :
    router.run (inputs ++ more) =
      ((router.run inputs).1 ++ ((router.run inputs).2.run more).1,
        ((router.run inputs).2.run more).2) := by
  induction inputs generalizing router with
  | nil => rfl
  | cons input rest ih => simp only [List.cons_append, run, ih, List.append_assoc]

/-- Whatever a router has been given, it shows the same for some bytes, and is left the same,
however they are divided into chunks. -/
theorem run_chunks (router : Router) (chunks : List Bytes) :
    router.run (chunks.map .chunk) = router.run [.chunk chunks.flatten] := by
  have hwhole (router : Router) (bytes : Bytes) :
      router.run [.chunk bytes] = router.feed bytes := by
    rw [run, run, take, List.append_nil]
  induction chunks generalizing router with
  | nil => rfl
  | cons chunk chunks ih =>
    -- The other chunks find the router as the first one leaves it, and they are as good as one.
    rw [List.map_cons, run, ih, hwhole, hwhole, List.flatten_cons, feed_append]
    rfl

-- A cut inside a character and another one between a carriage return and its line feed.
example :
    (start.run [.chunk [0x43, 0xC3], .chunk [], .chunk [0xA9, 0x0D], .chunk [0x0A, 0x61]]).1 =
      [.line ['C', 'é'] .plain] := by
  decide +kernel

end Router

end MotionLink
