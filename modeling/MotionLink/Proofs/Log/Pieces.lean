import Mathlib.Data.List.Basic
import MotionLink.Proofs.Log.Lines

/-!
# Where the bytes of a stream go

Whatever bytes a buffer takes in, and whenever it is flushed, they fall into pieces in the order in
which they came: one piece for each line that came out, and behind these the bytes that wait. A line
is its piece without the newline and without one carriage return at the end. Lines are ended by
newlines and by flushes; the limit ends one only when it is reached, so that less than that waits.

## Main definitions

* `LineBuffer.Call` — a chunk for a buffer, or a flush
* `LineBuffer.Piece` — the bytes of one line, and what ended it
* `LineBuffer.Conserves` — what is to be expected of the lines that came for some bytes

## Main results

* `LineBuffer.Conserves.push`, `LineBuffer.Conserves.flush` — each call keeps to it
* `LineBuffer.conserves_run` — so does every row of calls
-/

namespace MotionLink.LineBuffer

/-! ### Rows of calls -/

/-- What a buffer is asked for. -/
inductive Call where
  /-- to take in a chunk -/
  | push (chunk : Bytes)
  /-- to give out what waits -/
  | flush

namespace Call

/-- The bytes that a call brings. -/
def bytes : Call → Bytes
  | push chunk => chunk
  | flush => []

/-- The call is a flush. -/
def isFlush : Call → Bool
  | push _ => false
  | flush => true

end Call

/-- The lines that come for a call, and the buffer behind it. -/
def answer (buffer : LineBuffer) : Call → List (List Char) × LineBuffer
  | .push chunk => buffer.push chunk
  | .flush => (buffer.flush.1.toList, buffer.flush.2)

/-- All lines that come for some calls, and the buffer behind them. -/
def run (buffer : LineBuffer) : List Call → List (List Char) × LineBuffer
  | [] => ([], buffer)
  | call :: rest =>
    ((buffer.answer call).1 ++ ((buffer.answer call).2.run rest).1,
      ((buffer.answer call).2.run rest).2)

/-! ### Pieces -/

/-- What ends a line. -/
inductive Ending where
  | newline
  /-- its bytes reach the limit -/
  | limit
  | flush
deriving DecidableEq

/-- The bytes that stand for an end. -/
def Ending.bytes : Ending → Bytes
  | newline => [LineBuffer.newline]
  | limit => []
  | flush => []

/-- The bytes of one line, and what ended it. -/
structure Piece where
  content : Bytes
  /-- a carriage return stands behind the content -/
  withReturn : Bool
  ending : Ending

namespace Piece

/-- The bytes before the end. -/
def body (piece : Piece) : Bytes :=
  piece.content ++ if piece.withReturn then [carriageReturn] else []

/-- All bytes of a piece. -/
def bytes (piece : Piece) : Bytes := piece.body ++ piece.ending.bytes

/-- The line that comes for a piece. -/
def text (piece : Piece) : List Char := Utf8.decode piece.content

/-- A piece as a buffer with a limit makes it. -/
structure Fits (limit : Nat) (piece : Piece) : Prop where
  newline_not_mem : newline ∉ piece.content
  /-- the content is within the limit, also with a carriage return behind it -/
  length_body_le : piece.body.length ≤ max limit 1
  /-- the limit ends the line just when it is reached -/
  limit_iff : piece.ending = .limit ↔ piece.body.length = max limit 1
  /-- where the content ends in a carriage return, another one behind it is left out -/
  withReturn_of_content : piece.content.getLast? = some carriageReturn → piece.withReturn = true

/-- The piece of some bytes without a newline and of what ends them. -/
def ofBody (body : Bytes) (ending : Ending) : Piece :=
  ⟨LineBuffer.content body, body.getLast? == some carriageReturn, ending⟩

variable {limit : Nat} {body : Bytes} {ending : Ending}

theorem body_ofBody (body : Bytes) (ending : Ending) : (ofBody body ending).body = body := by
  rw [Piece.body, ofBody, LineBuffer.content]
  dsimp only
  by_cases hreturn : body.getLast? = some carriageReturn
  · rw [if_pos hreturn, if_pos (by rw [hreturn]; rfl)]
    exact List.dropLast_append_getLast? _ hreturn
  · rw [if_neg hreturn, if_neg (by simpa using hreturn), List.append_nil]

theorem fits_ofBody (hbody : newline ∉ body) (hlength : body.length ≤ max limit 1)
    (hlimit : ending = .limit ↔ body.length = max limit 1) : (ofBody body ending).Fits limit := by
  constructor
  case newline_not_mem =>
    intro hmem
    rw [← body_ofBody body ending, Piece.body] at hbody
    exact hbody (List.mem_append_left _ hmem)
  case length_body_le => rwa [body_ofBody]
  case limit_iff => rwa [body_ofBody]
  case withReturn_of_content =>
    intro hreturn
    rw [ofBody, LineBuffer.content] at hreturn ⊢
    split at hreturn
    · rename_i hlast
      rw [hlast]
      rfl
    · rw [hreturn]
      rfl

end Piece

/-! ### What each call keeps to -/

/-- What is to be expected of the lines that came for some bytes and flushes, and of the buffer
behind them. -/
structure Conserves (limit : Nat) (given : Bytes) (flushes : Nat) (lines : List (List Char))
    (behind : LineBuffer) : Prop where
  /-- the bytes are the pieces of the lines, and what waits; a flush ends one line at most -/
  exists_pieces : ∃ pieces : List Piece,
    given = pieces.flatMap Piece.bytes ++ behind.pending.toList ∧
      lines = pieces.map Piece.text ∧ (∀ piece ∈ pieces, piece.Fits limit) ∧
        pieces.countP (·.ending = .flush) ≤ flushes
  /-- no complete line waits -/
  newline_not_mem : newline ∉ behind.pending.toList
  /-- less than the limit waits -/
  length_lt : behind.pending.toList.length < max limit 1
  limit_eq : behind.limit = limit

namespace Conserves

variable {limit flushes : Nat} {given held : Bytes} {lines : List (List Char)}
variable {buffer : LineBuffer}

theorem start (limit : Nat) : Conserves limit [] 0 [] (ofLimit limit) := by
  refine ⟨⟨[], rfl, rfl, nofun, Nat.le_refl 0⟩, List.not_mem_nil, ?_, rfl⟩
  exact Nat.lt_of_lt_of_le Nat.zero_lt_one (Nat.le_max_right limit 1)

/-- One more byte waits. -/
theorem wait {byte : UInt8} (h : Conserves limit given flushes lines ⟨limit, held.toArray⟩)
    (hbyte : byte ≠ newline) (hlength : held.length + 1 < max limit 1) :
    Conserves limit (given ++ [byte]) flushes lines ⟨limit, (held ++ [byte]).toArray⟩ := by
  obtain ⟨pieces, hgiven, hrest⟩ := h.exists_pieces
  refine ⟨⟨pieces, ?_, hrest⟩, ?_, ?_, rfl⟩
  · rw [hgiven, List.append_assoc]
  · intro hmem
    rcases List.mem_append.mp hmem with hmem | hmem
    · exact h.newline_not_mem hmem
    · exact hbyte (List.mem_singleton.mp hmem).symm
  · simpa using hlength

/-- The bytes that wait, and perhaps some more, become a line. -/
theorem cut (h : Conserves limit given flushes lines ⟨limit, held.toArray⟩) (more : Bytes)
    (ending : Ending) (hmore : newline ∉ more) (hlength : (held ++ more).length ≤ max limit 1)
    (hlimit : ending = .limit ↔ (held ++ more).length = max limit 1) :
    Conserves limit (given ++ (more ++ ending.bytes)) (flushes + if ending = .flush then 1 else 0)
      (lines ++ [lineText (held ++ more)]) (ofLimit limit) := by
  obtain ⟨pieces, hgiven, hlines, hfits, hflushes⟩ := h.exists_pieces
  have hbody : newline ∉ held ++ more := by
    rw [List.mem_append, not_or]
    exact ⟨h.newline_not_mem, hmore⟩
  -- One more piece takes all that waited, so behind it the buffer is as at the start.
  refine ⟨⟨pieces ++ [.ofBody (held ++ more) ending], ?_, ?_, ?_, ?_⟩,
    (start limit).newline_not_mem, (start limit).length_lt, rfl⟩
  · have hpiece : (Piece.ofBody (held ++ more) ending).bytes = held ++ more ++ ending.bytes := by
      rw [Piece.bytes, Piece.body_ofBody, Piece.ofBody]
    rw [hgiven, List.flatMap_append, List.flatMap_singleton, hpiece]
    simp [ofLimit]
  · rw [hlines, List.map_append]
    rfl
  · exact List.forall_mem_append.mpr
      ⟨hfits, List.forall_mem_singleton.mpr (Piece.fits_ofBody hbody hlength hlimit)⟩
  · rw [List.countP_append, List.countP_singleton]
    exact Nat.add_le_add hflushes (by simp [Piece.ofBody])

/-- The bytes that wait become a line without any more. -/
theorem cut_held (h : Conserves limit given flushes lines ⟨limit, held.toArray⟩) (ending : Ending)
    (hending : ending ≠ .limit) :
    Conserves limit (given ++ ending.bytes) (flushes + if ending = .flush then 1 else 0)
      (lines ++ [lineText held]) (ofLimit limit) := by
  have hheld : held.length < max limit 1 := h.length_lt
  have hcut := h.cut [] ending List.not_mem_nil (by rw [List.append_nil]; omega)
    (iff_of_false hending (by rw [List.append_nil]; omega))
  rwa [List.append_nil, List.nil_append] at hcut

/-- A byte waits, ends the line with the limit, or is the newline that ends it. -/
theorem feed (h : Conserves limit given flushes lines buffer) (byte : UInt8) :
    Conserves limit (given ++ [byte]) flushes (lines ++ (buffer.feed byte).1.toList)
      (buffer.feed byte).2 := by
  obtain ⟨limit', ⟨held⟩⟩ := buffer
  obtain rfl : limit' = limit := h.limit_eq
  by_cases hbyte : byte = newline
  · rw [hbyte, feed_newline]
    exact h.cut_held .newline (by decide)
  by_cases hfull : held.length + 1 < max limit' 1
  · rw [feed_of_lt hbyte hfull, Option.toList_none, List.append_nil]
    exact h.wait hbyte hfull
  · have hheld : held.length < max limit' 1 := h.length_lt
    -- Less than the limit waited, so this byte just reaches it.
    have hreached : (held ++ [byte]).length = max limit' 1 := by
      rw [List.length_append, List.length_singleton]
      omega
    rw [feed_of_le hbyte (by omega)]
    exact h.cut [byte] .limit (by simpa using Ne.symm hbyte) (Nat.le_of_eq hreached)
      (iff_of_true rfl hreached)

theorem push (h : Conserves limit given flushes lines buffer) (chunk : Bytes) :
    Conserves limit (given ++ chunk) flushes (lines ++ (buffer.push chunk).1)
      (buffer.push chunk).2 := by
  induction chunk generalizing given lines buffer with
  | nil =>
    change Conserves limit (given ++ []) flushes (lines ++ []) buffer
    rwa [List.append_nil, List.append_nil]
  | cons byte chunk ih =>
    have hrest := ih (h.feed byte)
    rw [List.append_assoc, List.append_assoc] at hrest
    rwa [push_cons]

/-- What waits becomes a line, if there is anything. -/
theorem flush (h : Conserves limit given flushes lines buffer) :
    Conserves limit given (flushes + 1) (lines ++ buffer.flush.1.toList) buffer.flush.2 := by
  obtain ⟨limit', ⟨held⟩⟩ := buffer
  obtain rfl : limit' = limit := h.limit_eq
  rw [LineBuffer.flush]
  split
  · -- Nothing waits, and the flush is one that ends no line.
    obtain ⟨pieces, hgiven, hlines, hfits, hflushes⟩ := h.exists_pieces
    rw [Option.toList_none, List.append_nil]
    exact ⟨⟨pieces, hgiven, hlines, hfits, Nat.le_succ_of_le hflushes⟩,
      h.newline_not_mem, h.length_lt, rfl⟩
  · have hcut := h.cut_held .flush (by decide)
    rw [Ending.bytes, List.append_nil] at hcut
    exact hcut

theorem answer (h : Conserves limit given flushes lines buffer) (call : Call) :
    Conserves limit (given ++ call.bytes) (flushes + if call.isFlush then 1 else 0)
      (lines ++ (buffer.answer call).1) (buffer.answer call).2 := by
  cases call with
  | push chunk => exact h.push chunk
  | flush =>
    change Conserves limit (given ++ []) _ _ _
    rw [List.append_nil]
    exact h.flush

theorem run (h : Conserves limit given flushes lines buffer) (calls : List Call) :
    Conserves limit (given ++ calls.flatMap Call.bytes) (flushes + calls.countP Call.isFlush)
      (lines ++ (buffer.run calls).1) (buffer.run calls).2 := by
  induction calls generalizing given flushes lines buffer with
  | nil =>
    change Conserves limit (given ++ []) flushes (lines ++ []) buffer
    rwa [List.append_nil, List.append_nil]
  | cons call rest ih =>
    have hrest := ih (h.answer call)
    rw [List.append_assoc, List.append_assoc, Nat.add_assoc, Nat.add_comm (ite _ _ _)] at hrest
    rwa [List.flatMap_cons, List.countP_cons, LineBuffer.run]

end Conserves

/-- Whatever a buffer is asked for, its lines are made of the bytes that it took in, in order, and
less than the limit waits. -/
theorem conserves_run (limit : Nat) (calls : List Call) :
    Conserves limit (calls.flatMap Call.bytes) (calls.countP Call.isFlush)
      ((ofLimit limit).run calls).1 ((ofLimit limit).run calls).2 := by
  have hrun := (Conserves.start limit).run calls
  rwa [List.nil_append, List.nil_append, Nat.zero_add] at hrun

-- A flush parts a carriage return from its newline, which then ends a line without any bytes.
example :
    ((ofLimit 4).run [.push [0x61, 0x0D], .flush, .push [0x0A, 0x0D, 0xFF, 0x0D, 0x0D]]).1 =
      [['a'], [], ['\r', '\ufffd', '\r']] := by
  decide

end MotionLink.LineBuffer
