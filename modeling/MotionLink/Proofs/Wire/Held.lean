import Mathlib.Logic.Relation
import MotionLink.Proofs.Wire.Conservation

/-!
# What a reader holds

A peer that never ends its messages does not fill the memory of a reader. More is asked of the
stream only while no terminator is held and no more bytes than the limit, and a read brings only as
many as there is room for. So a reader never holds more than these two together, neither between
calls nor within one. A payload that is too large stays where it is: every later call finds it
again, tells the same of it, and asks the stream for nothing.

## Main definitions

* `FrameReader.Turn` — a read within a call, behind which the call goes on
* `FrameReader.Ends` — what a call comes to that takes no further turn
* `FrameReader.Fits` — the buffer is within its bound, and so is what a read can bring
* `FrameReader.HoldsLittle` — what is to be expected of the buffer of a reader

## Main results

* `FrameReader.exists_turns` — a call is a row of turns and an end
* `FrameReader.Turn.fits`, `FrameReader.Ends.fits` — both keep to the bound
* `FrameReader.calls_of_decode_eq_error` — behind a payload that is too large nothing changes
* `FrameReader.holdsLittle` — every reader holds little, whatever its stream brings
-/

namespace MotionLink

/-! ### What a buffer tells -/

namespace Frame

variable {limit : Nat} {buffer : Bytes} {e : FrameError}

/-- While nothing can be said of a buffer, no more than the limit is in it. -/
theorem length_le_of_decode_eq_none (h : decode limit buffer = .ok none) :
    buffer.length ≤ limit := by
  simp only [decode] at h
  split at h
  · cases h
  · rename_i hshort
    split at h
    · rename_i hdrop
      -- Without a terminator the payload is the whole buffer.
      have hall : buffer.takeWhile (· != terminator) = buffer :=
        List.takeWhile_eq_self_iff.mpr (List.dropWhile_eq_nil_iff.mp hdrop)
      rw [hall] at hshort
      exact Nat.le_of_not_lt hshort
    · cases h

/-- What is told of a payload that is too large: the limit and the bytes of it that are there. -/
theorem eq_payloadTooLarge_of_decode (h : decode limit buffer = .error e) :
    ∃ size, e = .payloadTooLarge size limit ∧ limit < size ∧ size ≤ buffer.length := by
  have hlong := decode_eq_error_iff.mp ⟨e, h⟩
  have he : e = .payloadTooLarge (buffer.takeWhile (· != terminator)).length limit := by
    simp only [decode, if_pos hlong] at h
    exact (Except.error.inj h).symm
  exact ⟨_, he, hlong, (List.takeWhile_prefix _).length_le⟩

end Frame

namespace FrameReader

/-! ### The turns of a call -/

/-- A read within a call, made while the buffer does not say what the call comes to. The call goes
on behind it. -/
inductive Turn : FrameReader → FrameReader → Prop
  | bytes {limit : Nat} {buffer bytes : Bytes} {source : Source}
      (hnone : Frame.decode limit buffer = .ok none) (hne : bytes ≠ []) :
      Turn ⟨limit, buffer, .bytes bytes :: source⟩ ⟨limit, buffer ++ bytes, source⟩
  | interruption {limit : Nat} {buffer : Bytes} {f : Fault} {source : Source}
      (hnone : Frame.decode limit buffer = .ok none) (hf : f.isInterruption = true) :
      Turn ⟨limit, buffer, .fault f :: source⟩ ⟨limit, buffer, source⟩

/-- What a call comes to that takes no further turn, and the reader that it leaves. -/
inductive Ends : FrameReader → Except FrameError Frame × FrameReader → Prop
  | found {limit : Nat} {buffer rest : Bytes} {source : Source} {frame : Frame}
      (hfound : Frame.decode limit buffer = .ok (some (frame, rest))) :
      Ends ⟨limit, buffer, source⟩ (.ok frame, ⟨limit, rest, source⟩)
  | refused {limit : Nat} {buffer : Bytes} {source : Source} {e : FrameError}
      (he : Frame.decode limit buffer = .error e) :
      Ends ⟨limit, buffer, source⟩ (.error e, ⟨limit, buffer, source⟩)
  | ended {limit : Nat} {buffer : Bytes} (hnone : Frame.decode limit buffer = .ok none) :
      Ends ⟨limit, buffer, []⟩ (.error .closed, ⟨limit, buffer, []⟩)
  | closed {limit : Nat} {buffer : Bytes} {source : Source}
      (hnone : Frame.decode limit buffer = .ok none) :
      Ends ⟨limit, buffer, .bytes [] :: source⟩ (.error .closed, ⟨limit, buffer, source⟩)
  | failed {limit : Nat} {buffer : Bytes} {f : Fault} {source : Source}
      (hnone : Frame.decode limit buffer = .ok none) (hf : ¬f.isInterruption = true) :
      Ends ⟨limit, buffer, .fault f :: source⟩ (.error (.fault f), ⟨limit, buffer, source⟩)

variable {limit size bound : Nat} {reader behind : FrameReader} {e : FrameError}
  {result : Except FrameError Frame × FrameReader}

/-- A call is a row of turns and an end. -/
theorem exists_turns (reader : FrameReader) :
    ∃ last, Relation.ReflTransGen Turn reader last ∧ Ends last reader.next := by
  obtain ⟨limit, buffer, source⟩ := reader
  simp only [next]
  -- Where a call goes on, its turn stands before those of the rest of the call.
  fun_induction readFrame limit buffer source with
  | case1 source buffer e he => exact ⟨_, .refl, .refused he⟩
  | case2 source buffer frame rest hfound => exact ⟨_, .refl, .found hfound⟩
  | case3 buffer hnone => exact ⟨_, .refl, .ended hnone⟩
  | case4 buffer hnone source => exact ⟨_, .refl, .closed hnone⟩
  | case5 buffer hnone bytes source hne ih =>
    obtain ⟨last, hturns, hend⟩ := ih
    exact ⟨last, .head (.bytes hnone hne) hturns, hend⟩
  | case6 buffer hnone f source hf ih =>
    obtain ⟨last, hturns, hend⟩ := ih
    exact ⟨last, .head (.interruption hnone hf) hturns, hend⟩
  | case7 buffer hnone f source hf => exact ⟨_, .refl, .failed hnone hf⟩

/-! ### The bound -/

/-- The buffer is within its bound, and no read brings more than there is room for. -/
structure Fits (limit : Nat) (reader : FrameReader) : Prop where
  limit_eq : reader.limit = limit
  length_le : reader.buffer.length ≤ limit + readSize
  pieces : ∀ bytes, .bytes bytes ∈ reader.source → bytes.length ≤ readSize

theorem fits_ofSource (limit : Nat) (source : Source) : Fits limit (ofSource limit source) :=
  ⟨rfl, Nat.zero_le _, fun _ hbytes => Source.length_le_of_mem_inPieces hbytes⟩

/-- Behind any read there is no more to come than before it. -/
theorem Fits.tail {buffer : Bytes} {arrival : Arrival} {source : Source}
    (h : Fits limit ⟨bound, buffer, arrival :: source⟩) : Fits limit ⟨bound, buffer, source⟩ :=
  ⟨h.limit_eq, h.length_le, fun bytes hbytes => h.pieces bytes (List.mem_cons_of_mem _ hbytes)⟩

/-- A read is asked for only while the buffer has room for it. -/
theorem Turn.fits (hturn : Turn reader behind) (h : Fits limit reader) : Fits limit behind := by
  cases hturn with
  | @bytes _ buffer bytes source hnone hne =>
    have hheld := Frame.length_le_of_decode_eq_none hnone
    have hread := h.pieces bytes List.mem_cons_self
    refine ⟨h.limit_eq, ?_, h.tail.pieces⟩
    rw [List.length_append, ← h.limit_eq]
    exact Nat.add_le_add hheld hread
  | interruption hnone hf => exact h.tail

/-- An end takes bytes off the buffer and never puts any in. -/
theorem Ends.fits (hend : Ends reader result) (h : Fits limit reader) : Fits limit result.2 := by
  cases hend with
  | found hfound =>
    have hshorter := Frame.length_lt_of_decode hfound
    exact ⟨h.limit_eq, Nat.le_trans (Nat.le_of_lt hshorter) h.length_le, h.pieces⟩
  | refused | ended => exact h
  | closed | failed => exact h.tail

namespace Fits

theorem turns (h : Fits limit reader) (hturns : Relation.ReflTransGen Turn reader behind) :
    Fits limit behind := by
  induction hturns with
  | refl => exact h
  | tail _ hturn ih => exact hturn.fits ih

theorem next (h : Fits limit reader) : Fits limit reader.next.2 := by
  obtain ⟨last, hturns, hend⟩ := exists_turns reader
  exact hend.fits (h.turns hturns)

theorem calls (h : Fits limit reader) (n : Nat) : Fits limit (reader.calls n).2 := by
  induction n generalizing reader with
  | zero => exact h
  | succ n ih => exact ih h.next

end Fits

/-! ### Payloads that are too large -/

/-- Only what is in the buffer can be told to be too large, and it is left there. -/
theorem decode_of_next_eq_payloadTooLarge
    (h : reader.next = (.error (.payloadTooLarge size bound), behind)) :
    Frame.decode behind.limit behind.buffer = .error (.payloadTooLarge size bound) := by
  obtain ⟨last, -, hend⟩ := exists_turns reader
  rw [h] at hend
  cases hend with
  | refused he => exact he

section Stuck

variable {limit : Nat} {buffer : Bytes} {e : FrameError}

theorem next_of_decode_eq_error (h : Frame.decode limit buffer = .error e) (source : Source) :
    next ⟨limit, buffer, source⟩ = (.error e, ⟨limit, buffer, source⟩) := by
  rw [next, readFrame.eq_def, h]

/-- Behind a payload that is too large nothing changes, however often a reader is called and
whatever its stream would bring. -/
theorem calls_of_decode_eq_error (h : Frame.decode limit buffer = .error e) (source : Source)
    (n : Nat) :
    calls n ⟨limit, buffer, source⟩ =
      (List.replicate n (.error e), ⟨limit, buffer, source⟩) := by
  induction n with
  | zero => rfl
  | succ n ih =>
    rw [calls, next_of_decode_eq_error h]
    dsimp only
    rw [ih]
    rfl

end Stuck

/-- What is to be expected of the buffer of a reader that starts at a stream. -/
structure HoldsLittle (limit : Nat) (source : Source) : Prop where
  /-- every call is a row of turns and an end -/
  turns : ∀ n, ∃ last, Relation.ReflTransGen Turn ((ofSource limit source).calls n).2 last ∧
    Ends last ((ofSource limit source).calls n).2.next
  /-- neither behind some calls nor at any turn of the next one is there more in the buffer than the
  limit and one read -/
  bounded : ∀ n reader, Relation.ReflTransGen Turn ((ofSource limit source).calls n).2 reader →
    reader.buffer.length ≤ limit + readSize
  /-- behind a payload that is too large every call tells the same, leaves the buffer as it is and
  takes nothing off the stream, whatever that would bring -/
  stays : ∀ n size bound behind,
    ((ofSource limit source).calls n).2.next = (.error (.payloadTooLarge size bound), behind) →
    ∀ stream k, calls k { behind with source := stream } =
      (List.replicate k (.error (.payloadTooLarge size bound)), { behind with source := stream })
  /-- the size that is told is one that the buffer can have -/
  tells : ∀ n size bound behind,
    ((ofSource limit source).calls n).2.next = (.error (.payloadTooLarge size bound), behind) →
    bound = limit ∧ limit < size ∧ size ≤ limit + readSize

/-- Every reader holds little, whatever its stream brings. -/
theorem holdsLittle (limit : Nat) (source : Source) : HoldsLittle limit source := by
  have hfits (n : Nat) : Fits limit ((ofSource limit source).calls n).2 :=
    (fits_ofSource limit source).calls n
  constructor
  case turns => exact fun n => exists_turns _
  case bounded =>
    intro n reader hturns
    exact ((hfits n).turns hturns).length_le
  case stays =>
    intro n size bound behind hnext stream k
    exact calls_of_decode_eq_error (decode_of_next_eq_payloadTooLarge hnext) stream k
  case tells =>
    intro n size bound behind hnext
    have hbehind := (hfits n).next
    rw [hnext] at hbehind
    obtain ⟨told, heq, hlong, hlength⟩ :=
      Frame.eq_payloadTooLarge_of_decode (decode_of_next_eq_payloadTooLarge hnext)
    obtain ⟨rfl, rfl⟩ := FrameError.payloadTooLarge.inj heq
    rw [hbehind.limit_eq] at hlong ⊢
    exact ⟨rfl, hlong, Nat.le_trans hlength hbehind.length_le⟩

-- The bound is met: a reader asks for more with a single byte held, and is given a whole read.
example :
    ((ofSource 1 [.bytes [0x61], .bytes (List.replicate 2000 0x62)]).calls 2).2.buffer.length =
      1 + readSize := by
  decide +kernel

end FrameReader

end MotionLink
