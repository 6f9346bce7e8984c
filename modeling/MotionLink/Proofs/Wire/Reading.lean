import Mathlib.Data.List.TakeWhile
import MotionLink.Wire.FrameReader

/-!
# Reading frames from any cut

How many bytes each read brings and how often one is interrupted does not matter: a reader takes
the frames off the bytes that are still to come.

## Main definitions

* `Source.delivered` — the bytes that a source delivers before it ends or fails
* `FrameReader.pending` — the bytes a reader holds and those still to come
* `Frame.payloads` — the terminated payloads in a row of bytes

## Main results

* `FrameReader.pending_of_next` — a frame read stood at the front of what was pending
* `FrameReader.exists_next_eq` — a frame within the limit at the front of what is pending is read
-/

namespace MotionLink

/-! ### What a source delivers -/

namespace Source

/-- The bytes that the reads bring until the stream ends or fails; an interrupted read is
repeated. -/
def delivered : Source → Bytes
  | [] => []
  | .bytes [] :: _ => []
  | .bytes (b :: bytes) :: source => b :: bytes ++ delivered source
  | .fault f :: source => if f.isInterruption then delivered source else []

variable {source : Source}

theorem delivered_bytes {bytes : Bytes} (h : bytes ≠ []) :
    delivered (.bytes bytes :: source) = bytes ++ delivered source := by
  cases bytes with
  | nil => exact absurd rfl h
  | cons b bytes => rfl

theorem delivered_interruption {f : Fault} (h : f.isInterruption = true) :
    delivered (.fault f :: source) = delivered source := by
  rw [delivered, if_pos h]

theorem delivered_map_append {pieces : List Bytes} (h : ∀ piece ∈ pieces, piece ≠ []) :
    delivered (pieces.map .bytes ++ source) = pieces.flatten ++ delivered source := by
  induction pieces with
  | nil => rfl
  | cons piece pieces ih =>
    obtain ⟨hpiece, hpieces⟩ := List.forall_mem_cons.mp h
    rw [List.map_cons, List.cons_append, delivered_bytes hpiece, ih hpieces, List.flatten_cons,
      List.append_assoc]

end Source

theorem cutIntoPieces_nil (size : Nat) : cutIntoPieces size [] = [[]] := by
  rw [cutIntoPieces]
  split
  · rfl
  · rename_i hrest
    simp at hrest

theorem flatten_cutIntoPieces (size : Nat) (bytes : Bytes) :
    (cutIntoPieces size bytes).flatten = bytes := by
  fun_induction cutIntoPieces size bytes with
  | case1 => simp
  | case2 bytes b rest hrest ih => rw [List.flatten_cons, ih, ← hrest, List.take_append_drop]

/-- Only no bytes at all are cut into a piece without bytes. -/
theorem ne_nil_of_mem_cutIntoPieces {size : Nat} {bytes piece : Bytes} (hne : bytes ≠ [])
    (h : piece ∈ cutIntoPieces size bytes) : piece ≠ [] := by
  fun_induction cutIntoPieces size bytes with
  | case1 bytes hrest =>
    rwa [List.mem_singleton.mp h]
  | case2 bytes b rest hrest ih =>
    rcases List.mem_cons.mp h with rfl | hmem
    · have hsize : max size 1 ≠ 0 := by omega
      simp [List.take_eq_nil_iff, hsize, hne]
    · exact ih (List.cons_ne_nil _ _) hmem

/-- Bytes are cut into pieces of the size asked for. -/
theorem length_le_of_mem_cutIntoPieces {size : Nat} {bytes piece : Bytes}
    (h : piece ∈ cutIntoPieces size bytes) : piece.length ≤ max size 1 := by
  fun_induction cutIntoPieces size bytes with
  | case1 bytes hrest =>
    rw [List.mem_singleton.mp h]
    exact List.drop_eq_nil_iff.mp hrest
  | case2 bytes b rest hrest ih =>
    rcases List.mem_cons.mp h with rfl | hmem
    · exact List.length_take_le _ _
    · exact ih hmem

namespace Source

/-- The size of the buffer that is read into does not matter. -/
theorem delivered_inPieces (size : Nat) (source : Source) :
    delivered (source.inPieces size) = delivered source := by
  induction source with
  | nil => rfl
  | cons arrival source ih =>
    have hcons : inPieces size (arrival :: source) =
        arrival.inPieces size ++ inPieces size source :=
      List.flatMap_cons
    rw [hcons]
    cases arrival with
    | bytes bytes =>
      rw [Arrival.inPieces]
      by_cases hne : bytes = []
      · rw [hne, cutIntoPieces_nil]
        rfl
      · rw [delivered_map_append fun piece => ne_nil_of_mem_cutIntoPieces hne,
          flatten_cutIntoPieces, ih, delivered_bytes hne]
    | fault f =>
      change (if f.isInterruption then delivered (inPieces size source) else []) = _
      rw [ih, delivered]

/-- No read brings more than there is room for. -/
theorem length_le_of_mem_inPieces {size : Nat} {source : Source} {bytes : Bytes}
    (h : .bytes bytes ∈ source.inPieces size) : bytes.length ≤ max size 1 := by
  obtain ⟨arrival, -, hpieces⟩ := List.mem_flatMap.mp h
  cases arrival with
  | bytes whole =>
    obtain ⟨piece, hpiece, heq⟩ := List.mem_map.mp hpieces
    obtain rfl := Arrival.bytes.inj heq
    exact length_le_of_mem_cutIntoPieces hpiece
  | fault f => cases List.mem_singleton.mp hpieces

end Source

/-! ### Frames in a row of bytes -/

namespace Frame

variable {limit : Nat} {buffer payload rest : Bytes}

theorem bne_terminator (h : terminator ∉ payload) : ∀ b ∈ payload, (b != terminator) = true := by
  rintro b hb
  simp only [bne_iff_ne]
  rintro rfl
  exact h hb

theorem takeWhile_append_terminator (h : terminator ∉ payload) :
    (payload ++ terminator :: rest).takeWhile (· != terminator) = payload := by
  rw [List.takeWhile_append_of_pos (bne_terminator h)]
  simp

theorem dropWhile_append_terminator (h : terminator ∉ payload) :
    (payload ++ terminator :: rest).dropWhile (· != terminator) = terminator :: rest := by
  rw [List.dropWhile_append_of_pos (bne_terminator h)]
  simp

/-- The first frame is found once its terminator is there. -/
theorem decode_append (h : terminator ∉ payload) (hlimit : payload.length ≤ limit) :
    decode limit (payload ++ terminator :: rest) = .ok (some (⟨payload⟩, rest)) := by
  simp only [decode, takeWhile_append_terminator h, dropWhile_append_terminator h]
  rw [if_neg (by omega)]

theorem decode_eq_none (h : terminator ∉ buffer) (hlimit : buffer.length ≤ limit) :
    decode limit buffer = .ok none := by
  have htake : buffer.takeWhile (· != terminator) = buffer :=
    List.takeWhile_eq_self_iff.mpr (bne_terminator h)
  have hdrop : buffer.dropWhile (· != terminator) = [] :=
    List.dropWhile_eq_nil_iff.mpr (bne_terminator h)
  simp only [decode, htake, hdrop]
  rw [if_neg (by omega)]

/-- A frame found stood at the front, with a terminator behind it. -/
theorem eq_append_of_decode {frame : Frame} (h : decode limit buffer = .ok (some (frame, rest))) :
    terminator ∉ frame.payload ∧ buffer = frame.payload ++ terminator :: rest := by
  simp only [decode] at h
  split at h
  · cases h
  · split at h
    · cases h
    · rename_i b tail hdrop
      simp only [Except.ok.injEq, Option.some.injEq, Prod.mk.injEq] at h
      obtain ⟨rfl, rfl⟩ := h
      have hb : b = terminator := by
        have hhead := List.head?_dropWhile_not (· != terminator) buffer
        rw [hdrop] at hhead
        simpa using hhead
      refine ⟨fun hmem => ?_, ?_⟩
      · simpa using List.mem_takeWhile_imp hmem
      · conv => lhs; rw [← List.takeWhile_append_dropWhile (l := buffer) (p := (· != terminator))]
        rw [hdrop, hb]

/-- The payloads in front of the terminators in a row of bytes; what follows the last terminator is
no payload. -/
def payloads (bytes : Bytes) : List Bytes := (bytes.splitOn terminator).dropLast

theorem payloads_append (h : terminator ∉ payload) :
    payloads (payload ++ terminator :: rest) = payload :: payloads rest := by
  rw [payloads, List.splitOn_append_cons_self_of_not_mem h,
    List.dropLast_cons_of_ne_nil (List.splitOn_ne_nil _ _), payloads]

end Frame

/-! ### Reading one frame -/

section ReadFrame

variable {limit : Nat} {buffer rest behind payload : Bytes} {source left : Source} {frame : Frame}

/-- A frame read stood at the front of the bytes held and still to come. -/
theorem eq_append_of_readFrame (h : readFrame limit buffer source = (.ok frame, rest, left)) :
    Frame.terminator ∉ frame.payload ∧
      buffer ++ source.delivered =
        frame.payload ++ Frame.terminator :: (rest ++ left.delivered) := by
  fun_induction readFrame limit buffer source with
  | case1 => simp at h
  | case2 buffer source found behind hfound =>
    simp only [Prod.mk.injEq, Except.ok.injEq] at h
    obtain ⟨rfl, rfl, rfl⟩ := h
    obtain ⟨hplain, hbuffer⟩ := Frame.eq_append_of_decode hfound
    refine ⟨hplain, ?_⟩
    rw [hbuffer, List.append_assoc, List.cons_append]
  | case3 => simp at h
  | case4 => simp at h
  | case5 buffer hnone bytes source hne ih =>
    obtain ⟨hplain, heq⟩ := ih h
    refine ⟨hplain, ?_⟩
    rw [Source.delivered_bytes (fun hnil => hne hnil), ← heq, List.append_assoc]
  | case6 buffer hnone f source hf ih =>
    rw [Source.delivered_interruption hf]
    exact ih h
  | case7 => simp at h

/-- While a frame is at the front, the bytes held have it whole or have only bytes of it. -/
theorem decode_or_exists_append {coming : Bytes} (hplain : Frame.terminator ∉ payload)
    (hlimit : payload.length ≤ limit)
    (h : buffer ++ coming = payload ++ Frame.terminator :: behind) :
    (∃ rest, Frame.decode limit buffer = .ok (some (⟨payload⟩, rest)) ∧ rest ++ coming = behind) ∨
      (Frame.decode limit buffer = .ok none ∧
        ∃ more, coming = more ++ Frame.terminator :: behind) := by
  have hshort {more : Bytes} (hpayload : payload = buffer ++ more) :
      Frame.decode limit buffer = .ok none := by
    rw [hpayload] at hplain hlimit
    rw [List.length_append] at hlimit
    exact Frame.decode_eq_none (fun hmem => hplain (List.mem_append_left _ hmem)) (by omega)
  -- The bytes held end within the payload, or they reach its terminator.
  rcases List.append_eq_append_iff.mp h with ⟨more, hpayload, hcoming⟩ | ⟨more, hbuffer, htail⟩
  · exact .inr ⟨hshort hpayload, more, hcoming⟩
  · cases more with
    | nil => exact .inr ⟨hshort (by rw [hbuffer, List.append_nil, List.append_nil]), [], htail.symm⟩
    | cons b rest =>
      obtain ⟨rfl, hrest⟩ := List.cons.inj htail
      refine .inl ⟨rest, ?_, hrest.symm⟩
      rw [hbuffer, Frame.decode_append hplain hlimit]

/-- A frame within the limit at the front of the bytes held and still to come is read. -/
theorem exists_readFrame_eq (hplain : Frame.terminator ∉ payload)
    (hlimit : payload.length ≤ limit)
    (h : buffer ++ source.delivered = payload ++ Frame.terminator :: behind) :
    ∃ rest left, readFrame limit buffer source = (.ok ⟨payload⟩, rest, left) ∧
      rest ++ left.delivered = behind := by
  -- By induction on the reads, with whatever the ones before have left in the buffer.
  induction source generalizing buffer with
  | nil =>
    rcases decode_or_exists_append hplain hlimit h with ⟨rest, hdecode, hrest⟩ | ⟨-, more, hmore⟩
    · exact ⟨rest, [], by rw [readFrame, hdecode], hrest⟩
    · exact absurd hmore.symm (by simp [Source.delivered])
  | cons arrival source ih =>
    rcases decode_or_exists_append hplain hlimit h with
      ⟨rest, hdecode, hrest⟩ | ⟨hdecode, more, hmore⟩
    · exact ⟨rest, arrival :: source, by rw [readFrame.eq_def, hdecode], hrest⟩
    · cases arrival with
      | bytes bytes =>
        by_cases hne : bytes = []
        · rw [hne] at hmore
          exact absurd hmore.symm (by simp [Source.delivered])
        · rw [Source.delivered_bytes hne, ← List.append_assoc] at h
          obtain ⟨rest, left, hread, hrest⟩ := ih h
          refine ⟨rest, left, ?_, hrest⟩
          rw [readFrame, hdecode]
          · exact hread
          · exact hne
      | fault f =>
        by_cases hf : f.isInterruption = true
        · rw [Source.delivered_interruption hf] at h
          obtain ⟨rest, left, hread, hrest⟩ := ih h
          refine ⟨rest, left, ?_, hrest⟩
          rw [readFrame, hdecode]
          simpa [hf] using hread
        · rw [Source.delivered, if_neg hf] at hmore
          exact absurd hmore.symm (by simp)

end ReadFrame

namespace FrameReader

variable {reader behind : FrameReader} {payload rest : Bytes} {frame : Frame}

/-- The bytes that a reader holds and those still to come. -/
def pending (reader : FrameReader) : Bytes := reader.buffer ++ reader.source.delivered

theorem pending_ofSource (limit : Nat) (source : Source) :
    (ofSource limit source).pending = source.delivered := by
  rw [ofSource, pending, Source.delivered_inPieces, List.nil_append]

/-- A frame read stood at the front of what was pending, and what stood behind it still is. -/
theorem pending_of_next (h : reader.next = (.ok frame, behind)) :
    Frame.terminator ∉ frame.payload ∧
      reader.pending = frame.payload ++ Frame.terminator :: behind.pending := by
  simp only [next, Prod.mk.injEq] at h
  obtain ⟨hframe, rfl⟩ := h
  exact eq_append_of_readFrame (Prod.ext hframe rfl)

/-- A frame within the limit at the front of what is pending is read. -/
theorem exists_next_eq (hplain : Frame.terminator ∉ payload)
    (hlimit : payload.length ≤ reader.limit)
    (h : reader.pending = payload ++ Frame.terminator :: rest) :
    ∃ behind, reader.next = (.ok ⟨payload⟩, behind) ∧ behind.pending = rest := by
  obtain ⟨buffer, left, hread, hrest⟩ := exists_readFrame_eq hplain hlimit h
  refine ⟨{ reader with buffer, source := left }, ?_, hrest⟩
  rw [next, hread]

end FrameReader

end MotionLink
