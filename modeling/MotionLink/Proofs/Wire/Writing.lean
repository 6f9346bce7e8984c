import MotionLink.Wire.FrameWriter

/-!
# Writing frames

Whatever a stream does with what it is offered, it takes a prefix of the frame, and when no error
is reported it has taken all of it and flushed it.

## Main definitions

* `Sink.NeverFails` — writes may be short or interrupted and flushes interrupted, but none fails
* `Frame.CutsAt` — a terminator cuts a payload in two

## Main results

* `FrameWriter.encode_eq_error_iff` — which payloads make no frame
* `FrameWriter.exists_prefix_of_send` — what is written is a prefix of the frame
* `FrameWriter.send_eq_none_iff` — a frame is sent if it is transmitted whole and then flushed
* `FrameWriter.exists_send_eq_none` — over a stream that never fails every frame is sent
-/

namespace MotionLink

/-! ### Streams that never fail -/

/-- A write that takes some bytes or is only interrupted. -/
def Acceptance.isHarmless : Acceptance → Bool
  | upTo count => count != 0
  | fault f => f.isInterruption

/-- Writes may be short or interrupted and flushes interrupted, but none of them fails. -/
structure Sink.NeverFails (sink : Sink) : Prop where
  writes : ∀ w ∈ sink.writes, w.isHarmless = true
  flushes : ∀ f, some f ∈ sink.flushes → f.isInterruption = true

/-! ### Offering bytes -/

section Offer

variable {writes : List Acceptance} {bytes : Bytes}

theorem prefix_offer (writes : List Acceptance) (bytes : Bytes) :
    (offer writes bytes).2.1 <+: bytes := by
  fun_induction offer writes bytes with
  | case1 => exact List.prefix_refl []
  | case2 pending => exact List.prefix_refl pending
  | case3 => assumption
  | case4 => exact List.nil_prefix
  | case5 => exact List.nil_prefix
  | case6 count writes pending _ _ stop accepted rest hoffer ih =>
    rw [hoffer] at ih
    obtain ⟨tail, htail⟩ := ih
    exact ⟨tail, by rw [List.append_assoc, htail, List.take_append_drop]⟩

/-- What is not stopped early takes all bytes. -/
theorem offer_eq_self (h : (offer writes bytes).1 = none) : (offer writes bytes).2.1 = bytes := by
  fun_induction offer writes bytes with
  | case1 => rfl
  | case2 => rfl
  | case3 f writes pending _ _ ih => exact ih h
  | case4 => cases h
  | case5 => cases h
  | case6 count writes pending _ _ stop accepted rest hoffer ih =>
    rw [hoffer] at ih
    have haccepted : accepted = pending.drop count := ih h
    change pending.take count ++ accepted = pending
    rw [haccepted, List.take_append_drop]

theorem offer_eq_none (h : ∀ w ∈ writes, w.isHarmless = true) :
    (offer writes bytes).1 = none := by
  fun_induction offer writes bytes with
  | case1 => rfl
  | case2 => rfl
  | case3 f writes pending _ _ ih => exact ih fun w hw => h w (List.mem_cons_of_mem _ hw)
  | case4 f writes pending _ hf => exact absurd (h _ List.mem_cons_self) hf
  | case5 => exact absurd (h _ List.mem_cons_self) (by decide)
  | case6 count writes pending _ _ stop accepted rest hoffer ih =>
    rw [hoffer] at ih
    exact ih fun w hw => h w (List.mem_cons_of_mem _ hw)

end Offer

theorem flushUntilDone_eq_none {flushes : List (Option Fault)}
    (h : ∀ f, some f ∈ flushes → f.isInterruption = true) :
    (flushUntilDone flushes).1 = none := by
  fun_induction flushUntilDone flushes with
  | case1 => rfl
  | case2 => rfl
  | case3 f flushes _ fault calls rest hflush ih =>
    rw [hflush] at ih
    exact ih fun f hf => h f (List.mem_cons_of_mem _ hf)
  | case4 f flushes hf => exact absurd (h f List.mem_cons_self) hf

namespace Sink

variable {sink behind : Sink} {stop : Option WriteStop} {bytes : Bytes}

theorem exists_prefix_of_transmit (h : sink.transmit bytes = (stop, behind)) :
    ∃ cut, cut <+: bytes ∧ behind.written = sink.written ++ cut ∧ (stop = none → cut = bytes) := by
  simp only [transmit, Prod.mk.injEq] at h
  obtain ⟨hstop, rfl⟩ := h
  refine ⟨_, prefix_offer sink.writes bytes, rfl, fun hnone => ?_⟩
  exact offer_eq_self (hstop.trans hnone)

theorem written_of_transmit (h : sink.transmit bytes = (none, behind)) :
    behind.written = sink.written ++ bytes := by
  obtain ⟨cut, -, hwritten, hcut⟩ := exists_prefix_of_transmit h
  rw [hwritten, hcut rfl]

end Sink

/-! ### Wire forms -/

namespace Frame

variable {payload : Bytes}

/-- A payload without a terminator is sent as it is, with a terminator behind it. -/
theorem encode_eq_append (h : terminator ∉ payload) :
    encode payload = .ok (payload ++ [terminator]) := by
  have hlast : payload.getLast? ≠ some terminator := fun hlast => h (List.mem_of_getLast? hlast)
  have hbody : body payload = payload := by rw [body, if_neg hlast]
  have hfind : payload.findIdx? (· == terminator) = none := by
    rw [List.findIdx?_eq_none_iff]
    intro b hb
    simp only [beq_eq_false_iff_ne]
    rintro rfl
    exact h hb
  rw [encode, hbody, hfind]

end Frame

/-! ### Payloads that make no frame -/

namespace Frame

variable {payload : Bytes} {offset : Nat} {e : FrameError}

/-- The first terminator stands at the offset, with more of the payload behind it. -/
structure CutsAt (payload : Bytes) (offset : Nat) : Prop where
  here : payload[offset]? = some terminator
  first : ∀ before < offset, payload[before]? ≠ some terminator
  behind : offset + 1 < payload.length

/-- A terminator at the end of the payload does not count. -/
theorem getElem?_body :
    (body payload)[offset]? = some terminator ↔
      payload[offset]? = some terminator ∧ offset + 1 < payload.length := by
  rw [body]
  split
  · -- The last byte is gone from the body.
    rw [List.getElem?_dropLast]
    split
    · rename_i hlt
      exact (and_iff_left (by omega)).symm
    · rename_i hlt
      exact iff_of_false (Option.some_ne_none _).symm fun h => hlt (by omega)
  · -- Nothing is gone, but then the last byte is no terminator.
    rename_i hlast
    refine ⟨fun h => ⟨h, ?_⟩, And.left⟩
    have hlt : offset < payload.length := (List.getElem?_eq_some_iff.mp h).1
    refine Nat.lt_of_le_of_ne hlt fun hend => hlast ?_
    rw [List.getLast?_eq_getElem?, ← hend]
    exact h

theorem findIdx?_body :
    (body payload).findIdx? (· == terminator) = some offset ↔ CutsAt payload offset := by
  rw [List.findIdx?_eq_some_iff_getElem]
  constructor
  · rintro ⟨hlt, hhere, hfirst⟩
    have hhere : (body payload)[offset]? = some terminator :=
      List.getElem?_eq_some_iff.mpr ⟨hlt, beq_iff_eq.mp hhere⟩
    obtain ⟨hhere, hbehind⟩ := getElem?_body.mp hhere
    refine ⟨hhere, fun before hbefore hearlier => ?_, hbehind⟩
    have hearlier := getElem?_body.mpr ⟨hearlier, by omega⟩
    exact hfirst before hbefore (beq_iff_eq.mpr (List.getElem?_eq_some_iff.mp hearlier).2)
  · rintro ⟨hhere, hfirst, hbehind⟩
    obtain ⟨hlt, hhere⟩ := List.getElem?_eq_some_iff.mp (getElem?_body.mpr ⟨hhere, hbehind⟩)
    refine ⟨hlt, beq_iff_eq.mpr hhere, fun before hbefore hearlier => ?_⟩
    have hearlier : (body payload)[before]? = some terminator :=
      List.getElem?_eq_some_iff.mpr ⟨by omega, beq_iff_eq.mp hearlier⟩
    exact hfirst before hbefore (getElem?_body.mp hearlier).1

theorem encode_eq_error_iff :
    encode payload = .error e ↔
      ∃ offset, CutsAt payload offset ∧ e = .terminatorInPayload offset := by
  rw [encode]
  cases hfind : (body payload).findIdx? (· == terminator) with
  | none =>
    constructor
    · intro h
      cases h
    · rintro ⟨offset, hcuts, -⟩
      cases hfind.symm.trans (findIdx?_body.mpr hcuts)
  | some found =>
    have hcuts := findIdx?_body.mp hfind
    constructor
    · intro h
      cases h
      exact ⟨found, hcuts, rfl⟩
    · rintro ⟨offset, hother, rfl⟩
      obtain rfl := Option.some.inj (hfind.symm.trans (findIdx?_body.mpr hother))
      rfl

/-- A payload is cut in two when a terminator stands before its last byte. -/
theorem exists_cutsAt_iff : (∃ offset, CutsAt payload offset) ↔ terminator ∈ payload.dropLast := by
  constructor
  · rintro ⟨offset, hcuts⟩
    have hbehind := hcuts.behind
    refine List.mem_of_getElem? (i := offset) ?_
    rw [List.getElem?_dropLast, if_pos (by omega)]
    exact hcuts.here
  · intro hmem
    have hbody : terminator ∈ body payload := by
      rw [body]
      split
      · exact hmem
      · exact List.dropLast_subset payload hmem
    cases hfind : (body payload).findIdx? (· == terminator) with
    | none => simpa using List.findIdx?_eq_none_iff.mp hfind terminator hbody
    | some offset => exact ⟨offset, findIdx?_body.mp hfind⟩

/-- The payload with one terminator at its end, which it may bring along. -/
def terminated (payload : Bytes) : Bytes :=
  if payload.getLast? = some terminator then payload else payload ++ [terminator]

theorem body_append_terminator (payload : Bytes) :
    body payload ++ [terminator] = terminated payload := by
  rw [body, terminated]
  split
  · rename_i hlast
    obtain ⟨plain, rfl⟩ := List.getLast?_eq_some_iff.mp hlast
    rw [List.dropLast_concat]
  · rfl

/-- A payload that is not cut in two is sent with one terminator at its end. -/
theorem encode_eq_terminated (h : terminator ∉ payload.dropLast) :
    encode payload = .ok (terminated payload) := by
  cases hencode : encode payload with
  | error e =>
    obtain ⟨offset, hcuts, -⟩ := encode_eq_error_iff.mp hencode
    exact absurd (exists_cutsAt_iff.mp ⟨offset, hcuts⟩) h
  | ok wire =>
    rw [encode] at hencode
    split at hencode
    · cases hencode
    · rw [← hencode, body_append_terminator]

end Frame

/-- A payload makes no frame when it is longer than a message may be, or else when a terminator
cuts it in two. -/
theorem FrameWriter.encode_eq_error_iff {writer : FrameWriter} {payload : Bytes} {e : FrameError} :
    writer.encode payload = .error e ↔
      writer.limit < payload.length ∧ e = .payloadTooLarge payload.length writer.limit ∨
        payload.length ≤ writer.limit ∧
          ∃ offset, Frame.CutsAt payload offset ∧ e = .terminatorInPayload offset := by
  rw [encode]
  by_cases hlong : writer.limit < payload.length
  · rw [if_pos hlong, Except.error.injEq, eq_comm, or_iff_left, and_iff_right hlong]
    exact fun h => Nat.not_le.mpr hlong h.1
  · rw [if_neg hlong, Frame.encode_eq_error_iff, or_iff_right, and_iff_right (Nat.not_lt.mp hlong)]
    exact fun h => hlong h.1

namespace FrameWriter

variable {writer : FrameWriter} {payload : Bytes}

/-- A payload within the limit that is not cut in two makes a frame. -/
theorem encode_eq_terminated (hlimit : payload.length ≤ writer.limit)
    (h : Frame.terminator ∉ payload.dropLast) :
    writer.encode payload = .ok (Frame.terminated payload) := by
  rw [encode, if_neg (Nat.not_lt.mpr hlimit), Frame.encode_eq_terminated h]

theorem exists_encode_eq_error_iff :
    (∃ e, writer.encode payload = .error e) ↔
      writer.limit < payload.length ∨ Frame.terminator ∈ payload.dropLast := by
  constructor
  · rintro ⟨e, he⟩
    rcases encode_eq_error_iff.mp he with ⟨hlong, -⟩ | ⟨-, offset, hcuts, -⟩
    · exact .inl hlong
    · exact .inr (Frame.exists_cutsAt_iff.mp ⟨offset, hcuts⟩)
  · intro h
    by_cases hlong : writer.limit < payload.length
    · exact ⟨_, encode_eq_error_iff.mpr (.inl ⟨hlong, rfl⟩)⟩
    · obtain ⟨offset, hcuts⟩ := Frame.exists_cutsAt_iff.mpr (h.resolve_left hlong)
      exact ⟨_, encode_eq_error_iff.mpr (.inr ⟨Nat.not_lt.mp hlong, offset, hcuts, rfl⟩)⟩

end FrameWriter

/-! ### Sending one frame -/

namespace FrameWriter

variable {writer behind : FrameWriter} {payload wire : Bytes} {result : Option FrameError}
  {e : FrameError}

theorem send_of_encode_eq_error (h : writer.encode payload = .error e) :
    writer.send payload = (some e, writer) := by
  rw [send, h]

/-- What is written is a prefix of the frame, and all of it unless an error is reported. -/
theorem exists_prefix_of_send (henc : writer.encode payload = .ok wire)
    (h : writer.send payload = (result, behind)) :
    ∃ cut, cut <+: wire ∧ behind.sink.written = writer.sink.written ++ cut ∧
      (result = none → cut = wire) := by
  simp only [send, henc] at h
  split at h
  · rename_i sink htransmit
    obtain ⟨rfl, rfl⟩ := Prod.mk.inj h
    obtain ⟨cut, hcut, hwritten, -⟩ := Sink.exists_prefix_of_transmit htransmit
    exact ⟨cut, hcut, hwritten, nofun⟩
  · rename_i f sink htransmit
    obtain ⟨rfl, rfl⟩ := Prod.mk.inj h
    obtain ⟨cut, hcut, hwritten, -⟩ := Sink.exists_prefix_of_transmit htransmit
    exact ⟨cut, hcut, hwritten, nofun⟩
  · rename_i sink htransmit
    obtain ⟨-, rfl⟩ := Prod.mk.inj h
    obtain ⟨cut, hcut, hwritten, hwhole⟩ := Sink.exists_prefix_of_transmit htransmit
    exact ⟨cut, hcut, hwritten, fun _ => hwhole rfl⟩

/-- A frame is sent if it is transmitted whole and then flushed. -/
theorem send_eq_none_iff :
    writer.send payload = (none, behind) ↔
      ∃ wire sink flushed, writer.encode payload = .ok wire ∧
        writer.sink.transmit wire = (none, sink) ∧ sink.flushPatiently = (none, flushed) ∧
        behind = { writer with sink := flushed } := by
  constructor
  · intro h
    rw [send] at h
    split at h
    · cases (Prod.mk.inj h).1
    · rename_i wire henc
      split at h
      · cases (Prod.mk.inj h).1
      · cases (Prod.mk.inj h).1
      · rename_i sink htransmit
        obtain ⟨hfault, rfl⟩ := Prod.mk.inj h
        have hnone : sink.flushPatiently.1 = none := Option.map_eq_none_iff.mp hfault
        exact ⟨wire, sink, _, henc, htransmit, Prod.ext hnone rfl, rfl⟩
  · rintro ⟨wire, sink, flushed, henc, htransmit, hflush, rfl⟩
    simp only [send, henc, htransmit, hflush, Option.map_none]

/-- Over a stream that never fails every frame is sent. -/
theorem exists_send_eq_none (hsink : writer.sink.NeverFails)
    (henc : writer.encode payload = .ok wire) :
    ∃ behind, writer.send payload = (none, behind) ∧
      behind.sink.written = writer.sink.written ++ wire := by
  have htransmit : (writer.sink.transmit wire).1 = none := offer_eq_none hsink.writes
  have hflush : (writer.sink.transmit wire).2.flushPatiently.1 = none :=
    flushUntilDone_eq_none hsink.flushes
  refine ⟨_, send_eq_none_iff.mpr
    ⟨wire, _, _, henc, Prod.ext htransmit rfl, Prod.ext hflush rfl, rfl⟩, ?_⟩
  have hwhole : writer.sink.transmit wire = (none, (writer.sink.transmit wire).2) :=
    Prod.ext htransmit rfl
  have hwritten := Sink.written_of_transmit hwhole
  exact hwritten

end FrameWriter

end MotionLink
