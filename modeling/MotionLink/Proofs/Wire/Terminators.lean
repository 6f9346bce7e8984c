import MotionLink.Proofs.Wire.Calls
import MotionLink.Proofs.Wire.Conservation

/-!
# Terminators that are brought along

A payload may bring its terminator along, and then none is added to it. It is measured with its
terminator all the same, so the longest payload that can be sent cannot be sent that way. A frame
whose payload ends with a terminator is written with that one alone, while its wire form has another
one behind it. Frames that were read have no such payload.

## Main definitions

* `FrameWriter.SendsAlike` — two payloads are sent alike
* `Frame.IsWrittenAs`, `FrameWriter.WritesOut` — what is to be expected of the bytes written for a
  frame

## Main results

* `FrameWriter.sendsAlike_append_terminator_iff` — a terminator makes no difference below the limit
* `FrameWriter.writesOut` — a frame is written as its wire form unless a terminator ends its payload
-/

namespace MotionLink

namespace Frame

variable {payload : Bytes} {frame : Frame}

theorem body_eq_self (h : payload.getLast? ≠ some terminator) : body payload = payload := if_neg h

theorem terminated_eq_append (h : payload.getLast? ≠ some terminator) :
    terminated payload = payload ++ [terminator] := if_neg h

theorem body_append (payload : Bytes) : body (payload ++ [terminator]) = payload := by
  rw [body, if_pos List.getLast?_concat, List.dropLast_concat]

/-- A payload makes the same frame with its terminator and without it. -/
theorem encode_append_terminator (h : payload.getLast? ≠ some terminator) :
    encode (payload ++ [terminator]) = encode payload := by
  rw [encode, encode, body_append, body_eq_self h]

theorem terminator_not_mem_body (h : terminator ∉ payload.dropLast) : terminator ∉ body payload := by
  rw [body]
  split
  · exact h
  · -- The body is the whole payload, whose last byte is no terminator either.
    rename_i hlast
    intro hmem
    have hne : payload ≠ [] := List.ne_nil_of_mem hmem
    rw [← List.dropLast_concat_getLast hne] at hmem
    rcases List.mem_append.mp hmem with hbefore | hself
    · exact h hbefore
    · rw [List.getLast?_eq_some_getLast hne, ← List.mem_singleton.mp hself] at hlast
      exact hlast rfl

end Frame

/-! ### Payloads with a terminator and without -/

namespace FrameWriter

variable {writer : FrameWriter} {payload : Bytes}

/-- Two payloads are sent alike: both come to the same, up to what an error tells, and leave the
same behind, with the same bytes written. -/
structure SendsAlike (writer : FrameWriter) (payload other : Bytes) : Prop where
  answers : (writer.send payload).1.map FrameError.kind = (writer.send other).1.map FrameError.kind
  behind : (writer.send payload).2 = (writer.send other).2

theorem send_of_length_gt (h : writer.limit < payload.length) :
    writer.send payload = (some (.payloadTooLarge payload.length writer.limit), writer) :=
  send_of_encode_eq_error (encode_eq_error_iff.mpr (.inl ⟨h, rfl⟩))

/-- Below the limit a terminator that is brought along makes no difference. -/
theorem send_append_terminator (hlast : payload.getLast? ≠ some Frame.terminator)
    (hlimit : payload.length < writer.limit) :
    writer.send (payload ++ [Frame.terminator]) = writer.send payload := by
  have hlong : ¬writer.limit < (payload ++ [Frame.terminator]).length := by
    rw [List.length_append, List.length_singleton]
    omega
  have hencode : writer.encode (payload ++ [Frame.terminator]) = writer.encode payload := by
    rw [encode, encode, if_neg hlong, if_neg (by omega), Frame.encode_append_terminator hlast]
  rw [send, send, hencode]

/-- A payload within the limit is not refused for its length. -/
theorem kind_send_ne_payloadTooLarge (h : payload.length ≤ writer.limit) :
    (writer.send payload).1.map FrameError.kind ≠ some .payloadTooLarge := by
  rcases hencode : writer.encode payload with e | wire
  · rw [send_of_encode_eq_error hencode]
    rcases encode_eq_error_iff.mp hencode with ⟨hlong, -⟩ | ⟨-, offset, -, rfl⟩
    · exact absurd h (Nat.not_le.mpr hlong)
    · exact nofun
  · obtain ⟨calls, -, hsending⟩ := exists_sending hencode
    rcases hsending.handsOver.others with hsent | hclosed | ⟨f, hfault⟩
    · rw [hsent]
      exact nofun
    · rw [hclosed]
      exact nofun
    · rw [hfault]
      exact nofun

/-- A payload is sent alike with its terminator and without it, unless it is just as long as the
limit: with its terminator it is refused then. -/
theorem sendsAlike_append_terminator_iff (hlast : payload.getLast? ≠ some Frame.terminator) :
    (writer.SendsAlike payload (payload ++ [Frame.terminator]) ↔ payload.length ≠ writer.limit) ∧
      (payload.length = writer.limit → writer.send (payload ++ [Frame.terminator]) =
        (some (.payloadTooLarge (writer.limit + 1) writer.limit), writer)) := by
  have hlength : (payload ++ [Frame.terminator]).length = payload.length + 1 := List.length_append
  have hatLimit (heq : payload.length = writer.limit) :
      writer.send (payload ++ [Frame.terminator]) =
        (some (.payloadTooLarge (writer.limit + 1) writer.limit), writer) := by
    rw [send_of_length_gt (by omega), hlength, heq]
  -- Below the limit both make one frame, beyond it both are too long; at the limit only one is.
  refine ⟨⟨fun halike heq => ?_, fun hne => ?_⟩, hatLimit⟩
  · have hanswers := halike.answers
    rw [hatLimit heq] at hanswers
    exact kind_send_ne_payloadTooLarge (Nat.le_of_eq heq) hanswers
  · rcases Nat.lt_or_gt_of_ne hne with hshort | hlong
    · have hsame := send_append_terminator hlast hshort
      exact ⟨by rw [hsame], by rw [hsame]⟩
    · have hlonger : writer.limit < (payload ++ [Frame.terminator]).length := by omega
      exact ⟨by rw [send_of_length_gt hlong, send_of_length_gt hlonger]; rfl,
        by rw [send_of_length_gt hlong, send_of_length_gt hlonger]⟩

/-- A payload of three bytes under a limit of four. -/
theorem sendsAlike_append_terminator_of_three :
    (Utf8.octets "abc").getLast? ≠ some Frame.terminator ∧
      SendsAlike ⟨4, .ofScript [.upTo 2, .upTo 0] []⟩ (Utf8.octets "abc")
        (Utf8.octets "abc" ++ [Frame.terminator]) :=
  ⟨by decide, (sendsAlike_append_terminator_iff (by decide)).1.mpr (by decide)⟩

/-- At the limit a payload is sent that is refused with its terminator. -/
theorem not_sendsAlike_at_limit :
    let writer : FrameWriter := ⟨4, .ofScript [] []⟩
    ¬writer.SendsAlike (Utf8.octets "abcd") (Utf8.octets "abcd#") ∧
      (writer.send (Utf8.octets "abcd")).1 = none ∧
      (writer.send (Utf8.octets "abcd")).2.sink.written = Utf8.octets "abcd#" ∧
      (writer.send (Utf8.octets "abcd#")).1 = some (.payloadTooLarge 5 4) ∧
      (writer.send (Utf8.octets "abcd#")).2.sink.written = [] := by
  refine ⟨fun halike => absurd halike.answers (by decide +kernel), ?_⟩
  decide +kernel

end FrameWriter

/-! ### Frames and their wire forms -/

namespace Frame

variable {frame : Frame} {bytes : Bytes}

/-- No terminator ends the payload. -/
def EndsPlain (frame : Frame) : Prop := frame.payload.getLast? ≠ some terminator

/-- What is to be expected of the bytes that were written for a frame. -/
structure IsWrittenAs (frame : Frame) (bytes : Bytes) : Prop where
  eq_terminated : bytes = terminated frame.payload
  /-- whoever reads them finds a single frame -/
  reads : payloads bytes = [body frame.payload]
  toWire : bytes = frame.toWire ↔ frame.EndsPlain
  wireSize : bytes.length = frame.wireSize ↔ frame.EndsPlain
  /-- whoever reads the wire form finds the same -/
  readsWire : payloads frame.toWire = payloads bytes ↔ frame.EndsPlain

theorem payloads_body_append (h : terminator ∉ frame.payload.dropLast) (rest : Bytes) :
    payloads (body frame.payload ++ terminator :: rest) = body frame.payload :: payloads rest :=
  payloads_append (terminator_not_mem_body h)

theorem isWrittenAs_terminated (h : terminator ∉ frame.payload.dropLast) :
    frame.IsWrittenAs (terminated frame.payload) := by
  have hreads : payloads (terminated frame.payload) = [body frame.payload] := by
    rw [← body_append_terminator]
    exact payloads_body_append h []
  by_cases hplain : frame.EndsPlain
  · have hwire : terminated frame.payload = frame.toWire := terminated_eq_append hplain
    have hsize : (terminated frame.payload).length = frame.wireSize := by
      rw [hwire]
      exact List.length_append
    exact ⟨rfl, hreads, iff_of_true hwire hplain, iff_of_true hsize hplain,
      iff_of_true (by rw [hwire]) hplain⟩
  · -- The wire form has one more terminator, and with it another frame, without a payload.
    have hlast : frame.payload.getLast? = some terminator := not_not.mp hplain
    have hself : terminated frame.payload = frame.payload := if_pos hlast
    have hwire : frame.toWire = body frame.payload ++ terminator :: [terminator] := by
      rw [List.append_cons, body_append_terminator, hself]
      rfl
    have hsize : (terminated frame.payload).length ≠ frame.wireSize := by
      rw [hself, wireSize]
      exact Nat.ne_of_lt (Nat.lt_succ_self _)
    refine ⟨rfl, hreads, iff_of_false (fun heq => hsize ?_) hplain, iff_of_false hsize hplain,
      iff_of_false ?_ hplain⟩
    · rw [heq]
      exact List.length_append
    · rw [hreads, hwire, payloads_body_append h]
      exact nofun

/-- A frame that was read has no terminator in its payload. -/
theorem endsPlain_of_decode {limit : Nat} {buffer rest : Bytes}
    (h : decode limit buffer = .ok (some (frame, rest))) : frame.EndsPlain :=
  fun hlast => (eq_append_of_decode h).1 (List.mem_of_getLast? hlast)

end Frame

namespace FrameWriter

/-- What is to be expected when a frame is written. -/
structure WritesOut (writer : FrameWriter) (frame : Frame) : Prop where
  /-- over a stream that takes everything a frame is written unless its payload is longer than the
  limit or cut in two -/
  succeeds : writer.sink.NeverFails → ((writer.sendFrame frame).1 = none ↔
    frame.payload.length ≤ writer.limit ∧ Frame.terminator ∉ frame.payload.dropLast)
  written : (writer.sendFrame frame).1 = none →
    ∃ bytes, (writer.sendFrame frame).2.sink.written = writer.sink.written ++ bytes ∧
      frame.IsWrittenAs bytes
  /-- a frame that was read is written as its wire form -/
  read : ∀ limit buffer rest, Frame.decode limit buffer = .ok (some (frame, rest)) →
    frame.EndsPlain

/-- A frame is written with one terminator. These bytes are its wire form, and are read as it is,
exactly if no terminator ends its payload. -/
theorem writesOut (writer : FrameWriter) (frame : Frame) : writer.WritesOut frame := by
  -- What makes a frame at all, and so what a stream that takes everything is sent.
  have hfits : (∃ wire, writer.encode frame.payload = .ok wire) ↔
      frame.payload.length ≤ writer.limit ∧ Frame.terminator ∉ frame.payload.dropLast := by
    constructor
    · rintro ⟨wire, hwire⟩
      have hnone : ¬∃ e, writer.encode frame.payload = .error e := by
        rintro ⟨e, he⟩
        cases hwire.symm.trans he
      rw [exists_encode_eq_error_iff, not_or, Nat.not_lt] at hnone
      exact hnone
    · rintro ⟨hlimit, hplain⟩
      exact ⟨_, encode_eq_terminated hlimit hplain⟩
  have hencoded (hsent : (writer.sendFrame frame).1 = none) :
      ∃ wire, writer.encode frame.payload = .ok wire := by
    obtain ⟨wire, -, -, hwire, -⟩ := send_eq_none_iff.mp (Prod.ext hsent rfl)
    exact ⟨wire, hwire⟩
  constructor
  case succeeds =>
    intro hsink
    refine ⟨fun hsent => hfits.mp (hencoded hsent), fun hok => ?_⟩
    obtain ⟨wire, hwire⟩ := hfits.mpr hok
    obtain ⟨behind, hsent, -⟩ := exists_send_eq_none hsink hwire
    exact congrArg Prod.fst hsent
  case written =>
    intro hsent
    obtain ⟨wire, hwire⟩ := hencoded hsent
    obtain ⟨hlimit, hplain⟩ := hfits.mp ⟨wire, hwire⟩
    obtain rfl := Except.ok.inj (hwire.symm.trans (encode_eq_terminated hlimit hplain))
    obtain ⟨cut, -, hwritten, hwhole⟩ := exists_prefix_of_send hwire (Prod.ext hsent rfl)
    rw [hwhole rfl] at hwritten
    exact ⟨_, hwritten, Frame.isWrittenAs_terminated hplain⟩
  case read => exact fun limit buffer rest h => Frame.endsPlain_of_decode h

/-- A frame whose payload ends with a terminator is written with that one alone. -/
theorem not_written_as_toWire :
    let writer : FrameWriter := ⟨10, .ofScript [] []⟩
    let frame : Frame := ⟨Utf8.octets "a#"⟩
    (writer.sendFrame frame).1 = none ∧
      (writer.sendFrame frame).2.sink.written ≠ frame.toWire ∧
      (writer.sendFrame frame).2.sink.written.length ≠ frame.wireSize ∧
      (writer.sendFrame frame).2.sink.written = Utf8.octets "a#" ∧
      frame.toWire = Utf8.octets "a##" ∧ frame.wireSize = 3 := by
  decide +kernel

end FrameWriter

end MotionLink
