import MotionLink.Proofs.Command.RoundTrip
import MotionLink.Proofs.Text.Utf8
import MotionLink.Proofs.Wire.Reading
import MotionLink.Proofs.Wire.Writing

/-!
# A request on its way

An accepted request is written as one frame. Its payload shows no terminator, so however the bytes
are written and read, the frame that arrives holds the payload, and the payload is read back as the
request.

## Main results

* `Intent.exists_delivery` — an accepted request within the limits arrives as it was meant
-/

namespace MotionLink

namespace Utf8

theorem length_encodeChar_pos (c : Char) : 0 < (encodeChar c).length := by
  simp only [encodeChar]
  split
  · exact Nat.one_pos
  split
  · exact Nat.two_pos
  split <;> exact Nat.succ_pos _

theorem length_le_length_encode (s : List Char) : s.length ≤ (encode s).length := by
  induction s with
  | nil => exact Nat.le_refl 0
  | cons c s ih =>
    have hc := length_encodeChar_pos c
    have hcons : encode (c :: s) = encodeChar c ++ encode s := List.flatMap_cons
    rw [hcons, List.length_append, List.length_cons]
    omega

end Utf8

namespace Intent

variable {unit : AngleUnit} {intent : Intent} {payload : String}

/-- The payload of a request shows no terminator. -/
theorem terminator_not_mem_octets (h : intent.encode unit = .ok payload) :
    Frame.terminator ∉ Utf8.octets payload := by
  obtain ⟨hvalid, rfl⟩ := encode_eq_ok_iff.mp h
  intro hmem
  rw [Utf8.octets, String.toList_ofList] at hmem
  exact hash_not_mem_payload hvalid (Utf8.mem_of_mem_encode hmem (by decide))

/-- What fits into a machine word in bytes has fewer points than words can count. -/
theorem pointCount_lt_of_length_le {limit : UInt64} (h : intent.encode unit = .ok payload)
    (hlimit : (Utf8.octets payload).length ≤ limit.toNat) : intent.pointCount < wordBound := by
  obtain ⟨-, rfl⟩ := encode_eq_ok_iff.mp h
  rw [Utf8.octets, String.toList_ofList] at hlimit
  calc intent.pointCount ≤ (Slot.payload (intent.slots unit)).length :=
        pointCount_le_length_payload unit intent
    _ ≤ (Utf8.encode (Slot.payload (intent.slots unit))).length := Utf8.length_le_length_encode _
    _ ≤ limit.toNat := hlimit
    _ < wordBound := limit.toNat_lt

/-- An accepted request within the limits is sent over any stream that never fails. Whatever reads
the bytes written are then cut into, one frame is read, nothing is left behind it, and its text is
read back as the request. -/
theorem exists_delivery {writeLimit readLimit : UInt64} {writes : List Acceptance}
    {flushes : List (Option Fault)} (h : intent.encode unit = .ok payload)
    (hwrite : (Utf8.octets payload).length ≤ writeLimit.toNat)
    (hread : (Utf8.octets payload).length ≤ readLimit.toNat)
    (hsink : (Sink.ofScript writes flushes).NeverFails) :
    ∃ writer, FrameWriter.send ⟨writeLimit.toNat, .ofScript writes flushes⟩ (Utf8.octets payload) =
        (none, writer) ∧
      ∀ reads : Source, reads.delivered = writer.sink.written →
        ∃ frame reader, (FrameReader.ofSource readLimit.toNat reads).next = (.ok frame, reader) ∧
          reader.buffer = [] ∧ Decoded.ofPayload frame.text = .ok (intent.readBack unit) := by
  have hplain := terminator_not_mem_octets h
  have henc : FrameWriter.encode ⟨writeLimit.toNat, .ofScript writes flushes⟩
      (Utf8.octets payload) = .ok (Utf8.octets payload ++ [Frame.terminator]) := by
    rw [FrameWriter.encode, if_neg (by simpa using hwrite), Frame.encode_eq_append hplain]
  obtain ⟨writer, hsend, hwritten⟩ := FrameWriter.exists_send_eq_none hsink henc
  refine ⟨writer, hsend, fun reads hreads => ?_⟩
  -- Of the reads only the bytes they bring count, and these are the frame.
  have hpending : (FrameReader.ofSource readLimit.toNat reads).pending =
      Utf8.octets payload ++ Frame.terminator :: [] := by
    rw [FrameReader.pending_ofSource, hreads, hwritten]
    rfl
  obtain ⟨reader, hnext, hrest⟩ := FrameReader.exists_next_eq hplain hread hpending
  refine ⟨⟨Utf8.octets payload⟩, reader, hnext, (List.append_eq_nil_iff.mp hrest).1, ?_⟩
  rw [Frame.text, Utf8.text_octets]
  exact ofPayload_encode h (pointCount_lt_of_length_le h hread)

/-- A motion given in degrees, over a stream that takes one byte at first and is interrupted. -/
theorem exists_delivery_of_short_write :
    ∃ writer,
      FrameWriter.send
          ⟨(60 : UInt64).toNat,
            .ofScript [.upTo 1, .fault (.ofKind .interrupted)] [some (.ofKind .interrupted)]⟩
          (Utf8.octets "9|1|-0.5;0;0;1.5707963267948966;0;0|||| T 1||0.25| é ") = (none, writer) ∧
      ∀ reads : Source, reads.delivered = writer.sink.written →
        ∃ frame reader,
          (FrameReader.ofSource (60 : UInt64).toNat reads).next = (.ok frame, reader) ∧
          reader.buffer = [] ∧
          Decoded.ofPayload frame.text = .ok (Intent.readBack .degrees (.motion
            ⟨.linear, true, false,
              [⟨[.ofDecimal true 5 (-1), .zero, .zero, .ofDecimal false 90 0, .zero, .zero]⟩],
              " T 1", "", Motion.defaultSpeed, " é "⟩)) := by
  refine exists_delivery ?_ ?_ ?_ ⟨?_, ?_⟩
  · decide +kernel
  · decide +kernel
  · decide +kernel
  · decide
  · intro f hf
    have hkind : f = .ofKind .interrupted := by simpa [Sink.ofScript] using hf
    rw [hkind]
    rfl

end Intent

end MotionLink
