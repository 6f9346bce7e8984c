import MotionLink.Proofs.Link.Pairing
import MotionLink.Proofs.Wire.Conservation

/-!
# What a controller has said

A channel hears what its stream delivers up to the first frame over the limit. The greeting is the
first thing heard and the reply to the first request the next one, so whether a request succeeds is
told by what its stream delivers and by what becomes of its frame.

## Main definitions

* `Reply.within` — the replies in front of the first frame over the limit
* `Duplex.Answers` — a stream takes a request, and has a reply for it

## Main results

* `FrameReader.toOption_nextReply` — the next reply is the first of those that are heard
* `Channel.request_eq_ok_iff` — a request succeeds if its frame is sent and a reply is heard
* `Channel.request_eq_ok_iff_answers` — the same, told from the stream, for the first request
-/

namespace MotionLink

/-! ### The first payload -/

namespace Frame

variable {bytes payload : Bytes} {payloads' : List Bytes}

theorem payloads_of_not_mem (h : terminator ∉ bytes) : payloads bytes = [] := by
  rw [payloads, List.splitOn_eq_singleton h]
  rfl

/-- The first payload stands at the front, with a terminator behind it. -/
theorem exists_append_of_payloads (h : payloads bytes = payload :: payloads') :
    terminator ∉ payload ∧ ∃ rest, bytes = payload ++ terminator :: rest := by
  by_cases hmem : terminator ∈ bytes
  · obtain ⟨first, rest, rfl, hplain⟩ := List.eq_append_cons_of_mem hmem
    rw [payloads_append hplain] at h
    obtain ⟨rfl, -⟩ := List.cons.inj h
    exact ⟨hplain, rest, rfl⟩
  · rw [payloads_of_not_mem hmem] at h
    cases h

end Frame

/-! ### Replies within the limit -/

namespace Reply

/-- The replies among some payloads, in order; those that say nothing are left out. -/
def among (payloads : List Bytes) : List Reply :=
  ((payloads.map Utf8.text).filter fun text => !Text.isAllBlank text.toList).map ofText

/-- The replies in front of the first frame over the limit, in order. -/
def within (limit : Nat) (bytes : Bytes) : List Reply :=
  among ((Frame.payloads bytes).takeWhile fun payload => payload.length ≤ limit)

variable {limit : Nat} {payload rest : Bytes}

theorem within_append (h : Frame.terminator ∉ payload) (hlimit : payload.length ≤ limit) :
    within limit (payload ++ Frame.terminator :: rest) =
      if Text.isAllBlank (Utf8.text payload).toList then within limit rest
      else ofText (Utf8.text payload) :: within limit rest := by
  rw [within, Frame.payloads_append h, List.takeWhile_cons_of_pos (by simpa using hlimit), among,
    List.map_cons, List.filter_cons]
  cases Text.isAllBlank (Utf8.text payload).toList <;> rfl

end Reply

namespace FrameReader

variable {reader behind : FrameReader} {frame : Frame} {reply : Reply} {e : FrameError}

/-- The replies that a reader will give. -/
def heard (reader : FrameReader) : List Reply := Reply.within reader.limit reader.pending

theorem heard_ofSource (limit : Nat) (source : Source) :
    (ofSource limit source).heard = Reply.within limit source.delivered := by
  rw [heard, pending_ofSource]
  rfl

/-- A frame that is read is not over the limit, which stays as it is. -/
theorem length_le_of_next (h : reader.next = (.ok frame, behind)) :
    frame.payload.length ≤ reader.limit ∧ behind.limit = reader.limit := by
  simp only [next, Prod.mk.injEq] at h
  obtain ⟨hframe, rfl⟩ := h
  exact ⟨length_le_of_readFrame (Prod.ext hframe rfl), rfl⟩

/-- A frame that is read is the first of those heard, unless it says nothing. -/
theorem heard_of_next (h : reader.next = (.ok frame, behind)) :
    reader.heard =
      if Text.isAllBlank frame.text.toList then behind.heard
      else .ofText frame.text :: behind.heard := by
  obtain ⟨hplain, hpending⟩ := pending_of_next h
  obtain ⟨hlength, hlimit⟩ := length_le_of_next h
  rw [heard, hpending, Reply.within_append hplain hlength, heard, hlimit]
  rfl

/-- Where no frame is read, nothing is heard any more. -/
theorem heard_of_next_eq_error (h : reader.next = (.error e, behind)) : reader.heard = [] := by
  have hnone : (Frame.payloads reader.pending).takeWhile (fun payload =>
      payload.length ≤ reader.limit) = [] := by
    rcases hpayloads : Frame.payloads reader.pending with _ | ⟨payload, payloads⟩
    · rfl
    · obtain ⟨hplain, rest, hpending⟩ := Frame.exists_append_of_payloads hpayloads
      -- Within the limit the first frame would have been read.
      refine List.takeWhile_cons_of_neg fun hlimit => ?_
      obtain ⟨behind', hnext, -⟩ := exists_next_eq hplain (by simpa using hlimit) hpending
      simp [h] at hnext
  rw [heard, Reply.within, hnone]
  rfl

theorem heard_of_nextReply (h : reader.nextReply = (.ok reply, behind)) :
    reader.heard = reply :: behind.heard := by
  -- Along the blank messages that are skipped; nothing is heard in them.
  fun_induction nextReply reader with
  | case1 => cases (Prod.mk.inj h).1
  | case2 reader frame passed hnext hblank ih => rw [heard_of_next hnext, if_pos hblank, ih h]
  | case3 reader frame passed hnext hblank =>
    obtain ⟨hreply, rfl⟩ := Prod.mk.inj h
    obtain rfl := Except.ok.inj hreply
    rw [heard_of_next hnext, if_neg hblank]

theorem heard_of_nextReply_eq_error (h : reader.nextReply = (.error e, behind)) :
    reader.heard = [] := by
  fun_induction nextReply reader with
  | case1 reader cause passed hnext => exact heard_of_next_eq_error hnext
  | case2 reader frame passed hnext hblank ih => rw [heard_of_next hnext, if_pos hblank, ih h]
  | case3 => cases (Prod.mk.inj h).1

/-- The next reply is the first of those that are heard. -/
theorem toOption_nextReply (reader : FrameReader) :
    reader.nextReply.1.toOption = reader.heard.head? := by
  rcases hreply : reader.nextReply with ⟨e | reply, behind⟩
  · rw [heard_of_nextReply_eq_error hreply]
    rfl
  · rw [heard_of_nextReply hreply]
    rfl

end FrameReader

/-! ### Frames that are sent -/

namespace FrameWriter

variable {writer : FrameWriter} {payload wire : Bytes}

theorem encode_eq_ok_iff (h : Frame.terminator ∉ payload) : writer.encode payload = .ok wire ↔
    payload.length ≤ writer.limit ∧ wire = payload ++ [Frame.terminator] := by
  rw [encode, Frame.encode_eq_append h]
  by_cases hlimit : writer.limit < payload.length
  · rw [if_pos hlimit]
    refine ⟨fun hwire => ?_, fun hfits => absurd hfits.1 (Nat.not_le.mpr hlimit)⟩
    cases hwire
  · rw [if_neg hlimit]
    exact ⟨fun hwire => ⟨Nat.le_of_not_lt hlimit, (Except.ok.inj hwire).symm⟩,
      fun hfits => congrArg Except.ok hfits.2.symm⟩

/-- A payload without a terminator is sent if it is not over the limit, and its frame is taken whole
and then flushed. -/
theorem send_fst_eq_none_iff (h : Frame.terminator ∉ payload) :
    (writer.send payload).1 = none ↔
      payload.length ≤ writer.limit ∧
        (writer.sink.transmit (payload ++ [Frame.terminator])).1 = none ∧
        (writer.sink.transmit (payload ++ [Frame.terminator])).2.flushPatiently.1 = none := by
  constructor
  · intro hsend
    obtain ⟨wire, sink, flushed, hencode, htransmit, hflush, -⟩ :=
      send_eq_none_iff.mp (Prod.ext hsend rfl)
    obtain ⟨hlimit, rfl⟩ := (encode_eq_ok_iff h).mp hencode
    rw [htransmit, hflush]
    exact ⟨hlimit, rfl, rfl⟩
  · rintro ⟨hlimit, htransmit, hflush⟩
    have hencode : writer.encode payload = .ok (payload ++ [Frame.terminator]) :=
      (encode_eq_ok_iff h).mpr ⟨hlimit, rfl⟩
    have hsend := send_eq_none_iff.mpr
      ⟨_, _, _, hencode, Prod.ext htransmit rfl, Prod.ext hflush rfl, rfl⟩
    rw [hsend]

/-- Of a payload without a terminator nothing but its frame is sent, from the front. -/
theorem exists_prefix_send (h : Frame.terminator ∉ payload) (writer : FrameWriter) :
    ∃ cut, cut <+: payload ++ [Frame.terminator] ∧
      (writer.send payload).2.sink.written = writer.sink.written ++ cut ∧
      ((writer.send payload).1 = none → cut = payload ++ [Frame.terminator]) := by
  rcases hencode : writer.encode payload with e | wire
  · rw [send_of_encode_eq_error hencode]
    exact ⟨[], List.nil_prefix, (List.append_nil _).symm, nofun⟩
  · obtain ⟨cut, hcut, hwritten, hwhole⟩ := exists_prefix_of_send hencode rfl
    obtain ⟨-, rfl⟩ := (encode_eq_ok_iff h).mp hencode
    exact ⟨cut, hcut, hwritten, hwhole⟩

end FrameWriter

/-! ### Requests -/

/-- A stream takes the frame of a request whole and is flushed, and delivers a reply to it: the
first one, or the one behind the greeting. -/
structure Duplex.Answers (stream : Duplex) (settings : ChannelSettings) (payload : Bytes)
    (reply : Reply) : Prop where
  fits : payload.length ≤ settings.limit
  sent : (stream.sink.transmit (payload ++ [Frame.terminator])).1 = none
  flushed : (stream.sink.transmit (payload ++ [Frame.terminator])).2.flushPatiently.1 = none
  heard : (Reply.within settings.limit stream.reads.delivered)[settings.awaitsGreeting.toNat]? =
    some reply

namespace Channel

variable {channel : Channel} {settings : ChannelSettings} {reader : FrameReader}
  {writer : FrameWriter} {payload : Bytes} {reply : Reply} {cause : LinkError}

theorem awaitReply_eq_ok_iff : channel.awaitReply.1 = .ok reply ↔
    channel.reader.heard.head? = some reply := by
  rw [← FrameReader.toOption_nextReply, awaitReply]
  rcases channel.reader.nextReply with ⟨e | answer, behind⟩
  · simp [fail, Except.toOption]
  · exact ⟨fun h => congrArg Except.toOption h, fun h => congrArg Except.ok (Option.some.inj h)⟩

theorem written_awaitReply (channel : Channel) :
    channel.awaitReply.2.written = channel.written := by
  rw [awaitReply]
  rcases channel.reader.nextReply with ⟨e | answer, behind⟩ <;> rfl

/-- A request succeeds if its frame is sent and a reply is heard. -/
theorem request_eq_ok_iff (hbroken : channel.isBroken = false) :
    (channel.request payload).1 = .ok reply ↔
      (channel.writer.send payload).1 = none ∧ channel.reader.heard.head? = some reply := by
  rw [request, if_neg (by simp [hbroken])]
  rcases channel.writer.send payload with ⟨_ | e, writer⟩
  · have hawait : (awaitReply { channel with writer }).1 = .ok reply ↔
        channel.reader.heard.head? = some reply := awaitReply_eq_ok_iff
    dsimp only
    exact ⟨fun h => ⟨rfl, hawait.mp h⟩, fun h => hawait.mpr h.2⟩
  · simp [fail]

/-- Of a request nothing but its frame is written, from the front; all of it, if there is a
reply. -/
theorem exists_prefix_request (h : Frame.terminator ∉ payload) (channel : Channel) :
    ∃ cut, cut <+: payload ++ [Frame.terminator] ∧
      (channel.request payload).2.written = channel.written ++ cut ∧
      ∀ reply, (channel.request payload).1 = .ok reply → cut = payload ++ [Frame.terminator] := by
  rw [request]
  by_cases hbroken : channel.isBroken = true
  · rw [if_pos hbroken]
    exact ⟨[], List.nil_prefix, (List.append_nil _).symm, by simp⟩
  · rw [if_neg hbroken]
    obtain ⟨cut, hcut, hwritten, hwhole⟩ := FrameWriter.exists_prefix_send h channel.writer
    refine ⟨cut, hcut, ?_⟩
    rcases hsend : channel.writer.send payload with ⟨_ | e, writer⟩
    · rw [hsend] at hwritten hwhole
      exact ⟨(written_awaitReply _).trans hwritten, fun _ _ => hwhole rfl⟩
    · rw [hsend] at hwritten
      exact ⟨hwritten, by simp [fail]⟩

/-! ### The greeting -/

/-- Behind the greeting, if one was awaited, the channel is sound and hears what comes next. -/
theorem heard_of_ofParts (h : ofParts settings reader writer = (.ok (), channel)) :
    channel.isBroken = false ∧ channel.unit = settings.unit ∧ channel.writer = writer ∧
      reader.heard = channel.greeting.toList ++ channel.reader.heard ∧
      channel.greeting.toList.length = settings.awaitsGreeting.toNat := by
  rw [ofParts] at h
  cases hawaits : settings.awaitsGreeting with
  | false =>
    rw [hawaits, if_neg Bool.false_ne_true] at h
    obtain ⟨-, rfl⟩ := Prod.mk.inj h
    exact ⟨rfl, rfl, rfl, rfl, rfl⟩
  | true =>
    rw [hawaits, if_pos rfl, awaitReply] at h
    rcases hreply : (fresh settings reader writer).reader.nextReply with ⟨e | reply, behind⟩
    · rw [hreply] at h
      cases (Prod.mk.inj h).1
    · rw [hreply] at h
      obtain ⟨-, rfl⟩ := Prod.mk.inj h
      exact ⟨rfl, rfl, rfl, FrameReader.heard_of_nextReply hreply, rfl⟩

/-- Where the greeting does not come, one was awaited and nothing is heard; nothing is written. -/
theorem heard_of_ofParts_eq_error (h : ofParts settings reader writer = (.error cause, channel)) :
    settings.awaitsGreeting = true ∧ reader.heard = [] ∧ channel.writer = writer := by
  rw [ofParts] at h
  cases hawaits : settings.awaitsGreeting with
  | false =>
    rw [hawaits, if_neg Bool.false_ne_true] at h
    cases (Prod.mk.inj h).1
  | true =>
    rw [hawaits, if_pos rfl, awaitReply] at h
    rcases hreply : (fresh settings reader writer).reader.nextReply with ⟨e | reply, behind⟩
    · rw [hreply] at h
      obtain ⟨-, rfl⟩ := Prod.mk.inj h
      exact ⟨rfl, FrameReader.heard_of_nextReply_eq_error hreply, rfl⟩
    · rw [hreply] at h
      cases (Prod.mk.inj h).1

/-! ### The first request over a stream -/

variable {stream : Duplex}

/-- The first request over a stream succeeds if the stream takes it and has a reply for it. -/
theorem request_eq_ok_iff_answers (h : greeted settings stream = (.ok (), channel))
    (hplain : Frame.terminator ∉ payload) :
    (channel.request payload).1 = .ok reply ↔ stream.Answers settings payload reply := by
  obtain ⟨hbroken, -, hwriter, hheard, hlength⟩ := heard_of_ofParts h
  have hreply : channel.reader.heard.head? = some reply ↔
      (Reply.within settings.limit stream.reads.delivered)[settings.awaitsGreeting.toNat]? =
        some reply := by
    -- The greeting, if there is one, stands in front of what the channel hears.
    rw [← FrameReader.heard_ofSource, hheard, ← hlength, List.getElem?_append_right (Nat.le_refl _),
      Nat.sub_self, List.head?_eq_getElem?]
  rw [request_eq_ok_iff hbroken, hwriter, FrameWriter.send_fst_eq_none_iff hplain, hreply]
  constructor
  · rintro ⟨⟨hfits, hsent, hflushed⟩, hheard⟩
    exact ⟨hfits, hsent, hflushed, hheard⟩
  · rintro ⟨hfits, hsent, hflushed, hheard⟩
    exact ⟨⟨hfits, hsent, hflushed⟩, hheard⟩

/-- Where the greeting does not come, no request is answered. -/
theorem not_answers_of_greeted_eq_error (h : greeted settings stream = (.error cause, channel)) :
    ¬stream.Answers settings payload reply := by
  obtain ⟨-, hheard, -⟩ := heard_of_ofParts_eq_error h
  rw [FrameReader.heard_ofSource] at hheard
  intro hanswers
  have hreply := hanswers.heard
  rw [hheard, List.getElem?_nil] at hreply
  cases hreply

end Channel

end MotionLink
