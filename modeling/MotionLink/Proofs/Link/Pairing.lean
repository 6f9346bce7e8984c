import MotionLink.Proofs.Command.Stripping
import MotionLink.Proofs.Link.Exchange
import MotionLink.Proofs.Text.Trim
import MotionLink.Proofs.Text.Utf8
import MotionLink.Proofs.Wire.Reading
import MotionLink.Proofs.Wire.Writing

/-!
# Replies belong to their requests

The controller greets at most once and replies to one request after the other, so the first frame
that says something is the greeting, if one is awaited, and the others answer the requests in
order. What is still to come never gets out of step: an exchange that succeeds takes the next reply
off it, and one that fails either leaves it alone or is the last one to read.

## Main definitions

* `Reply.allIn` — the replies in a row of bytes
* `Exchange.AwaitsAfterSending` — an exchange reads only after its frame was sent

## Main results

* `FrameReader.allIn_of_nextReply` — the next reply is the first of those pending
* `Channel.prefix_replies` — a row of exchanges is answered by what is pending, in order
* `Channel.paired` — the same from the greeting on
-/

namespace MotionLink

/-! ### The replies in a row of bytes -/

namespace Reply

/-- The replies in a row of bytes, in order; frames that say nothing are left out. -/
def allIn (bytes : Bytes) : List Reply :=
  (((Frame.payloads bytes).map Utf8.text).filter fun text => !Text.isAllBlank text.toList).map
    ofText

theorem allIn_append {payload rest : Bytes} (h : Frame.terminator ∉ payload) :
    allIn (payload ++ Frame.terminator :: rest) =
      if Text.isAllBlank (Utf8.text payload).toList then allIn rest
      else ofText (Utf8.text payload) :: allIn rest := by
  rw [allIn, Frame.payloads_append h, List.map_cons, List.filter_cons]
  cases Text.isAllBlank (Utf8.text payload).toList <;> rfl

theorem strip_eq_trim {raw : List Char} (h : '#' ∉ raw) : strip raw = Text.trim raw := by
  have hself : Text.trimBy (· == '#') (Text.trim raw) = Text.trim raw := by
    apply Text.trimBy_eq_self
    intro c hc
    rw [beq_eq_false_iff_ne]
    rintro rfl
    exact h (Text.mem_of_mem_trimBy hc)
  rw [strip, hself]
  exact Text.trimBy_trimBy _ _

/-- A reply to what was read off the wire says something. -/
theorem text_ofText_ne_empty {payload : Bytes} (hplain : Frame.terminator ∉ payload)
    (hfilled : Text.isAllBlank (Utf8.text payload).toList = false) :
    (ofText (Utf8.text payload)).text ≠ "" := by
  rw [Utf8.text, String.toList_ofList] at hfilled
  have hhash : '#' ∉ Utf8.decode payload := fun hmem =>
    hplain (Utf8.mem_of_mem_decode hmem (by decide) (by decide))
  have hne : Text.trim (Utf8.decode payload) ≠ [] := by
    rw [Ne, Text.trim_eq_nil_iff, hfilled]
    exact Bool.false_ne_true
  rw [text_ofText, Utf8.text, String.toList_ofList, strip_eq_trim hhash]
  intro hempty
  exact hne (by rw [← String.toList_ofList (l := Text.trim (Utf8.decode payload)), hempty]; rfl)

end Reply

/-- The next reply is the first of those pending, and says something. -/
theorem FrameReader.allIn_of_nextReply {reader behind : FrameReader} {reply : Reply}
    (h : reader.nextReply = (.ok reply, behind)) :
    Reply.allIn reader.pending = reply :: Reply.allIn behind.pending ∧ reply.text ≠ "" := by
  fun_induction FrameReader.nextReply reader with
  | case1 => simp at h
  | case2 reader frame passed hnext hblank ih =>
    obtain ⟨hplain, hpending⟩ := FrameReader.pending_of_next hnext
    rw [hpending, Reply.allIn_append hplain, ← Frame.text, if_pos hblank]
    exact ih h
  | case3 reader frame passed hnext hblank =>
    obtain ⟨hplain, hpending⟩ := FrameReader.pending_of_next hnext
    obtain ⟨hreply, rfl⟩ := Prod.mk.inj h
    obtain rfl := Except.ok.inj hreply
    have hfilled : Text.isAllBlank frame.text.toList = false := by simpa using hblank
    rw [hpending, Reply.allIn_append hplain, ← Frame.text, if_neg hblank]
    exact ⟨rfl, Reply.text_ofText_ne_empty hplain hfilled⟩

/-! ### One exchange -/

/-- The frame of an exchange is taken whole and then flushed, and only after that the reply is
awaited. -/
def Exchange.AwaitsAfterSending (channel : Channel) (e : Exchange) : Prop :=
  ∃ payload wire sink flushed,
    e.payload channel.unit = .ok payload ∧
    channel.writer.encode payload = .ok wire ∧
    channel.writer.sink.transmit wire = (none, sink) ∧
    sink.written = channel.written ++ wire ∧
    sink.flushPatiently = (none, flushed) ∧
    e.run channel =
      Channel.awaitReply { channel with writer := { channel.writer with sink := flushed } }

namespace Channel

variable {channel : Channel} {reply : Reply} {cause : LinkError}

/-- An exchange reads nothing and fails, unless its frame was sent first. -/
theorem unread_or_awaitsAfterSending (channel : Channel) (e : Exchange) :
    ((e.run channel).2.reader = channel.reader ∧ ∃ cause, (e.run channel).1 = .error cause) ∨
      e.AwaitsAfterSending channel := by
  have hsent {payload : Bytes} {writer : FrameWriter}
      (hpayload : e.payload channel.unit = .ok payload) (hbroken : channel.isBroken = false)
      (hsend : channel.writer.send payload = (none, writer)) : e.AwaitsAfterSending channel := by
    obtain ⟨wire, sink, flushed, henc, htransmit, hflush, rfl⟩ :=
      FrameWriter.send_eq_none_iff.mp hsend
    refine ⟨payload, wire, sink, flushed, hpayload, henc, htransmit,
      Sink.written_of_transmit htransmit, hflush, ?_⟩
    rw [Exchange.run_of_payload_eq_ok hpayload, request, hbroken, if_neg Bool.false_ne_true, hsend]
  rcases hrun : e.run channel with ⟨answer, behind⟩
  cases Exchange.outcome_of_run hrun with
  | refused hpayload => exact .inl ⟨rfl, _, rfl⟩
  | broken hpayload hbroken => exact .inl ⟨rfl, _, rfl⟩
  | unsent hpayload hbroken hsend => exact .inl ⟨rfl, _, rfl⟩
  | unanswered hpayload hbroken hsend hreply => exact .inr (hsent hpayload hbroken hsend)
  | answered hpayload hbroken hsend hreply => exact .inr (hsent hpayload hbroken hsend)

/-- An exchange that succeeds takes the first reply off those pending. -/
theorem allIn_of_run_eq_ok {e : Exchange} {behind : Channel}
    (h : e.run channel = (.ok reply, behind)) :
    Reply.allIn channel.reader.pending = reply :: Reply.allIn behind.reader.pending ∧
      reply.text ≠ "" := by
  cases Exchange.outcome_of_run h with
  | answered hpayload hbroken hsend hreply => exact FrameReader.allIn_of_nextReply hreply

/-- An exchange that fails leaves the channel as it was, or broken. -/
theorem eq_or_isBroken_of_run_eq_error {e : Exchange} {behind : Channel}
    (h : e.run channel = (.error cause, behind)) : behind = channel ∨ behind.isBroken = true := by
  cases Exchange.outcome_of_run h with
  | refused hpayload => exact .inl rfl
  | broken hpayload hbroken => exact .inl rfl
  | unsent hpayload hbroken hsend => exact .inr rfl
  | unanswered hpayload hbroken hsend hreply => exact .inr rfl

/-! ### Rows of exchanges -/

/-- The replies to a row of exchanges are the first ones pending, and each says something. -/
theorem prefix_replies (channel : Channel) (calls : List Exchange) :
    channel.replies calls <+: Reply.allIn channel.reader.pending ∧
      ∀ reply ∈ channel.replies calls, reply.text ≠ "" := by
  induction calls generalizing channel with
  | nil => exact ⟨List.nil_prefix, nofun⟩
  | cons e calls ih =>
    rw [replies_cons]
    rcases hrun : e.run channel with ⟨cause | reply, behind⟩
    · rcases eq_or_isBroken_of_run_eq_error hrun with rfl | hbroken
      · exact ih behind
      · -- Whatever comes after a failure is refused, so no reply is taken for another one.
        rw [replies_of_isBroken hbroken]
        exact ⟨List.nil_prefix, nofun⟩
    · obtain ⟨hfirst, htexts⟩ := ih behind
      obtain ⟨hpending, htext⟩ := allIn_of_run_eq_ok hrun
      rw [hpending]
      exact ⟨(List.prefix_cons_inj reply).mpr hfirst, List.forall_mem_cons.mpr ⟨htext, htexts⟩⟩

/-- What is left of the pending replies once the greeting was heard, if one was awaited. -/
theorem greeting_of_ofParts {settings : ChannelSettings} {reader : FrameReader}
    {writer : FrameWriter} (h : ofParts settings reader writer = (.ok (), channel)) :
    channel.greeting.isSome = settings.awaitsGreeting ∧
      Reply.allIn reader.pending =
        channel.greeting.toList ++ Reply.allIn channel.reader.pending ∧
      ∀ reply ∈ channel.greeting, reply.text ≠ "" := by
  rw [ofParts] at h
  cases hawaits : settings.awaitsGreeting with
  | false =>
    rw [hawaits, if_neg Bool.false_ne_true] at h
    obtain ⟨-, rfl⟩ := Prod.mk.inj h
    exact ⟨rfl, rfl, nofun⟩
  | true =>
    rw [hawaits, if_pos rfl, awaitReply] at h
    rcases hreply : (fresh settings reader writer).reader.nextReply with ⟨cause | reply, behind⟩
    · rw [hreply] at h
      cases (Prod.mk.inj h).1
    · rw [hreply] at h
      obtain ⟨-, rfl⟩ := Prod.mk.inj h
      obtain ⟨hpending, htext⟩ := FrameReader.allIn_of_nextReply hreply
      refine ⟨rfl, hpending, fun other hother => ?_⟩
      obtain rfl := Option.some.inj hother
      exact htext

/-- The greeting and the replies to a row of exchanges are the first replies that the stream
delivers, in order, and each of them says something. The exchange after them reads nothing before
its own frame was sent. -/
theorem paired {settings : ChannelSettings} {readLimit writeLimit : Nat} {stream : Duplex}
    (h : ofParts settings (.ofSource readLimit stream.reads) ⟨writeLimit, stream.sink⟩ =
      (.ok (), channel)) (calls : List Exchange) :
    channel.greeting.isSome = settings.awaitsGreeting ∧
      channel.greeting.toList ++ channel.replies calls <+:
        Reply.allIn stream.reads.delivered ∧
      (∀ reply ∈ channel.greeting.toList ++ channel.replies calls, reply.text ≠ "") ∧
      ∀ e : Exchange,
        ((e.run (channel.after calls)).2.reader = (channel.after calls).reader ∧
            ∃ cause, (e.run (channel.after calls)).1 = .error cause) ∨
          e.AwaitsAfterSending (channel.after calls) := by
  obtain ⟨hgreeting, hpending, htext⟩ := greeting_of_ofParts h
  obtain ⟨hfirst, htexts⟩ := prefix_replies channel calls
  rw [FrameReader.pending_ofSource] at hpending
  refine ⟨hgreeting, ?_, ?_, unread_or_awaitsAfterSending (channel.after calls)⟩
  · rw [hpending]
    exact (List.prefix_append_right_inj _).mpr hfirst
  · intro reply hreply
    rcases List.mem_append.mp hreply with hmem | hmem
    · exact htext reply (Option.mem_toList.mp hmem)
    · exact htexts reply hmem

/-- A greeting, a line end as a frame of its own, and a reply that is cut in two. -/
theorem paired_of_split_reply :
    ∃ (stream : Duplex) (channel : Channel),
      stream.reads =
        [.bytes (Utf8.octets "FREE|0#\r"), .bytes (Utf8.octets "\n#FREE|"),
          .bytes (Utf8.octets "7#")] ∧
      ofParts ⟨100, none, true, .radians⟩ (.ofSource 100 stream.reads) ⟨100, stream.sink⟩ =
        (.ok (), channel) ∧
      channel.greeting.toList ++ channel.replies [.request (Utf8.octets "1|2")] <+:
        Reply.allIn stream.reads.delivered ∧
      channel.replies [.request (Utf8.octets "1|2")] = [.ofText "FREE|7"] := by
  let stream : Duplex :=
    ⟨[.bytes (Utf8.octets "FREE|0#\r"), .bytes (Utf8.octets "\n#FREE|"),
      .bytes (Utf8.octets "7#")], [.upTo 2], []⟩
  have hopen : (ofParts ⟨100, none, true, .radians⟩ (.ofSource 100 stream.reads)
      ⟨100, stream.sink⟩).1 = .ok () := by decide +kernel
  refine ⟨stream, _, rfl, Prod.ext hopen rfl, ?_, by decide +kernel⟩
  exact (paired (Prod.ext hopen rfl) [.request (Utf8.octets "1|2")]).2.1

end Channel

end MotionLink
