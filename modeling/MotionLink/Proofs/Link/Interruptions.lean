import MotionLink.Proofs.Link.Exchange
import MotionLink.Proofs.Wire.Interruptions

/-!
# Interruptions go unnoticed

Two channels over streams that do the same, but are interrupted at other moments, cannot be told
apart. Each waits for its greeting and its replies, and sends its requests, with the progress made
before an interruption kept. So the two stay alike from one exchange to the next: only what their
streams will do, and how often these were flushed, may differ between them.

## Main definitions

* `Channel.Resembles` — two channels whose streams do the same when they are not interrupted
* `Channel.Indistinguishable` — two channels of which the same can be seen

## Main results

* `Channel.Resembles.run` — an exchange comes to the same on both, and leaves them alike
* `Channel.indistinguishable_of_calm_eq` — no interruption is noticed, from the greeting on
-/

namespace MotionLink

/-! ### Replies and requests -/

namespace FrameReader

/-- What comes of the next message decides on the reply. -/
theorem nextReply_of_next {reader behind : FrameReader} {result : Except FrameError Frame}
    (h : reader.next = (result, behind)) :
    reader.nextReply =
      match result with
      | .error e => (.error e, behind)
      | .ok frame =>
        if Text.isAllBlank frame.text.toList then behind.nextReply
        else (.ok (.ofText frame.text), behind) := by
  rw [nextReply]
  split
  · rename_i hnext
    cases h.symm.trans hnext
    rfl
  · rename_i hnext
    cases h.symm.trans hnext
    rfl

/-- The next reply is the same without interruptions. -/
theorem nextReply_calm (reader : FrameReader) :
    reader.calm.nextReply = (reader.nextReply.1, reader.nextReply.2.calm) := by
  -- The induction is on the blank messages that are skipped, of which none is an interruption.
  fun_induction nextReply reader with
  | case1 reader e behind hnext =>
    have hcalm : reader.calm.next = (.error e, behind.calm) := by rw [next_calm, hnext]
    rw [nextReply_of_next hcalm]
  | case2 reader frame behind hnext hblank ih =>
    have hcalm : reader.calm.next = (.ok frame, behind.calm) := by rw [next_calm, hnext]
    rw [nextReply_of_next hcalm]
    dsimp only
    rw [if_pos hblank, ih]
  | case3 reader frame behind hnext hblank =>
    have hcalm : reader.calm.next = (.ok frame, behind.calm) := by rw [next_calm, hnext]
    rw [nextReply_of_next hcalm]
    dsimp only
    rw [if_neg hblank]

/-- Readers whose streams differ by interruptions get the same reply. -/
theorem nextReply_of_calm_eq {reader other : FrameReader} (h : reader.calm = other.calm) :
    reader.nextReply.1 = other.nextReply.1 ∧
      reader.nextReply.2.calm = other.nextReply.2.calm := by
  have hreply := nextReply_calm reader
  rw [h, nextReply_calm other] at hreply
  exact Prod.mk.inj hreply.symm

end FrameReader

/-- Writers whose streams differ by interruptions come to the same. -/
theorem FrameWriter.send_of_calm_eq {writer other : FrameWriter} (h : writer.calm = other.calm)
    (payload : Bytes) :
    (writer.send payload).1 = (other.send payload).1 ∧
      (writer.send payload).2.calm = (other.send payload).2.calm := by
  obtain ⟨herror, hbehind⟩ := send_calm writer payload
  obtain ⟨herror', hbehind'⟩ := send_calm other payload
  rw [h] at herror hbehind
  exact ⟨herror.symm.trans herror', hbehind.symm.trans hbehind'⟩

namespace Channel

variable {channel other : Channel}

/-- The streams of two channels do the same when they are not interrupted, and all else is the same
already. -/
structure Resembles (channel other : Channel) : Prop where
  reader : channel.reader.calm = other.reader.calm
  writer : channel.writer.calm = other.writer.calm
  unit : channel.unit = other.unit
  readTimeout : channel.readTimeout = other.readTimeout
  greeting : channel.greeting = other.greeting
  isBroken : channel.isBroken = other.isBroken

namespace Resembles

/-! ### One exchange -/

theorem withReader (h : channel.Resembles other) {reader reader' : FrameReader}
    (hreader : reader.calm = reader'.calm) :
    Resembles { channel with reader } { other with reader := reader' } :=
  { h with reader := hreader }

theorem withWriter (h : channel.Resembles other) {writer writer' : FrameWriter}
    (hwriter : writer.calm = writer'.calm) :
    Resembles { channel with writer } { other with writer := writer' } :=
  { h with writer := hwriter }

theorem fail (h : channel.Resembles other) (e : FrameError) :
    (channel.fail e).1 = (other.fail e).1 ∧ (channel.fail e).2.Resembles (other.fail e).2 := by
  refine ⟨?_, { h with isBroken := rfl }⟩
  rw [Channel.fail, Channel.fail, h.readTimeout]

theorem awaitReply (h : channel.Resembles other) :
    channel.awaitReply.1 = other.awaitReply.1 ∧
      channel.awaitReply.2.Resembles other.awaitReply.2 := by
  obtain ⟨hreply, hreader⟩ := FrameReader.nextReply_of_calm_eq h.reader
  rw [Channel.awaitReply, Channel.awaitReply]
  -- The two readers get one result, so both channels take the same way on.
  generalize channel.reader.nextReply = replied at hreply hreader ⊢
  generalize other.reader.nextReply = replied' at hreply hreader ⊢
  obtain ⟨result, reader⟩ := replied
  obtain ⟨result', reader'⟩ := replied'
  obtain rfl : result = result' := hreply
  cases result with
  | ok reply => exact ⟨rfl, h.withReader hreader⟩
  | error e => exact (h.withReader hreader).fail e

theorem request (h : channel.Resembles other) (payload : Bytes) :
    (channel.request payload).1 = (other.request payload).1 ∧
      (channel.request payload).2.Resembles (other.request payload).2 := by
  rw [Channel.request, Channel.request]
  by_cases hbroken : channel.isBroken = true
  · rw [if_pos hbroken, if_pos (h.isBroken ▸ hbroken)]
    exact ⟨rfl, h⟩
  · obtain ⟨herror, hwriter⟩ := FrameWriter.send_of_calm_eq h.writer payload
    rw [if_neg hbroken, if_neg (h.isBroken ▸ hbroken)]
    generalize channel.writer.send payload = sent at herror hwriter ⊢
    generalize other.writer.send payload = sent' at herror hwriter ⊢
    obtain ⟨result, writer⟩ := sent
    obtain ⟨result', writer'⟩ := sent'
    obtain rfl : result = result' := herror
    cases result with
    | none => exact (h.withWriter hwriter).awaitReply
    | some e => exact (h.withWriter hwriter).fail e

/-- An exchange comes to the same on two channels that resemble each other, which they do behind it
too. -/
theorem run (h : channel.Resembles other) (e : Exchange) :
    (e.run channel).1 = (e.run other).1 ∧ (e.run channel).2.Resembles (e.run other).2 := by
  cases hpayload : e.payload channel.unit with
  | error cause =>
    have hpayload' : e.payload other.unit = .error cause := h.unit ▸ hpayload
    rw [Exchange.run_of_payload_eq_error hpayload, Exchange.run_of_payload_eq_error hpayload']
    exact ⟨rfl, h⟩
  | ok payload =>
    have hpayload' : e.payload other.unit = .ok payload := h.unit ▸ hpayload
    rw [Exchange.run_of_payload_eq_ok hpayload, Exchange.run_of_payload_eq_ok hpayload']
    exact h.request payload

/-! ### Rows of exchanges -/

theorem after (h : channel.Resembles other) (calls : List Exchange) :
    (channel.after calls).Resembles (other.after calls) := by
  induction calls generalizing channel other with
  | nil => exact h
  | cons e calls ih => exact ih (h.run e).2

theorem answers_eq (h : channel.Resembles other) (calls : List Exchange) :
    channel.answers calls = other.answers calls := by
  induction calls generalizing channel other with
  | nil => rfl
  | cons e calls ih =>
    obtain ⟨hanswer, hbehind⟩ := h.run e
    rw [answers, answers, hanswer, ih hbehind]

theorem written_eq (h : channel.Resembles other) : channel.written = other.written :=
  congrArg (fun writer => writer.sink.written) h.writer

end Resembles

/-- Of two channels the same can be seen: what was said first, and in every row of exchanges the
answers, the bytes written and whether the channel is broken. -/
structure Indistinguishable (channel other : Channel) : Prop where
  greeting : channel.greeting = other.greeting
  answers : ∀ calls, channel.answers calls = other.answers calls
  written : ∀ calls, (channel.after calls).written = (other.after calls).written
  isBroken : ∀ calls, (channel.after calls).isBroken = (other.after calls).isBroken

theorem Resembles.indistinguishable (h : channel.Resembles other) :
    channel.Indistinguishable other where
  greeting := h.greeting
  answers := h.answers_eq
  written calls := (h.after calls).written_eq
  isBroken calls := (h.after calls).isBroken

/-! ### From the greeting on -/

theorem resembles_ofParts (settings : ChannelSettings) {reader reader' : FrameReader}
    {writer writer' : FrameWriter} (hreader : reader.calm = reader'.calm)
    (hwriter : writer.calm = writer'.calm) :
    (ofParts settings reader writer).1 = (ofParts settings reader' writer').1 ∧
      (ofParts settings reader writer).2.Resembles (ofParts settings reader' writer').2 := by
  have hfresh : (fresh settings reader writer).Resembles (fresh settings reader' writer') :=
    ⟨hreader, hwriter, rfl, rfl, rfl, rfl⟩
  rw [ofParts, ofParts]
  by_cases hawaits : settings.awaitsGreeting = true
  · obtain ⟨hanswer, hbehind⟩ := hfresh.awaitReply
    rw [if_pos hawaits, if_pos hawaits]
    generalize (fresh settings reader writer).awaitReply = greeted at hanswer hbehind ⊢
    generalize (fresh settings reader' writer').awaitReply = greeted' at hanswer hbehind ⊢
    obtain ⟨answer, channel⟩ := greeted
    obtain ⟨answer', channel'⟩ := greeted'
    obtain rfl : answer = answer' := hanswer
    cases answer with
    | ok reply => exact ⟨rfl, { hbehind with greeting := rfl }⟩
    | error cause => exact ⟨rfl, hbehind⟩
  · rw [if_neg hawaits, if_neg hawaits]
    exact ⟨rfl, hfresh⟩

/-- Over streams that do the same when they are not interrupted, however often and wherever they
are, two channels are greeted alike and cannot be told apart afterwards. -/
theorem indistinguishable_of_calm_eq (settings : ChannelSettings) {reader reader' : FrameReader}
    {writer writer' : FrameWriter} (hreader : reader.calm = reader'.calm)
    (hwriter : writer.calm = writer'.calm) :
    (ofParts settings reader writer).1 = (ofParts settings reader' writer').1 ∧
      (ofParts settings reader writer).2.Indistinguishable
        (ofParts settings reader' writer').2 := by
  obtain ⟨hgreeted, hresembles⟩ := resembles_ofParts settings hreader hwriter
  exact ⟨hgreeted, hresembles.indistinguishable⟩

/-- Interruptions before the greeting, between the two parts of a reply, in the middle of a frame
that is taken byte by byte, and twice while it is flushed. -/
theorem indistinguishable_of_interrupted_exchange :
    ∃ interrupted undisturbed : Duplex,
      interrupted.reads =
        [.fault (.ofKind .interrupted), .bytes (Utf8.octets "FREE|0#FREE|"),
          .fault (.ofKind .interrupted), .bytes (Utf8.octets "7#")] ∧
      interrupted.writes = [.upTo 1, .fault (.ofKind .interrupted), .upTo 1] ∧
      interrupted.flushes = [some (.ofKind .interrupted), some (.ofKind .interrupted)] ∧
      undisturbed.reads = [.bytes (Utf8.octets "FREE|0#FREE|"), .bytes (Utf8.octets "7#")] ∧
      undisturbed.writes = [.upTo 1, .upTo 1] ∧ undisturbed.flushes = [] ∧
      (greeted ⟨100, none, true, .radians⟩ interrupted).2.Indistinguishable
        (greeted ⟨100, none, true, .radians⟩ undisturbed).2 ∧
      (greeted ⟨100, none, true, .radians⟩ interrupted).2.replies [.request (Utf8.octets "1|2")] =
        [.ofText "FREE|7"] := by
  let interrupted : Duplex :=
    ⟨[.fault (.ofKind .interrupted), .bytes (Utf8.octets "FREE|0#FREE|"),
      .fault (.ofKind .interrupted), .bytes (Utf8.octets "7#")],
      [.upTo 1, .fault (.ofKind .interrupted), .upTo 1],
      [some (.ofKind .interrupted), some (.ofKind .interrupted)]⟩
  let undisturbed : Duplex :=
    ⟨[.bytes (Utf8.octets "FREE|0#FREE|"), .bytes (Utf8.octets "7#")], [.upTo 1, .upTo 1], []⟩
  have hreader : (FrameReader.ofSource 100 interrupted.reads).calm =
      (FrameReader.ofSource 100 undisturbed.reads).calm := by
    rw [FrameReader.calm_ofSource, FrameReader.calm_ofSource]
    rfl
  have hwriter : FrameWriter.calm ⟨100, interrupted.sink⟩ = .calm ⟨100, undisturbed.sink⟩ := rfl
  refine ⟨interrupted, undisturbed, rfl, rfl, rfl, rfl, rfl, rfl, ?_, ?_⟩
  · exact (indistinguishable_of_calm_eq ⟨100, none, true, .radians⟩ hreader hwriter).2
  · decide +kernel

end Channel

end MotionLink
