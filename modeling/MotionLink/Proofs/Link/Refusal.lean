import MotionLink.Proofs.Link.Sent

/-!
# Requests that are refused

A request is refused before anything is written when it breaks a rule, when it is longer than a
message may be, and when a terminator would cut it in two. The stream is left untouched each time.
A request that breaks a rule leaves the whole channel as it was. The others leave it broken, though
no reply can be late.

## Main definitions

* `Exchange.Refused` — an exchange is refused before anything is written, and why
* `Channel.Refuses` — what is to be expected of a sound channel then

## Main results

* `Exchange.frame?_eq_none_iff` — the exchanges that are refused are those without a frame
* `Channel.refuses_of_refused` — only a broken rule leaves the channel as it was
-/

namespace MotionLink

/-! ### Refused exchanges -/

namespace LinkError

/-- What was asked for breaks a rule. -/
def isRule : LinkError → Bool
  | command _ => true
  | _ => false

theorem isRule_ofFrameError (limit : Option Duration) (e : FrameError) :
    (ofFrameError limit e).isRule = false := by
  cases e with
  | terminatorInPayload | payloadTooLarge | closed => rfl
  | fault f =>
    rw [ofFrameError, ofFault]
    split <;> rfl

end LinkError

namespace Exchange

variable {channel : Channel} {e : Exchange} {cause : LinkError}

/-- An exchange is refused before anything is written. -/
inductive Refused (channel : Channel) (e : Exchange) : LinkError → Prop
  | rule {cause : CommandError} (hpayload : e.payload channel.unit = .error cause) :
      Refused channel e (.command cause)
  | tooLarge {payload : Bytes} (hpayload : e.payload channel.unit = .ok payload)
      (hlength : channel.writer.limit < payload.length) :
      Refused channel e (.frame (.payloadTooLarge payload.length channel.writer.limit))
  | cutInTwo {payload : Bytes} {offset : Nat} (hpayload : e.payload channel.unit = .ok payload)
      (hlength : payload.length ≤ channel.writer.limit) (hcuts : Frame.CutsAt payload offset) :
      Refused channel e (.frame (.terminatorInPayload offset))

theorem refused_iff :
    e.Refused channel cause ↔
      (∃ rule, e.payload channel.unit = .error rule ∧ cause = .command rule) ∨
        ∃ payload refusal, e.payload channel.unit = .ok payload ∧
          channel.writer.encode payload = .error refusal ∧
          cause = .ofFrameError channel.readTimeout refusal := by
  constructor
  · rintro (hpayload | ⟨hpayload, hlength⟩ | ⟨hpayload, hlength, hcuts⟩)
    · exact .inl ⟨_, hpayload, rfl⟩
    · have hlong := FrameWriter.encode_eq_error_iff.mpr (.inl ⟨hlength, rfl⟩)
      exact .inr ⟨_, _, hpayload, hlong, rfl⟩
    · have hcut := FrameWriter.encode_eq_error_iff.mpr (.inr ⟨hlength, _, hcuts, rfl⟩)
      exact .inr ⟨_, _, hpayload, hcut, rfl⟩
  · rintro (⟨rule, hpayload, rfl⟩ | ⟨payload, refusal, hpayload, hencode, rfl⟩)
    · exact .rule hpayload
    · rcases FrameWriter.encode_eq_error_iff.mp hencode with
        ⟨hlength, rfl⟩ | ⟨hlength, offset, hcuts, rfl⟩
      · exact .tooLarge hpayload hlength
      · exact .cutInTwo hpayload hlength hcuts

/-- On a sound channel the exchanges that are refused are those without a frame. -/
theorem frame?_eq_none_iff (hsound : channel.isBroken = false) :
    e.frame? channel = none ↔ ∃ cause, e.Refused channel cause := by
  simp only [refused_iff]
  cases hpayload : e.payload channel.unit with
  | error rule =>
    exact iff_of_true (Channel.frame?_eq_none hpayload) ⟨_, .inl ⟨rule, rfl, rfl⟩⟩
  | ok payload =>
    rw [Channel.frame?_eq hpayload hsound]
    cases hencode : channel.writer.encode payload with
    | error refusal => exact iff_of_true rfl ⟨_, .inr ⟨payload, refusal, rfl, hencode, rfl⟩⟩
    | ok wire =>
      refine iff_of_false nofun ?_
      rintro ⟨cause, ⟨rule, hrule, -⟩ | ⟨other, refusal, hother, hrefusal, -⟩⟩
      · cases hrule
      · cases hother
        cases hencode.symm.trans hrefusal

/-- The stream is left untouched by an exchange that is refused. -/
theorem Refused.run_eq (h : e.Refused channel cause) (hsound : channel.isBroken = false) :
    e.run channel = (.error cause, { channel with isBroken := !cause.isRule }) := by
  rcases refused_iff.mp h with ⟨rule, hpayload, rfl⟩ | ⟨payload, refusal, hpayload, hencode, rfl⟩
  · rw [run_of_payload_eq_error hpayload]
    change _ = (_, { channel with isBroken := false })
    rw [← hsound]
  · -- The writer stays as it is, but its error is taken for one of the stream.
    rw [run_of_payload_eq_ok hpayload, Channel.request, hsound, if_neg Bool.false_ne_true,
      FrameWriter.send_of_encode_eq_error hencode, LinkError.isRule_ofFrameError]
    rfl

end Exchange

/-! ### What follows a refusal -/

namespace Channel

variable {channel : Channel} {e : Exchange} {cause : LinkError}

/-- What is to be expected of a channel when an exchange is refused before anything is written. -/
structure Refuses (channel : Channel) (e : Exchange) (cause : LinkError) : Prop where
  answer : (e.run channel).1 = .error cause
  /-- nothing is read or written, and nothing but the mark of a broken channel changes -/
  behind : (e.run channel).2 = { channel with isBroken := !cause.isRule }
  /-- behind a broken rule all is as if nothing had been asked for -/
  stays : cause.isRule = true → ∀ calls, (e.run channel).2.answers calls = channel.answers calls
  /-- behind any other refusal everything is refused -/
  breaks : cause.isRule = false →
    ∀ calls, (e.run channel).2.answers calls = calls.map (refusal channel.unit)

/-- A sound channel that refuses an exchange before anything is written has touched nothing, and is
as it was only if a rule was broken. -/
theorem refuses_of_refused (hsound : channel.isBroken = false) (h : e.Refused channel cause) :
    channel.Refuses e cause := by
  have hrun := h.run_eq hsound
  constructor
  case answer => rw [hrun]
  case behind => rw [hrun]
  case stays =>
    intro hrule calls
    rw [hrun, hrule]
    change answers { channel with isBroken := false } calls = _
    rw [← hsound]
  case breaks =>
    intro hrule calls
    rw [hrun, hrule]
    exact answers_of_isBroken rfl calls

/-- A terminator stands inside the payload. -/
theorem refuses_of_terminator_inside :
    let channel := opened ⟨100, none, false, .radians⟩ 100 100
      ⟨[.bytes (Utf8.octets "FREE|1#")], [], []⟩
    let e := Exchange.request (Utf8.octets "a#b")
    channel.isBroken = false ∧ e.Refused channel (.frame (.terminatorInPayload 1)) ∧
      channel.Refuses e (.frame (.terminatorInPayload 1)) := by
  intro channel e
  have hrefused : e.Refused channel (.frame (.terminatorInPayload 1)) :=
    .cutInTwo rfl (by decide) ⟨rfl, by decide, by decide⟩
  exact ⟨rfl, hrefused, refuses_of_refused rfl hrefused⟩

/-- No byte was sent, so the next request could still be told from the one before; it is refused
all the same. -/
theorem breaks_without_a_byte :
    let channel := opened ⟨100, none, false, .radians⟩ 100 100
      ⟨[.bytes (Utf8.octets "FREE|1#")], [], []⟩
    let refused := Exchange.request (Utf8.octets "a#b")
    let next := Exchange.request (Utf8.octets "ping")
    channel.isBroken = false ∧ refused.Refused channel (.frame (.terminatorInPayload 1)) ∧
      (refused.run channel).2.written = channel.written ∧
      (refused.run channel).2.isBroken = true ∧
      (refused.run channel).2.answers [next] = [.error .broken] ∧
      channel.replies [next] = [.ofText "FREE|1"] := by
  intro channel refused next
  have hrefused : refused.Refused channel (.frame (.terminatorInPayload 1)) :=
    .cutInTwo rfl (by decide) ⟨rfl, by decide, by decide⟩
  exact ⟨rfl, hrefused, rfl, rfl, rfl, by decide +kernel⟩

end Channel

end MotionLink
