import MotionLink.Link.Channel

/-!
# Rows of exchanges

What one exchange can come to is said once; what holds along a row of exchanges follows from it.

## Main definitions

* `Exchange.payload` — what an exchange asks to be sent
* `Exchange.Outcome` — the five ways in which an exchange can end
* `Channel.after`, `Channel.answers`, `Channel.replies` — a row of exchanges

## Main results

* `Exchange.outcome_run` — every exchange ends in one of the five ways
-/

namespace MotionLink

/-- What an exchange asks to be sent, or why there is no such payload. -/
def Exchange.payload (unit : AngleUnit) : Exchange → Except CommandError Bytes
  | send intent => (intent.encode unit).map Utf8.octets
  | request payload => .ok payload

/-- The ways in which an exchange can end: with an answer and the channel as it is left. -/
inductive Exchange.Outcome (channel : Channel) (e : Exchange) : Channel.Answer → Channel → Prop
  /-- a rule is broken, and the stream is not touched -/
  | refused {cause : CommandError} (hpayload : e.payload channel.unit = .error cause) :
      Outcome channel e (.error (.command cause)) channel
  /-- an earlier exchange failed, and the stream is not touched -/
  | broken {payload : Bytes} (hpayload : e.payload channel.unit = .ok payload)
      (hbroken : channel.isBroken = true) : Outcome channel e (.error .broken) channel
  /-- not sent, or not whole -/
  | unsent {payload : Bytes} {cause : FrameError} {writer : FrameWriter}
      (hpayload : e.payload channel.unit = .ok payload) (hbroken : channel.isBroken = false)
      (hsend : channel.writer.send payload = (some cause, writer)) :
      Outcome channel e (.error (.ofFrameError channel.readTimeout cause))
        { channel with writer, isBroken := true }
  /-- sent, without a reply -/
  | unanswered {payload : Bytes} {cause : FrameError} {writer : FrameWriter} {reader : FrameReader}
      (hpayload : e.payload channel.unit = .ok payload) (hbroken : channel.isBroken = false)
      (hsend : channel.writer.send payload = (none, writer))
      (hreply : channel.reader.nextReply = (.error cause, reader)) :
      Outcome channel e (.error (.ofFrameError channel.readTimeout cause))
        { channel with writer, reader, isBroken := true }
  /-- sent and replied to -/
  | answered {payload : Bytes} {reply : Reply} {writer : FrameWriter} {reader : FrameReader}
      (hpayload : e.payload channel.unit = .ok payload) (hbroken : channel.isBroken = false)
      (hsend : channel.writer.send payload = (none, writer))
      (hreply : channel.reader.nextReply = (.ok reply, reader)) :
      Outcome channel e (.ok reply) { channel with writer, reader }

namespace Exchange

variable {channel : Channel} {e : Exchange} {payload : Bytes} {cause : CommandError}

theorem run_of_payload_eq_error (h : e.payload channel.unit = .error cause) :
    e.run channel = (.error (.command cause), channel) := by
  cases e with
  | send intent =>
    rw [run, Channel.send]
    rw [Exchange.payload] at h
    cases hencode : intent.encode channel.unit with
    | error e =>
      rw [hencode] at h
      cases h
      rfl
    | ok text =>
      rw [hencode] at h
      cases h
  | request payload => cases h

theorem run_of_payload_eq_ok (h : e.payload channel.unit = .ok payload) :
    e.run channel = channel.request payload := by
  cases e with
  | send intent =>
    rw [run, Channel.send]
    rw [Exchange.payload] at h
    cases hencode : intent.encode channel.unit with
    | error e =>
      rw [hencode] at h
      cases h
    | ok text =>
      rw [hencode] at h
      cases h
      rfl
  | request payload =>
    cases h
    rfl

/-- Every exchange ends in one of the five ways. -/
theorem outcome_run (channel : Channel) (e : Exchange) :
    Outcome channel e (e.run channel).1 (e.run channel).2 := by
  cases hpayload : e.payload channel.unit with
  | error cause =>
    rw [run_of_payload_eq_error hpayload]
    exact .refused hpayload
  | ok payload =>
    rw [run_of_payload_eq_ok hpayload, Channel.request]
    by_cases hbroken : channel.isBroken = true
    · rw [if_pos hbroken]
      exact .broken hpayload hbroken
    · rw [if_neg hbroken]
      have hsound : channel.isBroken = false := by simpa using hbroken
      rcases hsend : channel.writer.send payload with ⟨_ | cause, writer⟩
      · change Outcome channel e (Channel.awaitReply { channel with writer }).1
          (Channel.awaitReply { channel with writer }).2
        rw [Channel.awaitReply]
        rcases hreply : channel.reader.nextReply with ⟨cause | reply, reader⟩
        · exact .unanswered hpayload hsound hsend hreply
        · exact .answered hpayload hsound hsend hreply
      · exact .unsent hpayload hsound hsend

theorem outcome_of_run {answer : Channel.Answer} {behind : Channel}
    (h : e.run channel = (answer, behind)) : Outcome channel e answer behind := by
  have houtcome := outcome_run channel e
  rwa [h] at houtcome

end Exchange

namespace Channel

/-- The channel after a row of exchanges. -/
def after (channel : Channel) : List Exchange → Channel
  | [] => channel
  | e :: calls => (e.run channel).2.after calls

/-- What the exchanges of a row come to, in order. -/
def answers (channel : Channel) : List Exchange → List Answer
  | [] => []
  | e :: calls => (e.run channel).1 :: (e.run channel).2.answers calls

/-- The replies to those exchanges of a row that succeed, in order. -/
def replies (channel : Channel) (calls : List Exchange) : List Reply :=
  (channel.answers calls).filterMap Except.toOption

variable {channel : Channel}

theorem after_append (channel : Channel) (calls more : List Exchange) :
    channel.after (calls ++ more) = (channel.after calls).after more := by
  induction calls generalizing channel with
  | nil => rfl
  | cons e calls ih => exact ih (e.run channel).2

theorem replies_cons (channel : Channel) (e : Exchange) (calls : List Exchange) :
    channel.replies (e :: calls) =
      (e.run channel).1.toOption.toList ++ (e.run channel).2.replies calls := by
  rw [replies, answers, List.filterMap_cons]
  cases (e.run channel).1 with
  | error cause => rfl
  | ok reply => rfl

/-! ### Broken channels -/

/-- The answer of a broken channel, which depends on nothing but what is asked for. -/
def refusal (unit : AngleUnit) (e : Exchange) : Answer :=
  match e.payload unit with
  | .error cause => .error (.command cause)
  | .ok _ => .error .broken

theorem run_of_isBroken (h : channel.isBroken = true) (e : Exchange) :
    e.run channel = (refusal channel.unit e, channel) := by
  rw [refusal]
  cases hpayload : e.payload channel.unit with
  | error cause => exact Exchange.run_of_payload_eq_error hpayload
  | ok payload => rw [Exchange.run_of_payload_eq_ok hpayload, request, if_pos h]

/-- A broken channel stays as it is. -/
theorem after_of_isBroken (h : channel.isBroken = true) (calls : List Exchange) :
    channel.after calls = channel := by
  induction calls with
  | nil => rfl
  | cons e calls ih => rw [after, run_of_isBroken h e, ih]

theorem answers_of_isBroken (h : channel.isBroken = true) (calls : List Exchange) :
    channel.answers calls = calls.map (refusal channel.unit) := by
  induction calls with
  | nil => rfl
  | cons e calls ih => rw [answers, run_of_isBroken h e, ih, List.map_cons]

theorem replies_of_isBroken (h : channel.isBroken = true) (calls : List Exchange) :
    channel.replies calls = [] := by
  rw [replies, answers_of_isBroken h, List.filterMap_eq_nil_iff]
  intro answer hanswer
  obtain ⟨e, -, rfl⟩ := List.mem_map.mp hanswer
  rw [refusal]
  split <;> rfl

end Channel

end MotionLink
