import MotionLink.Proofs.Link.Exchange
import MotionLink.Proofs.Wire.Writing

/-!
# What the controller gets to see

Frames follow each other on the stream without a gap, and only the last one may be cut short, since
an exchange that could not send its frame whole is the last one that writes. Once an exchange has
failed on the stream nothing is read or written any more.

## Main definitions

* `IsCut` — frames one behind the other, the last of them perhaps cut short
* `Exchange.frame?`, `Channel.frames` — the frames that exchanges have to get across
* `Channel.HasSent` — what is written belongs to given frames, and all of them on a sound channel
* `Channel.KeepsFrames` — what is to be expected of a channel after a row of exchanges

## Main results

* `Channel.HasSent.run`, `Channel.HasSent.after` — an exchange, and a row of them, keep it that way
* `Channel.keepsFrames` — what is written at every moment, and what follows a failure
-/

namespace MotionLink

/-! ### Frames one behind the other -/

/-- The bytes are those of the frames one behind the other, the last of them perhaps cut short. -/
def IsCut (frames : List Bytes) (bytes : Bytes) : Prop :=
  frames.dropLast.flatten <+: bytes ∧ bytes <+: frames.flatten

theorem isCut_flatten (frames : List Bytes) : IsCut frames frames.flatten := by
  refine ⟨?_, List.prefix_refl _⟩
  rcases List.eq_nil_or_concat frames with rfl | ⟨whole, last, rfl⟩
  · exact List.prefix_refl _
  · rw [List.concat_eq_append, List.dropLast_concat, List.flatten_append]
    exact List.prefix_append _ _

/-- Any part of one more frame may be there. -/
theorem isCut_append {frames : List Bytes} {wire bytes : Bytes} (hwhole : frames.flatten <+: bytes)
    (hcut : bytes <+: frames.flatten ++ wire) : IsCut (frames ++ [wire]) bytes := by
  refine ⟨?_, ?_⟩
  · rwa [List.dropLast_concat]
  · rwa [List.flatten_append, List.flatten_singleton]

/-- The frame that an exchange has to get across: that of a request on a sound channel that passes
every check, of the request and of the frame. -/
def Exchange.frame? (channel : Channel) (e : Exchange) : Option Bytes :=
  if channel.isBroken then none
  else
    match e.payload channel.unit with
    | .error _ => none
    | .ok payload => (channel.writer.encode payload).toOption

namespace Channel

variable {channel : Channel} {e : Exchange} {sent : List Bytes}

/-- The frames that a row of exchanges has to get across, in order. -/
def frames (channel : Channel) : List Exchange → List Bytes
  | [] => []
  | e :: calls => (e.frame? channel).toList ++ (e.run channel).2.frames calls

theorem frames_append (channel : Channel) (calls more : List Exchange) :
    channel.frames (calls ++ more) = channel.frames calls ++ (channel.after calls).frames more := by
  induction calls generalizing channel with
  | nil => rfl
  | cons e calls ih => rw [List.cons_append, frames, ih, frames, after, List.append_assoc]

/-- What is written belongs to the frames, and all of them are on a sound channel. -/
structure HasSent (channel : Channel) (sent : List Bytes) : Prop where
  isCut : IsCut sent channel.written
  isWhole : channel.isBroken = false → channel.written = sent.flatten

/-! ### One exchange -/

theorem frame?_eq {payload : Bytes} (hpayload : e.payload channel.unit = .ok payload)
    (hbroken : channel.isBroken = false) :
    e.frame? channel = (channel.writer.encode payload).toOption := by
  rw [Exchange.frame?, hbroken, if_neg Bool.false_ne_true, hpayload]

theorem frame?_eq_none {cause : CommandError} (hpayload : e.payload channel.unit = .error cause) :
    e.frame? channel = none := by
  rw [Exchange.frame?, hpayload]
  exact ite_self none

/-- A writer takes a prefix of the frame to get across, or reports an error. -/
theorem exists_prefix_of_send {payload : Bytes} {result : Option FrameError} {writer : FrameWriter}
    (hpayload : e.payload channel.unit = .ok payload) (hbroken : channel.isBroken = false)
    (hsend : channel.writer.send payload = (result, writer)) :
    ∃ cut, writer.sink.written = channel.written ++ cut ∧
      cut <+: (e.frame? channel).toList.flatten ∧
      (result = none → cut = (e.frame? channel).toList.flatten) := by
  rw [frame?_eq hpayload hbroken]
  cases henc : channel.writer.encode payload with
  | error cause =>
    rw [FrameWriter.send_of_encode_eq_error henc] at hsend
    obtain ⟨rfl, rfl⟩ := Prod.mk.inj hsend
    exact ⟨[], (List.append_nil _).symm, List.nil_prefix, nofun⟩
  | ok wire =>
    obtain ⟨cut, hcut, hwritten, hwhole⟩ := FrameWriter.exists_prefix_of_send henc hsend
    have hflatten : (Except.ok wire : Except FrameError Bytes).toOption.toList.flatten = wire :=
      List.append_nil wire
    rw [hflatten]
    exact ⟨cut, hwritten, hcut, hwhole⟩

/-- An exchange writes a prefix of its frame, and all of it unless the channel is broken then. -/
theorem exists_prefix_of_run (channel : Channel) (e : Exchange) :
    ∃ cut, (e.run channel).2.written = channel.written ++ cut ∧
      cut <+: (e.frame? channel).toList.flatten ∧
      ((e.run channel).2.isBroken = false → cut = (e.frame? channel).toList.flatten) := by
  rcases hrun : e.run channel with ⟨answer, behind⟩
  cases Exchange.outcome_of_run hrun with
  | refused hpayload =>
    rw [frame?_eq_none hpayload]
    exact ⟨[], (List.append_nil _).symm, List.nil_prefix, fun _ => rfl⟩
  | broken hpayload hbroken =>
    rw [Exchange.frame?, if_pos hbroken]
    exact ⟨[], (List.append_nil _).symm, List.nil_prefix, fun _ => rfl⟩
  | unsent hpayload hbroken hsend =>
    obtain ⟨cut, hwritten, hcut, -⟩ := exists_prefix_of_send hpayload hbroken hsend
    exact ⟨cut, hwritten, hcut, nofun⟩
  | unanswered hpayload hbroken hsend hreply =>
    obtain ⟨cut, hwritten, hcut, -⟩ := exists_prefix_of_send hpayload hbroken hsend
    exact ⟨cut, hwritten, hcut, nofun⟩
  | answered hpayload hbroken hsend hreply =>
    obtain ⟨cut, hwritten, hcut, hwhole⟩ := exists_prefix_of_send hpayload hbroken hsend
    exact ⟨cut, hwritten, hcut, fun _ => hwhole rfl⟩

/-- At every moment of an exchange what is written belongs to the frames with its own behind
them. -/
theorem HasSent.isCut_of_moment (h : channel.HasSent sent) {moment : Bytes}
    (hbefore : channel.written <+: moment) (hbehind : moment <+: (e.run channel).2.written) :
    IsCut (sent ++ (e.frame? channel).toList) moment := by
  by_cases hbroken : channel.isBroken = true
  · -- Nothing is written on a broken channel, and the exchange has no frame to get across.
    rw [run_of_isBroken hbroken] at hbehind
    have hmoment : channel.written = moment :=
      hbefore.eq_of_length_le hbehind.length_le
    rw [Exchange.frame?, if_pos hbroken, ← hmoment]
    simpa using h.isCut
  · -- On a sound channel all frames before are there, so what is cut short belongs to this one.
    have hwritten : channel.written = sent.flatten := h.isWhole (by simpa using hbroken)
    obtain ⟨cut, hrun, hcut, -⟩ := exists_prefix_of_run channel e
    rw [hrun] at hbehind
    cases hframe : e.frame? channel with
    | none =>
      rw [hframe] at hcut
      have hnil : cut = [] := List.prefix_nil.mp hcut
      rw [hnil, List.append_nil] at hbehind
      have hmoment : channel.written = moment := hbefore.eq_of_length_le hbehind.length_le
      rw [← hmoment, hwritten]
      simpa using isCut_flatten sent
    | some wire =>
      rw [hframe] at hcut
      have hcut : cut <+: wire := by simpa using hcut
      refine isCut_append (hwritten ▸ hbefore) (hbehind.trans ?_)
      rw [hwritten]
      exact (List.prefix_append_right_inj _).mpr hcut

/-- An exchange adds its frame to those that are written. -/
theorem HasSent.run (h : channel.HasSent sent) (e : Exchange) :
    (e.run channel).2.HasSent (sent ++ (e.frame? channel).toList) := by
  obtain ⟨cut, hrun, -, hwhole⟩ := exists_prefix_of_run channel e
  refine ⟨h.isCut_of_moment ⟨cut, hrun.symm⟩ (List.prefix_refl _), fun hsound => ?_⟩
  have hbroken : channel.isBroken = false := by
    by_cases hbroken : channel.isBroken = true
    · rwa [run_of_isBroken hbroken] at hsound
    · simpa using hbroken
  rw [hrun, h.isWhole hbroken, hwhole hsound, List.flatten_append]

/-! ### Rows of exchanges -/

theorem unit_after (channel : Channel) (calls : List Exchange) :
    (channel.after calls).unit = channel.unit := by
  induction calls generalizing channel with
  | nil => rfl
  | cons e calls ih =>
    have hunit : (e.run channel).2.unit = channel.unit := by
      rcases hrun : e.run channel with ⟨answer, behind⟩
      cases Exchange.outcome_of_run hrun <;> rfl
    rw [after, ih, hunit]

theorem HasSent.after (h : channel.HasSent sent) (calls : List Exchange) :
    (channel.after calls).HasSent (sent ++ channel.frames calls) := by
  induction calls generalizing channel sent with
  | nil => simpa [Channel.after, Channel.frames] using h
  | cons e calls ih =>
    rw [Channel.frames, ← List.append_assoc]
    exact ih (h.run e)

/-- The channel over a stream, whether or not a greeting was heard. -/
def opened (settings : ChannelSettings) (readLimit writeLimit : Nat) (stream : Duplex) : Channel :=
  (ofParts settings (.ofSource readLimit stream.reads) ⟨writeLimit, stream.sink⟩).2

/-- Waiting for the greeting writes nothing. -/
theorem written_opened (settings : ChannelSettings) (readLimit writeLimit : Nat)
    (stream : Duplex) : (opened settings readLimit writeLimit stream).written = [] := by
  rw [opened, ofParts]
  split
  · rw [awaitReply]
    rcases (fresh settings (.ofSource readLimit stream.reads)
      ⟨writeLimit, stream.sink⟩).reader.nextReply with ⟨cause | reply, reader⟩
    · rfl
    · rfl
  · rfl

theorem hasSent_opened (settings : ChannelSettings) (readLimit writeLimit : Nat)
    (stream : Duplex) : (opened settings readLimit writeLimit stream).HasSent [] := by
  have hwritten := written_opened settings readLimit writeLimit stream
  refine ⟨?_, fun _ => hwritten⟩
  rw [hwritten]
  exact isCut_flatten []

/-- An exchange that fails without breaking a rule leaves the channel broken. -/
theorem isBroken_of_run_eq_error {cause : LinkError} (h : (e.run channel).1 = .error cause)
    (hcause : ∀ rule, cause ≠ .command rule) : (e.run channel).2.isBroken = true := by
  rcases hrun : e.run channel with ⟨answer, behind⟩
  rw [hrun] at h
  obtain rfl : answer = .error cause := h
  cases Exchange.outcome_of_run hrun with
  | refused hpayload => exact absurd rfl (hcause _)
  | broken hpayload hbroken => exact hbroken
  | unsent hpayload hbroken hsend => rfl
  | unanswered hpayload hbroken hsend hreply => rfl

/-- What is to be expected of a channel after a row of exchanges, and during one more. -/
structure KeepsFrames (start : Channel) (calls : List Exchange) : Prop where
  /-- all frames are written while nothing has failed -/
  whole : (start.after calls).isBroken = false →
    (start.after calls).written = (start.frames calls).flatten
  /-- at every moment of one more exchange only the last frame may be cut short -/
  moment : ∀ (e : Exchange) (moment : Bytes), (start.after calls).written <+: moment →
    moment <+: (start.after (calls ++ [e])).written → IsCut (start.frames (calls ++ [e])) moment
  /-- an exchange that fails without breaking a rule leaves the channel broken -/
  breaks : ∀ (e : Exchange) (cause : LinkError),
    (e.run (start.after calls)).1 = .error cause → (∀ rule, cause ≠ .command rule) →
    (start.after (calls ++ [e])).isBroken = true
  /-- a broken channel stays as it is, with all that is left to be read and written -/
  stays : (start.after calls).isBroken = true →
    ∀ more, start.after (calls ++ more) = start.after calls
  /-- a broken channel refuses whatever it is asked for -/
  refuses : (start.after calls).isBroken = true →
    ∀ more, (start.after calls).answers more = more.map (refusal start.unit)

/-- Over any stream, and whatever it is asked for, a channel keeps its frames apart. -/
theorem keepsFrames (settings : ChannelSettings) (readLimit writeLimit : Nat) (stream : Duplex)
    (calls : List Exchange) : (opened settings readLimit writeLimit stream).KeepsFrames calls := by
  have hempty := hasSent_opened settings readLimit writeLimit stream
  generalize opened settings readLimit writeLimit stream = start at hempty ⊢
  have hsent : (start.after calls).HasSent (start.frames calls) := hempty.after calls
  constructor
  case whole => exact hsent.isWhole
  case moment =>
    intro e moment hbefore hbehind
    rw [after_append] at hbehind
    rw [frames_append, frames, frames, List.append_nil]
    exact hsent.isCut_of_moment hbefore hbehind
  case breaks =>
    intro e cause herror hcause
    rw [after_append]
    exact isBroken_of_run_eq_error herror hcause
  case stays =>
    intro hbroken more
    rw [after_append, after_of_isBroken hbroken]
  case refuses =>
    intro hbroken more
    rw [answers_of_isBroken hbroken, unit_after]

/-- A stream that takes two bytes of the first frame and then fails. -/
theorem keepsFrames_of_cut_frame :
    (opened ⟨100, none, false, .radians⟩ 100 100
        ⟨[], [.upTo 2, .fault (.ofKind .timedOut)], []⟩).KeepsFrames
      [.request (Utf8.octets "1|2"), .request (Utf8.octets "3|4")] ∧
    ((opened ⟨100, none, false, .radians⟩ 100 100
        ⟨[], [.upTo 2, .fault (.ofKind .timedOut)], []⟩).after
      [.request (Utf8.octets "1|2"), .request (Utf8.octets "3|4")]).written =
        Utf8.octets "1|" :=
  ⟨keepsFrames _ _ _ _ _, by decide +kernel⟩

end Channel

end MotionLink
