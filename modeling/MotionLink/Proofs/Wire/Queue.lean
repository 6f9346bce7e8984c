import Mathlib.Data.List.Forall2
import MotionLink.Proofs.Wire.Terminators

/-!
# One buffer for frames that come and go

Frames may be written to the buffer that others are read from, and raw bytes may come between them.
Whatever is done, and in whatever order, the frames taken off the front of the buffer and the bytes
left in it are what was put in, and what is refused changes nothing. While no raw bytes are put in,
the buffer is a queue of frames: each payload that was accepted comes out in its turn, without its
terminator.

## Main definitions

* `Frame.ofPayload?` — the frame that a payload makes
* `BufferStep.brought`, `BufferStep.made` — the bytes and the frames that an operation puts in
* `BufferStep.runAll` — operations one behind the other
* `BufferAnswer.isIdle` — nothing came of an operation
* `BufferAnswer.ofFront` — what is answered when a frame is to be taken off a queue
* `BufferStep.KeepsOrder` — what is to be expected of a buffer behind some operations

## Main results

* `BufferStep.flatMap_toWire_frames_run` — no byte is lost or put elsewhere by an operation
* `BufferStep.flatMap_toWire_taken` — nor by many
* `BufferStep.exists_queue_run`, `BufferStep.exists_queue` — a queue of frames stays one
* `BufferStep.runAll_decode` — frames are taken off a queue in their order
* `BufferStep.keepsOrder` — every buffer keeps the order
-/

namespace MotionLink

/-! ### Payloads and their frames -/

namespace Frame

variable {limit : Nat} {payload rest : Bytes} {frame : Frame}

/-- The frame that a payload makes: what stands before the terminator at its end. A payload that is
cut in two makes none. -/
def ofPayload? (payload : Bytes) : Option Frame :=
  if terminator ∈ payload.dropLast then none else some ⟨(terminated payload).dropLast⟩

theorem dropLast_terminated (payload : Bytes) : (terminated payload).dropLast = body payload := by
  rw [← body_append_terminator, List.dropLast_concat]

theorem toWire_dropLast_terminated (payload : Bytes) :
    toWire ⟨(terminated payload).dropLast⟩ = terminated payload := by
  rw [dropLast_terminated]
  exact body_append_terminator payload

theorem encode_of_ofPayload? (h : ofPayload? payload = some frame) :
    encode payload = .ok frame.toWire := by
  rw [ofPayload?] at h
  split at h
  · cases h
  · rename_i hwhole
    obtain rfl := Option.some.inj h
    rw [encode_eq_terminated hwhole, toWire_dropLast_terminated]

theorem exists_encode_eq_error (h : ofPayload? payload = none) :
    ∃ e, encode payload = .error e := by
  rw [ofPayload?] at h
  split at h
  · rename_i hcut
    obtain ⟨offset, hoffset⟩ := exists_cutsAt_iff.mpr hcut
    exact ⟨_, encode_eq_error_iff.mpr ⟨offset, hoffset, rfl⟩⟩
  · cases h

/-- No terminator is left in the frame that a payload makes. -/
theorem terminator_not_mem_of_ofPayload? (h : ofPayload? payload = some frame) :
    terminator ∉ frame.payload := by
  rw [ofPayload?] at h
  split at h
  · cases h
  · rename_i hwhole
    obtain rfl := Option.some.inj h
    rw [dropLast_terminated]
    exact terminator_not_mem_body hwhole

theorem decode_toWire (hplain : terminator ∉ frame.payload)
    (hlimit : frame.payload.length ≤ limit) :
    decode limit (frame.toWire ++ rest) = .ok (some (frame, rest)) := by
  rw [toWire, List.append_assoc]
  exact decode_append hplain hlimit

theorem decode_toWire_of_lt (hplain : terminator ∉ frame.payload)
    (hlimit : limit < frame.payload.length) :
    decode limit (frame.toWire ++ rest) =
      .error (.payloadTooLarge frame.payload.length limit) := by
  rw [toWire, List.append_assoc, List.singleton_append]
  simp only [decode, takeWhile_append_terminator hplain, if_pos hlimit]

end Frame

/-! ### One operation -/

namespace BufferAnswer

/-- The frame that an operation took off, if it did. -/
def frames : BufferAnswer → List Frame
  | frame f => [f]
  | done | incomplete | refused _ => []

/-- Nothing came of an operation: it was refused, or no frame is complete yet. -/
def isIdle : BufferAnswer → Bool
  | incomplete | refused _ => true
  | done | frame _ => false

/-- What is answered when a frame is to be taken off a queue of frames. -/
def ofFront (limit : Nat) : List Frame → BufferAnswer
  | [] => incomplete
  | f :: _ =>
    if f.payload.length ≤ limit then frame f
    else refused (.payloadTooLarge f.payload.length limit)

end BufferAnswer

namespace BufferStep

/-- The frame that an operation puts in, if it does. -/
def made : BufferStep → List Frame
  | encode payload => (Frame.ofPayload? payload).toList
  | append _ | decode _ => []

/-- The bytes that an operation puts in: raw ones, or a payload with one terminator at its end. -/
def brought : BufferStep → Bytes
  | append bytes => bytes
  | encode payload =>
    if Frame.terminator ∈ payload.dropLast then [] else Frame.terminated payload
  | decode _ => []

variable {limit : Nat} {buffer payload : Bytes} {frame : Frame} {queue : List Frame}
  {step : BufferStep} {steps : List BufferStep}

/-- What is put in for a payload is the wire form of its frame. -/
theorem brought_encode (payload : Bytes) :
    (encode payload).brought = (encode payload).made.flatMap Frame.toWire := by
  rw [brought, made, Frame.ofPayload?]
  split
  · rfl
  · rw [Option.toList_some, List.flatMap_singleton, Frame.toWire_dropLast_terminated]

theorem brought_eq (hraw : ∀ bytes, step ≠ append bytes) :
    step.brought = step.made.flatMap Frame.toWire := by
  cases step with
  | append bytes => exact absurd rfl (hraw bytes)
  | encode payload => exact brought_encode payload
  | decode limit => rfl

theorem run_encode_of_ofPayload? (h : Frame.ofPayload? payload = some frame) (buffer : Bytes) :
    (encode payload).run buffer = (.done, buffer ++ frame.toWire) := by
  rw [run, Frame.encode_of_ofPayload? h]

theorem exists_run_encode_eq_refused (h : Frame.ofPayload? payload = none) (buffer : Bytes) :
    ∃ e, (encode payload).run buffer = (.refused e, buffer) := by
  obtain ⟨e, he⟩ := Frame.exists_encode_eq_error h
  exact ⟨e, by rw [run, he]⟩

/-- A payload is accepted unless a terminator cuts it in two. -/
theorem run_encode_eq_done_iff (payload buffer : Bytes) :
    ((encode payload).run buffer).1 = .done ↔ Frame.terminator ∉ payload.dropLast := by
  by_cases hcut : Frame.terminator ∈ payload.dropLast
  · have hnone : Frame.ofPayload? payload = none := if_pos hcut
    obtain ⟨e, he⟩ := exists_run_encode_eq_refused hnone buffer
    rw [he]
    exact iff_of_false nofun (not_not.mpr hcut)
  · have hsome : Frame.ofPayload? payload = some ⟨(Frame.terminated payload).dropLast⟩ :=
      if_neg hcut
    rw [run_encode_of_ofPayload? hsome]
    exact iff_of_true rfl hcut

/-- What is refused, or finds no frame, changes nothing. -/
theorem run_of_isIdle (h : (step.run buffer).1.isIdle = true) : (step.run buffer).2 = buffer := by
  cases step with
  | append bytes => cases h
  | encode payload =>
    cases hmade : Frame.ofPayload? payload with
    | none =>
      obtain ⟨e, he⟩ := exists_run_encode_eq_refused hmade buffer
      rw [he]
    | some frame =>
      rw [run_encode_of_ofPayload? hmade] at h
      cases h
  | decode limit =>
    rw [run] at h ⊢
    split
    · rename_i frame rest hfound
      rw [hfound] at h
      cases h
    · rfl
    · rfl

/-- The frame that an operation takes off and the bytes behind it are those before it and those that
it puts in. -/
theorem flatMap_toWire_frames_run (step : BufferStep) (buffer : Bytes) :
    (step.run buffer).1.frames.flatMap Frame.toWire ++ (step.run buffer).2 =
      buffer ++ step.brought := by
  cases step with
  | append bytes => rfl
  | encode payload =>
    rw [brought_encode]
    cases hmade : Frame.ofPayload? payload with
    | none =>
      obtain ⟨e, he⟩ := exists_run_encode_eq_refused hmade buffer
      simp [he, made, hmade, BufferAnswer.frames]
    | some frame => simp [run_encode_of_ofPayload? hmade, made, hmade, BufferAnswer.frames]
  | decode limit =>
    rw [run, brought, List.append_nil]
    split
    · rename_i frame rest hfound
      obtain ⟨-, hbuffer⟩ := Frame.eq_append_of_decode hfound
      simp [BufferAnswer.frames, Frame.toWire, hbuffer]
    · rfl
    · rfl

/-! ### One operation on a queue of frames -/

/-- The frames of a queue can be told apart: none of them holds a terminator. -/
def ArePlain (queue : List Frame) : Prop := ∀ frame ∈ queue, Frame.terminator ∉ frame.payload

theorem arePlain_made (step : BufferStep) : ArePlain step.made := by
  intro frame hframe
  cases step with
  | encode payload =>
    exact Frame.terminator_not_mem_of_ofPayload? (Option.mem_toList.mp hframe)
  | append _ | decode _ => cases hframe

/-- A frame is taken off a queue if the front one is within the limit. -/
theorem run_decode_queue (hplain : ArePlain queue) (limit : Nat) :
    ((decode limit).run (queue.flatMap Frame.toWire)).1 = .ofFront limit queue := by
  cases queue with
  | nil =>
    have hnone : Frame.decode limit [] = .ok none :=
      Frame.decode_eq_none List.not_mem_nil (Nat.zero_le limit)
    rw [List.flatMap_nil, run, hnone]
    rfl
  | cons frame queue =>
    have hfront := hplain frame List.mem_cons_self
    rw [List.flatMap_cons, run, BufferAnswer.ofFront]
    by_cases hlimit : frame.payload.length ≤ limit
    · rw [Frame.decode_toWire hfront hlimit, if_pos hlimit]
    · rw [Frame.decode_toWire_of_lt hfront (Nat.lt_of_not_le hlimit), if_neg hlimit]

/-- What a queue gives comes off its front. -/
theorem frames_ofFront_prefix (limit : Nat) (queue : List Frame) :
    (BufferAnswer.ofFront limit queue).frames <+: queue := by
  cases queue with
  | nil => exact List.prefix_refl []
  | cons frame queue =>
    rw [BufferAnswer.ofFront]
    split
    · exact List.prefix_append [frame] queue
    · exact List.nil_prefix

theorem frames_run_encode (payload buffer : Bytes) :
    ((encode payload).run buffer).1.frames = [] := by
  rw [run]
  split <;> rfl

/-- A queue of frames stays one: what it gives comes off its front, and what is put in goes behind
it. -/
theorem exists_queue_run (hplain : ArePlain queue) (hraw : ∀ bytes, step ≠ append bytes) :
    ∃ left, ArePlain left ∧
      (step.run (queue.flatMap Frame.toWire)).2 = left.flatMap Frame.toWire ∧
      queue ++ step.made = (step.run (queue.flatMap Frame.toWire)).1.frames ++ left := by
  have hsplit : ∃ left,
      queue ++ step.made = (step.run (queue.flatMap Frame.toWire)).1.frames ++ left := by
    cases step with
    | append bytes => exact absurd rfl (hraw bytes)
    | encode payload => exact ⟨_, by rw [frames_run_encode, List.nil_append]⟩
    | decode limit =>
      obtain ⟨left, hleft⟩ := frames_ofFront_prefix limit queue
      exact ⟨left, by rw [run_decode_queue hplain, hleft, made, List.append_nil]⟩
  obtain ⟨left, hleft⟩ := hsplit
  refine ⟨left, ?_, ?_, hleft⟩
  · intro frame hframe
    have hmem : frame ∈ queue ++ step.made := hleft ▸ List.mem_append_right _ hframe
    rcases List.mem_append.mp hmem with hold | hnew
    · exact hplain frame hold
    · exact arePlain_made step frame hnew
  · -- No byte is lost, so what is not of the frames that it gave is left of the queue.
    have hbytes := flatMap_toWire_frames_run step (queue.flatMap Frame.toWire)
    rw [brought_eq hraw, ← List.flatMap_append, hleft, List.flatMap_append] at hbytes
    exact List.append_cancel_left hbytes

/-! ### Many operations -/

/-- What some operations answer, one behind the other, and the buffer behind them. -/
def runAll : Bytes → List BufferStep → List BufferAnswer × Bytes
  | buffer, [] => ([], buffer)
  | buffer, step :: steps =>
    let (answer, behind) := step.run buffer
    let (answers, last) := runAll behind steps
    (answer :: answers, last)

/-- The frames that some operations take off, in order. -/
def taken (buffer : Bytes) (steps : List BufferStep) : List Frame :=
  (runAll buffer steps).1.flatMap BufferAnswer.frames

/-- The buffer behind some operations. -/
def after (buffer : Bytes) (steps : List BufferStep) : Bytes := (runAll buffer steps).2

theorem taken_cons (buffer : Bytes) (step : BufferStep) (steps : List BufferStep) :
    taken buffer (step :: steps) =
      (step.run buffer).1.frames ++ taken (step.run buffer).2 steps :=
  List.flatMap_cons

theorem after_cons (buffer : Bytes) (step : BufferStep) (steps : List BufferStep) :
    after buffer (step :: steps) = after (step.run buffer).2 steps := rfl

/-- The frames taken off and the bytes left are those that were there and those put in since. -/
theorem flatMap_toWire_taken (buffer : Bytes) (steps : List BufferStep) :
    (taken buffer steps).flatMap Frame.toWire ++ after buffer steps =
      buffer ++ steps.flatMap brought := by
  induction steps generalizing buffer with
  | nil => exact (List.append_nil buffer).symm
  | cons step steps ih =>
    rw [taken_cons, after_cons, List.flatMap_append, List.append_assoc, ih, ← List.append_assoc,
      flatMap_toWire_frames_run, List.append_assoc, List.flatMap_cons]

/-- Without raw bytes a queue of frames stays one, and they are taken off it in the order in which
they were put in. -/
theorem exists_queue (hplain : ArePlain queue) (hraw : ∀ bytes, append bytes ∉ steps) :
    ∃ left, ArePlain left ∧
      after (queue.flatMap Frame.toWire) steps = left.flatMap Frame.toWire ∧
      queue ++ steps.flatMap made = taken (queue.flatMap Frame.toWire) steps ++ left := by
  induction steps generalizing queue with
  | nil => exact ⟨queue, hplain, rfl, List.append_nil queue⟩
  | cons step steps ih =>
    obtain ⟨middle, hmiddle, hbehind, hfirst⟩ :=
      exists_queue_run hplain fun bytes heq => hraw bytes (heq ▸ List.mem_cons_self)
    obtain ⟨left, hleft, hafter, hrest⟩ :=
      ih hmiddle fun bytes hmem => hraw bytes (List.mem_cons_of_mem step hmem)
    rw [← hbehind] at hafter hrest
    refine ⟨left, hleft, hafter, ?_⟩
    rw [List.flatMap_cons, ← List.append_assoc, hfirst, List.append_assoc, hrest, taken_cons,
      List.append_assoc]

/-- Payloads are put in without a frame being taken off. -/
theorem taken_eq_nil (h : ∀ step ∈ steps, ∃ payload, step = encode payload) (buffer : Bytes) :
    taken buffer steps = [] := by
  induction steps generalizing buffer with
  | nil => rfl
  | cons step steps ih =>
    obtain ⟨⟨payload, rfl⟩, hsteps⟩ := List.forall_mem_cons.mp h
    rw [taken_cons, frames_run_encode, ih hsteps]
    rfl

/-- Frames that are within the limits are taken off in their order. -/
theorem runAll_decode {limits : List Nat} {first rest : List Frame}
    (h : List.Forall₂ (fun limit frame => frame.payload.length ≤ limit) limits first)
    (hplain : ArePlain first) :
    runAll ((first ++ rest).flatMap Frame.toWire) (limits.map decode) =
      (first.map .frame, rest.flatMap Frame.toWire) := by
  induction h with
  | nil => rfl
  | @cons limit frame limits first hlimit hrest ih =>
    obtain ⟨hfront, hbehind⟩ := List.forall_mem_cons.mp hplain
    have hrun : (decode limit).run ((frame :: first ++ rest).flatMap Frame.toWire) =
        (.frame frame, (first ++ rest).flatMap Frame.toWire) := by
      rw [List.cons_append, List.flatMap_cons, run, Frame.decode_toWire hfront hlimit]
    rw [List.map_cons, runAll, hrun]
    dsimp only
    rw [ih hbehind]
    rfl

/-- What is to be expected of a buffer that is empty before some operations. -/
structure KeepsOrder (steps : List BufferStep) : Prop where
  /-- the frames taken off and the bytes left are what was put in, in order -/
  conserves : (taken [] steps).flatMap Frame.toWire ++ after [] steps = steps.flatMap brought
  /-- a payload is accepted unless a terminator cuts it in two -/
  accepts : ∀ payload,
    ((encode payload).run (after [] steps)).1 = .done ↔ Frame.terminator ∉ payload.dropLast
  /-- what is refused, or finds no frame, leaves the buffer as it was -/
  keeps : ∀ step : BufferStep, (step.run (after [] steps)).1.isIdle = true →
    (step.run (after [] steps)).2 = after [] steps
  /-- while no raw bytes are put in, the frames of the accepted payloads are taken off in order, and
  the first of those left is the next to come -/
  inOrder : (∀ bytes, append bytes ∉ steps) → ∃ left, steps.flatMap made = taken [] steps ++ left ∧
    ∀ limit, ((decode limit).run (after [] steps)).1 = .ofFront limit left
  /-- behind payloads alone, as many frames are taken off as there are limits that admit them: those
  of the first payloads that were accepted -/
  returns : (∀ step ∈ steps, ∃ payload, step = encode payload) → ∀ limits,
    List.Forall₂ (fun limit frame => frame.payload.length ≤ limit) limits
      ((steps.flatMap made).take limits.length) →
    (runAll (after [] steps) (limits.map decode)).1 =
      ((steps.flatMap made).take limits.length).map .frame

/-- Every buffer keeps the order of what is put in. -/
theorem keepsOrder (steps : List BufferStep) : KeepsOrder steps := by
  have hempty : ArePlain [] := nofun
  constructor
  case conserves => exact flatMap_toWire_taken [] steps
  case accepts => exact fun payload => run_encode_eq_done_iff payload (after [] steps)
  case keeps => exact fun step => run_of_isIdle
  case inOrder =>
    intro hraw
    obtain ⟨left, hleft, hafter, hmade⟩ := exists_queue hempty hraw
    refine ⟨left, hmade, fun limit => ?_⟩
    rw [← run_decode_queue hleft limit]
    exact congrArg (fun buffer => ((decode limit).run buffer).1) hafter
  case returns =>
    intro hpayloads limits hlimits
    have hraw : ∀ bytes, append bytes ∉ steps := by
      intro bytes hmem
      obtain ⟨payload, heq⟩ := hpayloads _ hmem
      cases heq
    obtain ⟨left, hleft, hafter, hmade⟩ := exists_queue hempty hraw
    -- Nothing was taken off before, so all that was accepted is there.
    have hall : steps.flatMap made = left := by
      rw [← List.nil_append (steps.flatMap made), hmade, taken_eq_nil hpayloads]
      rfl
    have hbuffer : after [] steps =
        (left.take limits.length ++ left.drop limits.length).flatMap Frame.toWire := by
      rw [List.take_append_drop]
      exact hafter
    have hfirst : ArePlain (left.take limits.length) :=
      fun frame hframe => hleft frame (List.mem_of_mem_take hframe)
    rw [hall] at hlimits ⊢
    rw [hbuffer, runAll_decode hlimits hfirst]

-- Raw bytes that no terminator ends go in front of the next payload, and come out in its frame.
example :
    taken [] [.append (Utf8.octets "a"), .encode (Utf8.octets "#"), .encode (Utf8.octets "b#c"),
        .decode 0, .decode 1] =
      [⟨Utf8.octets "a"⟩] := by
  decide +kernel

end BufferStep

end MotionLink
