import MotionLink.Proofs.Log.Records

/-!
# What of its past a router shows

The turns of the next fields are never cleared when a record ends, only when the next one begins.
A record always begins before it shows a field, so they do not tell of the records before. Of its
past a router shows only the block that is open and the bytes that wait, and behind the end of a
stream there is neither.

## Main definitions

* `Router.IsSettled` — no block is open and no bytes wait
* `Router.Forgets` — what is to be expected of a router whatever it was given before

## Main results

* `Router.run_same` — routers in the same state show the same for whatever they are given
* `Router.IsSettled.same` — all settled routers are in the same state
* `Router.forgets` — whatever a router was given, it forgets
-/

namespace MotionLink.Router

variable {router other : Router}

/-! ### Routers in the same state -/

theorem buffer_line (router : Router) (chars : List Char) :
    (router.line chars).2.2.buffer = router.buffer :=
  congrArg (·.2.2.buffer) (line_withBuffer router router.buffer chars)

/-- Routers in the same state show the same for a line, a chunk or the end of a stream, and are in
the same state behind it. -/
theorem take_same (h : Same router other) (input : Input) :
    (router.take input).1 = (other.take input).1 ∧
      Same (router.take input).2 (other.take input).2 := by
  cases input with
  | line chars =>
    obtain ⟨hevents, halike⟩ := line_alike h.alike chars
    refine ⟨hevents, ?_, halike⟩
    rw [take, take, buffer_line, buffer_line, h.buffer]
  | chunk bytes => exact feed_same h bytes
  | flush => exact flush_same h

theorem run_same (h : Same router other) (inputs : List Input) :
    (router.run inputs).1 = (other.run inputs).1 ∧
      Same (router.run inputs).2 (other.run inputs).2 := by
  induction inputs generalizing router other with
  | nil => exact ⟨rfl, h⟩
  | cons input rest ih =>
    obtain ⟨hevents, hbehind⟩ := take_same h input
    obtain ⟨hmore, hsame⟩ := ih hbehind
    rw [run, run, hevents, hmore]
    exact ⟨rfl, hsame⟩

/-! ### The limit of a line stays as it is -/

theorem limit_flush (router : Router) : router.flush.2.buffer.limit = router.buffer.limit := by
  rw [flush_eq, buffer_close, buffer_lines, LineBuffer.flush_eq_ofLimit]
  rfl

theorem limit_take (router : Router) (input : Input) :
    (router.take input).2.buffer.limit = router.buffer.limit := by
  cases input with
  | line chars => exact congrArg LineBuffer.limit (buffer_line router chars)
  | chunk bytes => exact limit_feed router bytes
  | flush => exact limit_flush router

theorem limit_run (router : Router) (inputs : List Input) :
    (router.run inputs).2.buffer.limit = router.buffer.limit := by
  induction inputs generalizing router with
  | nil => rfl
  | cons input rest ih =>
    rw [run]
    exact (ih _).trans (limit_take router input)

theorem limit_reached (history : List Input) :
    (reached history).buffer.limit = LineBuffer.defaultLimit :=
  limit_run start history

/-! ### Settled routers -/

/-- No block is open and no bytes wait. -/
structure IsSettled (router : Router) : Prop where
  closed : router.inRecord = false
  empty : router.buffer.pending = #[]

/-- A router that shows neither a block nor bytes of its past shows nothing of it at all. -/
theorem IsSettled.same (h : router.IsSettled) (hother : other.IsSettled)
    (hlimit : router.buffer.limit = other.buffer.limit) : Same router other := by
  refine ⟨?_, h.closed.trans hother.closed.symm, fun hopen => ?_⟩
  · obtain ⟨tally, ⟨limit, pending⟩, inRecord⟩ := router
    obtain ⟨tally', ⟨limit', pending'⟩, inRecord'⟩ := other
    obtain rfl : limit = limit' := hlimit
    obtain rfl : pending = #[] := h.empty
    obtain rfl : pending' = #[] := hother.empty
    rfl
  · exact absurd (h.closed.symm.trans hopen) Bool.false_ne_true

/-- What is to be expected of a router whatever it was given before. -/
structure Forgets (history : List Input) : Prop where
  /-- behind the end of a stream it shows for whatever follows what a new router shows -/
  flushed : ∀ more, ((reached history).flush.2.run more).1 = (start.run more).1
  /-- a second end shows nothing -/
  again : (reached history).flush.2.flush.1 = []
  /-- once no block is open and no bytes wait, it shows for whatever follows what it would show
  behind any other such history -/
  settled : (reached history).IsSettled → ∀ other, (reached other).IsSettled →
    ∀ more, ((reached history).run more).1 = ((reached other).run more).1

/-- Whatever a router was given, it forgets. -/
theorem forgets (history : List Input) : Forgets history := by
  have hflushed : Same (reached history).flush.2 start :=
    same_start_of_flush (limit_reached history)
  constructor
  case flushed => exact fun more => (run_same hflushed more).1
  case again => exact (flush_same hflushed).1
  case settled =>
    intro hsettled other hother more
    have hlimit := (limit_reached history).trans (limit_reached other).symm
    exact (run_same (hsettled.same hother hlimit) more).1

/-- Behind a block with a coordinate in it the turns have moved on, but nothing shows it. -/
theorem forgets_of_closed_block :
    let history : List Input := [.line "ParsedCommand \x7b".toList, .line "J1=\x1a5\x1b".toList,
      .chunk (Utf8.octets "\x7d\n")]
    (reached history).tally ≠ Tally.start ∧ (reached history).IsSettled ∧
      ∀ more, ((reached history).run more).1 = (start.run more).1 := by
  intro history
  have hsettled : (reached history).IsSettled := ⟨by decide +kernel, by decide +kernel⟩
  exact ⟨by decide +kernel, hsettled, (forgets history).settled hsettled [] ⟨rfl, rfl⟩⟩

end MotionLink.Router
