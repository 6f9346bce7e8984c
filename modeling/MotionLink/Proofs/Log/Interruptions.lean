import MotionLink.Proofs.Log.Outlines
import MotionLink.Proofs.Wire.Interruptions

/-!
# Interruptions while following the log

An interrupted read of the log is repeated, and so is an interrupted write of the hello. The flush
behind the hello is not: if it is only interrupted, the stream is given up before it is read, as if
it had failed. So interruptions are seen of a follower exactly where the flush of one hello is
interrupted and that of another is not, and the stream has something to deliver. Wherever else they
come they change nothing that is seen.

## Main definitions

* `Duplex.Resembles`, `Attempt.Resembles` — streams that do the same when they are not interrupted
* `Duplex.FlushesAtOnce` — the first flush of a stream is not interrupted
* `Follower.SameIsSeen` — the same is seen of followers that meet these attempts

## Main results

* `Duplex.Resembles.looksLike_iff` — interruptions of a stream show in what it delivers, or not at
  all
* `Follower.sameIsSeen_iff` — what interruptions show in, and where they do not show
-/

namespace MotionLink

open Activity

/-! ### Streams -/

/-- An interrupted read brings no chunk. -/
theorem Source.chunks_calm (source : Source) : source.calm.chunks = source.chunks := by
  induction source with
  | nil => rfl
  | cons arrival source ih =>
    cases arrival with
    | bytes bytes => rw [calm_bytes, chunks, chunks, ih]
    | fault f =>
      by_cases hf : f.isInterruption = true
      · rw [calm_interruption hf, ih, chunks]
        simp [Arrival.isLast, Arrival.chunks, hf]
      · rw [calm_fault hf, chunks, chunks]
        simp [Arrival.isLast, hf]

theorem Source.delivered_calm (source : Source) : source.calm.delivered = source.delivered := by
  rw [← flatten_chunks, chunks_calm, flatten_chunks]

/-- Two streams that do the same when they are not interrupted. -/
structure Duplex.Resembles (stream other : Duplex) : Prop where
  reads : stream.reads.calm = other.reads.calm
  writes : calmWrites stream.writes = calmWrites other.writes
  flushes : calmFlushes stream.flushes = calmFlushes other.flushes

/-- The first flush is not interrupted. -/
def Duplex.FlushesAtOnce (stream : Duplex) : Prop :=
  ∀ f, stream.flushes.head? = some (some f) → f.isInterruption = false

/-- Two attempts to connect that come to the same when no stream is interrupted. -/
inductive Attempt.Resembles : Attempt → Attempt → Prop where
  | refused (stops : Bool) : Resembles ⟨none, stops⟩ ⟨none, stops⟩
  | made {stream other : Duplex} (h : stream.Resembles other) (stops : Bool) :
      Resembles ⟨some stream, stops⟩ ⟨some other, stops⟩

/-- The first flush is the same without the interruptions behind it. -/
theorem Duplex.FlushesAtOnce.head?_calmFlushes {stream : Duplex} (h : stream.FlushesAtOnce) :
    (calmFlushes stream.flushes).head? = stream.flushes.head? := by
  rw [FlushesAtOnce] at h
  cases hflushes : stream.flushes with
  | nil => rfl
  | cons first flushes =>
    cases first with
    | none => rfl
    | some f =>
      have hfirst : f.isInterruption = false := h f (by rw [hflushes]; rfl)
      rw [calmFlushes, List.filter_cons_of_pos (by rw [Option.any_some, hfirst]; rfl)]
      rfl

namespace Duplex.Resembles

variable {stream other : Duplex}

/-- A hello comes to the same on both streams, up to its flush. -/
theorem transmit (h : stream.Resembles other) (hello : Bytes) :
    (stream.sink.transmit hello).1 = (other.sink.transmit hello).1 ∧
      (stream.sink.transmit hello).2.written = (other.sink.transmit hello).2.written := by
  -- Nothing was written to either stream before, so without interruptions they are the same.
  have hcalm : stream.sink.calm = other.sink.calm := by
    change (⟨_, _, [], 0⟩ : Sink) = ⟨_, _, [], 0⟩
    rw [sink, sink, Sink.ofScript, Sink.ofScript, h.writes, h.flushes]
  have hsent := stream.sink.transmit_calm hello
  rw [hcalm, other.sink.transmit_calm hello] at hsent
  obtain ⟨hstop, hsink⟩ := Prod.mk.inj hsent
  exact ⟨hstop.symm, (congrArg Sink.written hsink :).symm⟩

theorem taken_eq (h : stream.Resembles other) (hello : Option Bytes) :
    stream.taken hello = other.taken hello := by
  cases hello with
  | none => rfl
  | some hello => exact congrArg some (h.transmit hello).2

theorem chunks_inPieces (h : stream.Resembles other) (size : Nat) :
    (stream.reads.inPieces size).chunks = (other.reads.inPieces size).chunks := by
  rw [← Source.chunks_calm, Source.calm_inPieces, h.reads, ← Source.calm_inPieces,
    Source.chunks_calm]

theorem delivered_eq (h : stream.Resembles other) :
    stream.reads.delivered = other.reads.delivered := by
  rw [← Source.delivered_calm, h.reads, Source.delivered_calm]

/-- Interruptions show in what a stream delivers, or not at all. -/
theorem looksLike_iff (h : stream.Resembles other) (settings : FollowSettings) :
    stream.LooksLike settings other ↔
      stream.delivered settings.hello = other.delivered settings.hello := by
  constructor
  · intro hlooks
    rw [← flatten_chunks, ← flatten_chunks, hlooks.chunks]
  · intro hdelivered
    refine ⟨h.taken_eq settings.hello, ?_⟩
    have hnone (source : Source) (hnothing : source.delivered = []) :
        (source.inPieces settings.chunkSize).chunks = [] := by
      rwa [Source.chunks_eq_nil_iff, Source.delivered_inPieces]
    -- If only one of them takes the hello, it has nothing to deliver, and brings no chunk.
    rw [Duplex.delivered, Duplex.delivered] at hdelivered
    rw [Duplex.chunks, Duplex.chunks]
    cases htakes : stream.takesHello settings.hello <;>
      cases htakes' : other.takesHello settings.hello
    case false.false => rfl
    case false.true =>
      rw [htakes, htakes'] at hdelivered
      exact (hnone other.reads hdelivered.symm).symm
    case true.false =>
      rw [htakes, htakes'] at hdelivered
      exact hnone stream.reads hdelivered
    case true.true => exact h.chunks_inPieces settings.chunkSize

/-- Interruptions do not show unless the flush behind a hello is interrupted. -/
theorem delivered_eq_of_flushesAtOnce (h : stream.Resembles other) {hello : Option Bytes}
    (hflush : hello = none ∨ stream.FlushesAtOnce ∧ other.FlushesAtOnce) :
    stream.delivered hello = other.delivered hello := by
  have htakes : stream.takesHello hello = other.takesHello hello := by
    cases hello with
    | none => rfl
    | some hello =>
      obtain ⟨hflush, hflush'⟩ := hflush.resolve_left nofun
      have hfirst : stream.flushes.head? = other.flushes.head? := by
        rw [← hflush.head?_calmFlushes, h.flushes, hflush'.head?_calmFlushes]
      change ((stream.sink.transmit hello).1.isNone && stream.flushes.head?.join.isNone) =
        ((other.sink.transmit hello).1.isNone && other.flushes.head?.join.isNone)
      rw [(h.transmit hello).1, hfirst]
  rw [Duplex.delivered, Duplex.delivered, htakes, h.delivered_eq]

end Duplex.Resembles

/-! ### Attempts -/

namespace Attempt

variable {a a' : Attempt} {attempts attempts' : List Attempt}

theorem Resembles.stops_eq (h : a.Resembles a') : a.stops = a'.stops := by
  cases h <;> rfl

/-- An attempt that stops the follower looks the same, whatever its stream does. -/
theorem Resembles.looksLike_of_stops (h : a.Resembles a') (hstops : a.stops = true)
    (settings : FollowSettings) : a.LooksLike settings a' := by
  cases h with
  | refused => exact .refused _
  | made _ stops =>
    obtain rfl : stops = true := hstops
    exact .late _ _

/-- The streams that are handed to the followers resemble each other one by one. -/
theorem forall₂_handed (h : List.Forall₂ Resembles attempts attempts') :
    List.Forall₂ Duplex.Resembles (handed attempts) (handed attempts') := by
  induction h with
  | nil => exact .nil
  | @cons a a' rest rest' ha hrest ih =>
    cases hstops : a.stops with
    | true =>
      rw [handed_of_stops hstops, handed_of_stops (ha.stops_eq ▸ hstops)]
      exact .nil
    | false =>
      rw [handed_of_not_stops hstops, handed_of_not_stops (ha.stops_eq ▸ hstops)]
      cases ha with
      | refused => exact ih
      | made hstream => exact .cons hstream ih

end Attempt

/-- Interruptions do not show unless the flush behind a hello is interrupted. -/
theorem Duplex.map_delivered_eq {streams streams' : List Duplex}
    (h : List.Forall₂ Resembles streams streams') {hello : Option Bytes}
    (hflush : hello = none ∨ ∀ stream ∈ streams ++ streams', stream.FlushesAtOnce) :
    streams.map (·.delivered hello) = streams'.map (·.delivered hello) := by
  induction h with
  | nil => rfl
  | @cons stream stream' rest rest' hstream hrest ih =>
    have hfirst : stream.delivered hello = stream'.delivered hello :=
      hstream.delivered_eq_of_flushesAtOnce (hflush.imp_right fun hall =>
        ⟨hall stream (by simp), hall stream' (by simp)⟩)
    have hlater := ih (hflush.imp_right fun hall s hs => hall s (by
      rcases List.mem_append.mp hs with hs | hs <;> simp [hs]))
    rw [List.map_cons, List.map_cons, hfirst, hlater]

namespace Run

variable {σ : Type} {settings : FollowSettings} {attempts attempts' : List Attempt}

/-- Where the streams that are handed to two followers deliver the same, interruptions do not
show. -/
theorem outline_attemptAll {run other : Run σ} (ear : Listener σ)
    (h : List.Forall₂ Attempt.Resembles attempts attempts')
    (hdelivered : (Attempt.handed attempts).map (·.delivered settings.hello) =
      (Attempt.handed attempts').map (·.delivered settings.hello))
    (hrun : run.outline = other.outline) :
    (attemptAll ear settings attempts run).1.outline =
      (attemptAll ear settings attempts' other).1.outline := by
  -- The attempts behind the first one that stops the follower are not made, whatever they give.
  induction h generalizing run other with
  | nil =>
    rw [attemptAll, attemptAll, stopped_eq_of_outline_eq hrun]
    split
    · exact hrun
    · exact outline_attempt hrun ear (.refused true)
  | @cons a a' rest rest' ha hrest ih =>
    rw [attemptAll, attemptAll, stopped_eq_of_outline_eq hrun]
    split
    · exact hrun
    · cases hstops : a.stops with
      | true =>
        have hnext := outline_attempt hrun ear (ha.looksLike_of_stops hstops settings)
        have hhalted := (attempt_of_stops run ear settings hstops).1
        have hhalted' := (attempt_of_stops other ear settings (ha.stops_eq ▸ hstops)).1
        rw [attemptAll_of_stopped _ hhalted, attemptAll_of_stopped _ hhalted']
        exact hnext
      | false =>
        have hstops' := ha.stops_eq.symm.trans hstops
        rw [Attempt.handed_of_not_stops hstops, Attempt.handed_of_not_stops hstops'] at hdelivered
        cases ha with
        | refused => exact ih hdelivered (outline_attempt hrun ear (.refused _))
        | made hstream stops =>
          obtain rfl : stops = false := hstops
          obtain ⟨hfirst, hlater⟩ := List.cons.inj hdelivered
          have hlooks := (hstream.looksLike_iff settings).mpr hfirst
          exact ih hlater (outline_attempt hrun ear (.inTime hlooks))

end Run

namespace Follower

variable {settings : FollowSettings} {attempts attempts' : List Attempt}

/-- Whatever the listener, and whenever a stop is asked for, the same is seen of followers that meet
these attempts. -/
def SameIsSeen (settings : FollowSettings) (attempts attempts' : List Attempt) : Prop :=
  ∀ (σ : Type) (ear : Listener σ) (listener : σ) (stopped : Bool) (runs : Nat),
    SeenAlike runs (fresh settings ear attempts listener stopped)
      (fresh settings ear attempts' listener stopped)

theorem sameIsSeen_of_delivered (h : List.Forall₂ Attempt.Resembles attempts attempts')
    (hdelivered : (Attempt.handed attempts).map (·.delivered settings.hello) =
      (Attempt.handed attempts').map (·.delivered settings.hello)) :
    SameIsSeen settings attempts attempts' := by
  intro σ ear listener stopped runs
  refine seenAlike_of_outline_eq runs rfl rfl rfl ?_
  have hall := Run.outline_attemptAll ear h hdelivered
    (Eq.refl (Run.start listener stopped).outline)
  change (Run.enter _ ear .disconnected).outline = (Run.enter _ ear .disconnected).outline
  rw [Run.outline_enter, Run.outline_enter]
  exact congrArg (Run.enter · ear .disconnected) hall

/-- A listener that never asks for a stop is told of all that is delivered. -/
theorem delivered_of_sameIsSeen (h : SameIsSeen settings attempts attempts') :
    (Attempt.handed attempts).map (·.delivered settings.hello) =
      (Attempt.handed attempts').map (·.delivered settings.hello) := by
  have hnever : (StopRule.listener ⟨none, none⟩).NeverAsks := by
    rintro seen (state | bytes)
    · rfl
    · rfl
  rw [← bytesPerSession_follow hnever settings attempts 0,
    ← bytesPerSession_follow hnever settings attempts' 0]
  exact (h Nat (StopRule.listener ⟨none, none⟩) 0 false 1).sessions

/-- Interruptions are seen exactly if they change what the streams deliver that are handed to the
follower. They change nothing where no flush behind a hello is interrupted. -/
theorem sameIsSeen_iff (settings : FollowSettings) {attempts attempts' : List Attempt}
    (h : List.Forall₂ Attempt.Resembles attempts attempts') :
    (SameIsSeen settings attempts attempts' ↔
      (Attempt.handed attempts).map (·.delivered settings.hello) =
        (Attempt.handed attempts').map (·.delivered settings.hello)) ∧
    (settings.hello = none ∨
        (∀ stream ∈ Attempt.handed attempts ++ Attempt.handed attempts', stream.FlushesAtOnce) →
      SameIsSeen settings attempts attempts') := by
  refine ⟨⟨delivered_of_sameIsSeen, sameIsSeen_of_delivered h⟩, fun hflush => ?_⟩
  exact sameIsSeen_of_delivered h (Duplex.map_delivered_eq (Attempt.forall₂_handed h) hflush)

/-- Interruptions of the reads, in the middle of the hello, and of a second flush. -/
theorem sameIsSeen_of_interrupted_hello :
    let interrupted : Duplex :=
      ⟨[.fault (.ofKind .interrupted), .bytes [111, 110], .fault (.ofKind .interrupted),
        .bytes [101]], [.upTo 1, .fault (.ofKind .interrupted)],
        [none, some (.ofKind .interrupted)]⟩
    let undisturbed : Duplex := ⟨[.bytes [111, 110], .bytes [101]], [.upTo 1], [none]⟩
    List.Forall₂ Attempt.Resembles [⟨none, false⟩, ⟨some interrupted, false⟩]
        [⟨none, false⟩, ⟨some undisturbed, false⟩] ∧
      SameIsSeen ⟨some [104, 105], 2⟩ [⟨none, false⟩, ⟨some interrupted, false⟩]
        [⟨none, false⟩, ⟨some undisturbed, false⟩] ∧
      interrupted.delivered (some [104, 105]) = [111, 110, 101] := by
  intro interrupted undisturbed
  have hstream : interrupted.Resembles undisturbed := ⟨rfl, rfl, rfl⟩
  have hresembles : List.Forall₂ Attempt.Resembles [⟨none, false⟩, ⟨some interrupted, false⟩]
      [⟨none, false⟩, ⟨some undisturbed, false⟩] :=
    .cons (.refused false) (.cons (.made hstream false) .nil)
  have hflush : ∀ stream ∈ [interrupted, undisturbed], stream.FlushesAtOnce := by
    simp [Duplex.FlushesAtOnce, interrupted, undisturbed]
  exact ⟨hresembles, (sameIsSeen_iff _ hresembles).2 (.inr hflush), by decide +kernel⟩

/-- The flush behind the hello is interrupted, so a line that waits to be read is lost. -/
theorem not_sameIsSeen_of_interrupted_flush :
    let interrupted : Duplex :=
      ⟨[.bytes [111, 110, 101, 10]], [], [some (.ofKind .interrupted)]⟩
    let undisturbed : Duplex := ⟨[.bytes [111, 110, 101, 10]], [], []⟩
    let numbers (stream : Duplex) : List Summary :=
      (followTimes 1 (fresh ⟨some [104, 105], 1024⟩ (StopRule.listener ⟨none, none⟩)
        [⟨some stream, false⟩] 0 false)).1
    interrupted.Resembles undisturbed ∧ numbers interrupted = [⟨2, 1, 0⟩] ∧
      numbers undisturbed = [⟨2, 1, 4⟩] ∧
      ¬SameIsSeen ⟨some [104, 105], 1024⟩ [⟨some interrupted, false⟩]
        [⟨some undisturbed, false⟩] := by
  intro interrupted undisturbed numbers
  have hlost : numbers interrupted = [⟨2, 1, 0⟩] := by decide +kernel
  have hread : numbers undisturbed = [⟨2, 1, 4⟩] := by decide +kernel
  refine ⟨⟨rfl, rfl, rfl⟩, hlost, hread, fun hsame => ?_⟩
  have hnumbers : numbers interrupted = numbers undisturbed :=
    (hsame Nat (StopRule.listener ⟨none, none⟩) 0 false 1).summaries
  rw [hlost, hread] at hnumbers
  exact absurd hnumbers (by decide)

end Follower

end MotionLink
