import MotionLink.Text.Utf8
import MotionLink.Wire.Fault

/-!
# Streams

A stream is described by what it will do: what each read yields, how much each write accepts, and
whether each flush succeeds. Reading and writing are functions on such descriptions, so an
exchange over a stream is a computation whose every step can be reasoned about.

## Main definitions

* `Arrival`, `Source` — what the reads of a stream yield, in order
* `Source.inPieces` — the same bytes delivered to a reader with a buffer of a given size
* `Acceptance`, `Sink` — how a stream takes what is written
* `Sink.transmit` — hand over bytes until all are accepted
* `Sink.flush`, `Sink.flushPatiently` — flush once, or until not interrupted
* `Duplex` — a stream in both directions
-/

namespace MotionLink

/-- What one read yields. No bytes at all mean the end of the stream. -/
inductive Arrival where
  | bytes (bytes : Bytes)
  | fault (fault : Fault)

/-- What the reads of a stream yield, in order; after the last one the stream has ended. -/
abbrev Source := List Arrival

/-- The bytes cut into pieces of at most `size`; a size of zero counts as one. -/
def cutIntoPieces (size : Nat) (bytes : Bytes) : List Bytes :=
  match _hrest : bytes.drop (max size 1) with
  | [] => [bytes]
  | b :: rest => bytes.take (max size 1) :: cutIntoPieces size (b :: rest)
termination_by bytes.length
decreasing_by
  have hlength := congrArg List.length _hrest
  simp only [List.length_drop, List.length_cons] at hlength ⊢
  omega

namespace Arrival

/-- One arrival as a reader with a buffer of `size` bytes meets it. -/
def inPieces (size : Nat) : Arrival → List Arrival
  | bytes b => (cutIntoPieces size b).map bytes
  | fault f => [fault f]

end Arrival

/-- The number of bytes that an arrival brings. -/
def Arrival.size : Arrival → Nat
  | bytes b => b.length
  | fault _ => 0

namespace Source

/-- The number of bytes that a source holds. -/
def size : Source → Nat
  | [] => 0
  | arrival :: source => arrival.size + size source

/-- The arrivals as a reader with a buffer of `size` bytes meets them: what does not fit is
delivered by the following reads. -/
def inPieces (size : Nat) (source : Source) : Source := source.flatMap (Arrival.inPieces size)

end Source

/-- What one write does: it accepts some of the bytes offered, or fails. -/
inductive Acceptance where
  | upTo (count : Nat)
  | fault (fault : Fault)

/-- How a stream takes what is written to it, and what it has taken so far. -/
structure Sink where
  /-- what the next writes do; after the last of these everything is accepted -/
  writes : List Acceptance
  /-- whether the next flushes fail; after the last of these they succeed -/
  flushes : List (Option Fault)
  /-- the bytes accepted so far -/
  written : Bytes
  /-- the flushes asked for so far -/
  flushCalls : Nat

/-- Why not all bytes were handed over. -/
inductive WriteStop where
  /-- a write accepted nothing -/
  | stalled
  | fault (fault : Fault)

/-- Offer bytes until all are accepted: why that stopped early, if it did, the bytes accepted, and
the writes that were not needed. An interrupted write is repeated. -/
def offer : List Acceptance → Bytes → Option WriteStop × Bytes × List Acceptance
  | writes, [] => (none, [], writes)
  | [], pending => (none, pending, [])
  | .fault f :: writes, pending =>
    if f.isInterruption then offer writes pending else (some (.fault f), [], writes)
  -- Offering the rest again would go on forever.
  | .upTo 0 :: writes, _ => (some .stalled, [], writes)
  | .upTo count :: writes, pending =>
    let (stop, accepted, rest) := offer writes (pending.drop count)
    (stop, pending.take count ++ accepted, rest)

/-- Flush until not interrupted: the fault met, the number of calls, and the flushes not needed. -/
def flushUntilDone : List (Option Fault) → Option Fault × Nat × List (Option Fault)
  | [] => (none, 1, [])
  | none :: flushes => (none, 1, flushes)
  | some f :: flushes =>
    if f.isInterruption then
      let (fault, calls, rest) := flushUntilDone flushes
      (fault, calls + 1, rest)
    else (some f, 1, flushes)

namespace Sink

/-- A stream that nothing has been written to. -/
def ofScript (writes : List Acceptance) (flushes : List (Option Fault)) : Sink :=
  ⟨writes, flushes, [], 0⟩

/-- Hand over bytes until all are accepted. -/
def transmit (sink : Sink) (bytes : Bytes) : Option WriteStop × Sink :=
  let (stop, accepted, rest) := offer sink.writes bytes
  (stop, { sink with writes := rest, written := sink.written ++ accepted })

/-- Flush once. -/
def flush (sink : Sink) : Option Fault × Sink :=
  (sink.flushes.head?.join,
    { sink with flushes := sink.flushes.tail, flushCalls := sink.flushCalls + 1 })

/-- Flush, again as long as that is interrupted. -/
def flushPatiently (sink : Sink) : Option Fault × Sink :=
  let (fault, calls, rest) := flushUntilDone sink.flushes
  (fault, { sink with flushes := rest, flushCalls := sink.flushCalls + calls })

end Sink

/-- What a stream will do in both directions. -/
structure Duplex where
  reads : Source
  writes : List Acceptance
  flushes : List (Option Fault)

/-- The writing side of a stream that nothing has been written to. -/
def Duplex.sink (stream : Duplex) : Sink := .ofScript stream.writes stream.flushes

end MotionLink
