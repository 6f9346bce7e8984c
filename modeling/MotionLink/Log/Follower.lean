import MotionLink.Wire.Stream

/-!
# Following the log

A follower connects, says hello, and hands every chunk it reads to a listener. When the stream
ends or fails it connects again, until a stop is asked for: by the listener, or while a connection
is being made. What it will meet is given as a list of attempts to connect; behind the last one
the operator stops it.

## Main definitions

* `Attempt` — what one attempt to connect comes to
* `Listener` — told about states and chunks, and may ask for a stop
* `Run` — a run of the follower so far, with a journal of what it did
* `Follower.run` — follow until stopped
* `StopRule` — a listener that asks for a stop at a given chunk or state
-/

namespace MotionLink

/-- How far a follower is connected. -/
inductive LinkState where
  | disconnected
  | connecting
  | connected
deriving DecidableEq

/-- The name of a state. -/
def LinkState.name : LinkState → String
  | disconnected => "disconnected"
  | connecting => "connecting"
  | connected => "connected"

/-- What one attempt to connect comes to. -/
structure Attempt where
  /-- the stream, unless the connection was refused -/
  stream : Option Duplex
  /-- a stop is asked for while the connection is being made -/
  stops : Bool

/-- The attempt behind the last one: it is refused, and the operator stops the follower. -/
def Attempt.last : Attempt := ⟨none, true⟩

/-- Told about states and chunks; with what it remembers it answers whether to stop. -/
structure Listener (σ : Type) where
  onState : σ → LinkState → σ × Bool
  onChunk : σ → Bytes → σ × Bool

/-- What a follower does. -/
inductive Activity where
  /-- an attempt to connect, and whether it gave a stream -/
  | connect (made : Bool)
  /-- the listener was told of a state -/
  | state (state : LinkState)
  /-- the stream accepted a part of the hello, or all of it -/
  | sent (bytes : Bytes)
  /-- the stream was flushed, and whether that went well -/
  | flushed (ok : Bool)
  | read (arrival : Arrival)
  /-- the listener was told of a chunk -/
  | chunk (bytes : Bytes)

/-- What a run comes to in numbers. -/
structure Summary where
  attempts : Nat
  sessions : Nat
  bytes : Nat
deriving DecidableEq

/-- Nothing done yet. -/
def Summary.zero : Summary := ⟨0, 0, 0⟩

/-- A run of the follower so far. -/
structure Run (σ : Type) where
  listener : σ
  /-- a stop has been asked for -/
  stopped : Bool
  state : LinkState
  summary : Summary
  /-- everything done, latest first -/
  journal : List Activity

/-- How to follow. -/
structure FollowSettings where
  /-- sent once behind each connection -/
  hello : Option Bytes
  /-- the most bytes of one read; zero counts as one -/
  chunkSize : Nat

/-- The size of one read unless another is asked for. -/
def FollowSettings.defaultChunkSize : Nat := 1024

namespace Run

variable {σ : Type}

/-- Before the follower has done anything. -/
def start (listener : σ) (stopped : Bool) : Run σ := ⟨listener, stopped, .disconnected, .zero, []⟩

/-- Enter what was done into the journal. -/
def note (run : Run σ) (activity : Activity) : Run σ :=
  { run with journal := activity :: run.journal }

/-- Ask for a stop, if the condition holds. -/
def stopIf (run : Run σ) (asked : Bool) : Run σ := { run with stopped := run.stopped || asked }

/-- Enter a state; the listener is told unless it is the state already. -/
def enter (run : Run σ) (ear : Listener σ) (state : LinkState) : Run σ :=
  if run.state = state then run
  else
    let (listener, asked) := ear.onState run.listener state
    ({ run with listener, state }.note (.state state)).stopIf asked

/-- Hand a chunk to the listener. -/
def deliver (run : Run σ) (ear : Listener σ) (chunk : Bytes) : Run σ :=
  let (listener, asked) := ear.onChunk run.listener chunk
  let summary := { run.summary with bytes := run.summary.bytes + chunk.length }
  ({ run with listener, summary }.note (.chunk chunk)).stopIf asked

/-- Read until the stream ends or fails, or a stop is asked for. An interrupted read is
repeated. -/
def readAll (ear : Listener σ) : Source → Run σ → Run σ
  | [], run => if run.stopped then run else run.note (.read (.bytes []))
  | arrival :: source, run =>
    if run.stopped then run
    else
      let run := run.note (.read arrival)
      match arrival with
      | .bytes [] => run
      | .bytes chunk => readAll ear source (run.deliver ear chunk)
      | .fault f => if f.isInterruption then readAll ear source run else run

/-- Say hello: whether all of it was sent and flushed. -/
def greet (run : Run σ) (hello : Option Bytes) (stream : Duplex) : Bool × Run σ :=
  match hello with
  | none => (true, run)
  | some hello =>
    let (stop, sink) := stream.sink.transmit hello
    let run := run.note (.sent sink.written)
    match stop with
    | some _ => (false, run)
    | none =>
      let ok := sink.flush.1.isNone
      (ok, run.note (.flushed ok))

/-- Say hello on a new stream and read it. -/
def session (run : Run σ) (ear : Listener σ) (settings : FollowSettings) (stream : Duplex) :
    Run σ :=
  let (ready, run) := run.greet settings.hello stream
  if ready then readAll ear (stream.reads.inPieces settings.chunkSize) run else run

/-- The follower has a stream. A stop asked for meanwhile leaves it untouched. -/
def withStream (run : Run σ) (ear : Listener σ) (settings : FollowSettings) (stream : Duplex) :
    Run σ :=
  let run := { run with summary := { run.summary with sessions := run.summary.sessions + 1 } }
  -- The stop may have been asked for while the connection was being made.
  if run.stopped then run
  else ((run.enter ear .connected).session ear settings stream).enter ear .disconnected

/-- One attempt to connect, and what follows from it. -/
def attempt (run : Run σ) (ear : Listener σ) (settings : FollowSettings) (a : Attempt) : Run σ :=
  let run := run.enter ear .connecting
  let run := { run with summary := { run.summary with attempts := run.summary.attempts + 1 } }
  let run := (run.note (.connect a.stream.isSome)).stopIf a.stops
  match a.stream with
  | none => run.enter ear .disconnected
  | some stream => run.withStream ear settings stream

/-- Connect again and again until a stop is asked for; also the attempts not made. -/
def attemptAll (ear : Listener σ) (settings : FollowSettings) :
    List Attempt → Run σ → Run σ × List Attempt
  | [], run => (if run.stopped then run else run.attempt ear settings .last, [])
  | a :: rest, run =>
    if run.stopped then (run, a :: rest)
    else attemptAll ear settings rest (run.attempt ear settings a)

end Run

/-- A follower between two runs. -/
structure Follower (σ : Type) where
  settings : FollowSettings
  ear : Listener σ
  /-- what the next attempts to connect come to -/
  attempts : List Attempt
  /-- the runs so far -/
  run : Run σ

namespace Follower

variable {σ : Type}

/-- Follow until stopped; the numbers are counted anew. -/
def follow (follower : Follower σ) : Follower σ :=
  let (run, attempts) :=
    Run.attemptAll follower.ear follower.settings follower.attempts
      { follower.run with summary := .zero }
  { follower with attempts, run := run.enter follower.ear .disconnected }

/-- Follow several times: the numbers of each run, and the follower behind the last one. -/
def followTimes : Nat → Follower σ → List Summary × Follower σ
  | 0, follower => ([], follower)
  | n + 1, follower =>
    let follower := follower.follow
    let (summaries, last) := followTimes n follower
    (follower.run.summary :: summaries, last)

/-- What was done in all runs, in order. -/
def journal (follower : Follower σ) : List Activity := follower.run.journal.reverse

end Follower

namespace Activity

/-- One entry of a journal, given what each stream before it has accepted, latest stream first. -/
def sentOnto (streams : List Bytes) : Activity → List Bytes
  | connect true => [] :: streams
  | sent bytes =>
    match streams with
    | [] => []
    | stream :: rest => (stream ++ bytes) :: rest
  | _ => streams

/-- What each stream has accepted, in the order in which the streams were opened. -/
def sentPerStream (journal : List Activity) : List Bytes := (journal.foldl sentOnto []).reverse

end Activity

/-- When to ask for a stop. -/
structure StopRule where
  /-- at this chunk, counted from one -/
  atChunk : Option Nat
  /-- whenever this state is reported -/
  atState : Option LinkState

/-- A listener that counts chunks and asks for a stop by a rule. -/
def StopRule.listener (rule : StopRule) : Listener Nat where
  onState seen state := (seen, rule.atState == some state)
  onChunk seen _ := (seen + 1, rule.atChunk == some (seen + 1))

end MotionLink
