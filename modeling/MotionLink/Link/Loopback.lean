import MotionLink.Link.Network
import MotionLink.Number.Duration
import MotionLink.Wire.FrameReader
import MotionLink.Wire.FrameWriter

/-!
# A stream within one machine

Both ends of a stream, without anything between them: what one end writes waits until the other
end reads it.

## Main definitions

* `Loopback` — the bytes on their way in both directions
* `Loopback.join` — the two ends, where the machine has a network
* `LoopbackStep` — what either end can do
* `LoopbackStep.run` — one step
-/

namespace MotionLink

/-- The bytes on their way, and what each end has given up. -/
structure Loopback where
  /-- written here and not yet read there -/
  outbound : Bytes
  /-- written there and not yet read here -/
  inbound : Bytes
  /-- the other end writes no more -/
  isEnded : Bool
  /-- this end neither reads nor writes any more -/
  isShut : Bool

/-- What either end can do. -/
inductive LoopbackStep where
  | write (bytes : Bytes)
  /-- send one message, waiting no longer than the limit -/
  | send (payload : Bytes) (limit : Option Duration)
  | read (count : Nat)
  /-- read one message, waiting no longer than the limit -/
  | readMessage (limit : Option Duration)
  | farWrite (bytes : Bytes)
  | farRead (count : Nat)
  | farEnd
  | shut
  | address
  | setTimeout (limit : Option Duration)

/-- What a step comes to. -/
inductive LoopbackAnswer where
  | done
  | yes
  | bytes (bytes : Bytes)
  | message (frame : Frame)
  /-- reading or writing failed -/
  | fault (fault : Fault)
  /-- the stream could not be set up as asked -/
  | setting (fault : Fault)
  | refused (error : FrameError)

namespace Loopback

/-- Nothing on its way. -/
def idle : Loopback := ⟨[], [], false, false⟩

/-- The two ends, joined over the network of the machine. Without a network one end cannot reach the
other. -/
def join (network : Network) : Except Fault Loopback := network.nextStream.map fun _ => idle

/-- Writing to a stream that was shut. -/
def brokenPipe : Fault := ⟨.brokenPipe, some "Broken pipe (os error 32)"⟩

/-- Nothing came in time. -/
def nothingCame : Fault := ⟨.wouldBlock, some "Resource temporarily unavailable (os error 11)"⟩

/-- The stream ended before all bytes asked for had come. -/
def cutShort : Fault := ⟨.unexpectedEnd, some "failed to fill whole buffer"⟩

/-- A limit of no time at all makes no sense. -/
def zeroLimit : Fault := ⟨.invalidInput, some "cannot set a 0 duration timeout"⟩

/-- The writing side here. -/
def sink (l : Loopback) : Sink := .ofScript (if l.isShut then [.fault brokenPipe] else []) []

/-- The reading side here. -/
def source (l : Loopback) : Source :=
  let waiting : Source := if l.inbound.isEmpty then [] else [.bytes l.inbound]
  waiting ++ (if l.isEnded || l.isShut then [] else [.fault nothingCame])

/-- The bytes that a source still holds. -/
def bytesOf (source : Source) : Bytes :=
  source.flatMap fun
    | .bytes b => b
    | .fault _ => []

/-- Exactly so many of the waiting bytes, or why there are fewer; then the bytes left. -/
def take (count : Nat) (waiting : Bytes) (ended : Bool) : LoopbackAnswer × Bytes :=
  if count ≤ waiting.length then (.bytes (waiting.take count), waiting.drop count)
  else (.fault (if ended then cutShort else nothingCame), [])

/-- Write here. -/
def write (l : Loopback) (bytes : Bytes) : LoopbackAnswer × Loopback :=
  if l.isShut then (.fault brokenPipe, l) else (.done, { l with outbound := l.outbound ++ bytes })

/-- Send one message from here. -/
def send (l : Loopback) (payload : Bytes) : LoopbackAnswer × Loopback :=
  let (error, writer) := (FrameWriter.mk Frame.defaultLimit l.sink).send payload
  let l := { l with outbound := l.outbound ++ writer.sink.written }
  match error with
  | some e => (.refused e, l)
  | none => (.done, l)

/-- Read one message here. -/
def readMessage (l : Loopback) : LoopbackAnswer × Loopback :=
  let (result, reader) := (FrameReader.ofSource Frame.defaultLimit l.source).next
  let l := { l with inbound := bytesOf reader.source }
  match result with
  | .ok frame => (.message frame, l)
  | .error e => (.refused e, l)

end Loopback

/-- One step. -/
def LoopbackStep.run (l : Loopback) : LoopbackStep → LoopbackAnswer × Loopback
  | write bytes => l.write bytes
  | send payload limit =>
    if limit = some .zero then (.refused (.fault Loopback.zeroLimit), l) else l.send payload
  | read count =>
    let (answer, inbound) := Loopback.take count l.inbound (l.isEnded || l.isShut)
    (answer, { l with inbound })
  | readMessage limit =>
    if limit = some .zero then (.refused (.fault Loopback.zeroLimit), l) else l.readMessage
  | farWrite bytes => (.done, { l with inbound := l.inbound ++ bytes })
  | farRead count =>
    let (answer, outbound) := Loopback.take count l.outbound l.isShut
    (answer, { l with outbound })
  | farEnd => (.done, { l with isEnded := true })
  | shut => (.done, { l with isShut := true })
  | address => (.yes, l)
  | setTimeout limit =>
    if limit = some .zero then (.setting Loopback.zeroLimit, l) else (.done, l)

end MotionLink
