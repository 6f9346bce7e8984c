import MotionLink.Command.Encode
import MotionLink.Command.Reply
import MotionLink.Link.Error
import MotionLink.Wire.FrameReader
import MotionLink.Wire.FrameWriter

/-!
# The command channel

One request is under way at a time, and each is answered by one reply. Once an exchange has failed
a late reply may still come, so the channel is broken from then on and refuses every request
without touching the stream.

## Main definitions

* `Channel` — the state between two exchanges
* `Channel.ofParts`, `Channel.greeted` — a channel over a stream, with the greeting of the
  controller
* `Channel.request`, `Channel.send` — one exchange
-/

namespace MotionLink

/-- How a channel is used. -/
structure ChannelSettings where
  /-- the largest payload, in both directions -/
  limit : Nat
  /-- how long a reply may take -/
  readTimeout : Option Duration
  /-- the controller says first how it is -/
  awaitsGreeting : Bool
  /-- the unit of the angles in requests -/
  unit : AngleUnit

/-- The state of a channel between two exchanges. -/
structure Channel where
  reader : FrameReader
  writer : FrameWriter
  unit : AngleUnit
  readTimeout : Option Duration
  /-- what the controller said first -/
  greeting : Option Reply
  /-- an exchange has failed -/
  isBroken : Bool

namespace FrameReader

/-- The next reply, or why there is none. Blank messages are line ends between two others, and
are skipped. -/
def nextReply (reader : FrameReader) : Except FrameError Reply × FrameReader :=
  match _h : reader.next with
  | (.error e, behind) => (.error e, behind)
  | (.ok frame, behind) =>
    if Text.isAllBlank frame.text.toList then nextReply behind
    else (.ok (.ofText frame.text), behind)
termination_by reader.size
decreasing_by exact size_lt_of_next ‹_›

end FrameReader

namespace Channel

/-- What an exchange comes to: a reply, or why there is none. -/
abbrev Answer := Except LinkError Reply

/-- The cause behind a framing error; the channel is broken from then on. -/
def fail (channel : Channel) (e : FrameError) : Answer × Channel :=
  (.error (.ofFrameError channel.readTimeout e), { channel with isBroken := true })

/-- Wait for a reply. -/
def awaitReply (channel : Channel) : Answer × Channel :=
  match channel.reader.nextReply with
  | (.ok reply, reader) => (.ok reply, { channel with reader })
  | (.error e, reader) => fail { channel with reader } e

/-- Send a payload and wait for the reply. -/
def request (channel : Channel) (payload : Bytes) : Answer × Channel :=
  if channel.isBroken then (.error .broken, channel)
  else
    match channel.writer.send payload with
    -- Part of the request may be on its way, so no later reply can be told from its own.
    | (some e, writer) => fail { channel with writer } e
    | (none, writer) => awaitReply { channel with writer }

/-- Send what an operator asks for and wait for the reply. A request that breaks a rule is refused
before the stream is touched. -/
def send (channel : Channel) (intent : Intent) : Answer × Channel :=
  match intent.encode channel.unit with
  | .error e => (.error (.command e), channel)
  | .ok payload => channel.request (Utf8.octets payload)

/-- A channel over a reader and a writer before any exchange. -/
def fresh (settings : ChannelSettings) (reader : FrameReader) (writer : FrameWriter) : Channel where
  reader := reader
  writer := writer
  unit := settings.unit
  readTimeout := settings.readTimeout
  greeting := none
  isBroken := false

/-- A channel over a reader and a writer: first the greeting, if one is awaited; also the channel
as it is when none comes. -/
def ofParts (settings : ChannelSettings) (reader : FrameReader) (writer : FrameWriter) :
    Except LinkError Unit × Channel :=
  let channel := fresh settings reader writer
  if settings.awaitsGreeting then
    match channel.awaitReply with
    | (.ok reply, channel) => (.ok (), { channel with greeting := some reply })
    | (.error e, channel) => (.error e, channel)
  else (.ok (), channel)

/-- A channel over a stream that nothing has been read from or written to. -/
def greeted (settings : ChannelSettings) (stream : Duplex) : Except LinkError Unit × Channel :=
  ofParts settings (.ofSource settings.limit stream.reads) ⟨settings.limit, stream.sink⟩

/-- What has been written to the stream. -/
def written (channel : Channel) : Bytes := channel.writer.sink.written

end Channel

/-- One exchange: a request of the operator, or a payload as it is. -/
inductive Exchange where
  | send (intent : Intent)
  | request (payload : Bytes)

/-- Carry out one exchange. -/
def Exchange.run (channel : Channel) : Exchange → Channel.Answer × Channel
  | send intent => channel.send intent
  | request payload => channel.request payload

end MotionLink
