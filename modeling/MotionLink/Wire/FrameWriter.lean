import MotionLink.Wire.Frame
import MotionLink.Wire.Stream

/-!
# Writing frames

## Main definitions

* `FrameWriter` — a sink with a limit on the size of a message
* `FrameWriter.send` — write one message whole, and flush
-/

namespace MotionLink

/-- A sink for messages. -/
structure FrameWriter where
  limit : Nat
  sink : Sink

namespace FrameWriter

/-- The wire form of a payload within the limit. -/
def encode (writer : FrameWriter) (payload : Bytes) : Except FrameError Bytes :=
  if writer.limit < payload.length then .error (.payloadTooLarge payload.length writer.limit)
  else Frame.encode payload

/-- Write a message whole and flush; the error, if that failed. A refused payload touches no
stream, and a stream that accepts nothing counts as closed. -/
def send (writer : FrameWriter) (payload : Bytes) : Option FrameError × FrameWriter :=
  match writer.encode payload with
  | .error e => (some e, writer)
  | .ok wire =>
    match writer.sink.transmit wire with
    -- A controller that takes nothing any more has gone away.
    | (some .stalled, sink) => (some .closed, { writer with sink })
    | (some (.fault f), sink) => (some (.fault f), { writer with sink })
    | (none, sink) =>
      let (fault, sink) := sink.flushPatiently
      (fault.map .fault, { writer with sink })

/-- Write a message. -/
def sendFrame (writer : FrameWriter) (frame : Frame) : Option FrameError × FrameWriter :=
  writer.send frame.payload

end FrameWriter

end MotionLink
