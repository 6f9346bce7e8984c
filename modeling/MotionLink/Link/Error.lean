import MotionLink.Command.Error
import MotionLink.Number.Duration
import MotionLink.Wire.Frame

/-!
# Why a link fails

## Main definitions

* `TransportError` — a stream could not be had, or failed
* `LinkError` — an exchange with the controller failed
* `LinkError.ofFault`, `LinkError.ofFrameError` — the cause behind a fault or a framing error
-/

namespace MotionLink

/-- A stream could not be had, or failed. -/
inductive TransportError where
  /-- nothing listens there -/
  | refused (address : String)
  | connect (address : String) (fault : Fault)
  /-- there is no such address -/
  | resolve (address : String) (fault : Fault)
  | fault (fault : Fault)
deriving DecidableEq

namespace TransportError

/-- The wording shown to the operator. -/
def message : TransportError → String
  | refused address => s!"connection refused by {address}"
  | connect address f => s!"failed to connect to {address}: {f.message}"
  | resolve address f => s!"failed to resolve {address}: {f.message}"
  | fault f => s!"transport I/O error: {f.message}"

/-- The cause behind a connection that failed. -/
def ofConnectFault (address : String) (f : Fault) : TransportError :=
  if f.kind = .connectionRefused then refused address else connect address f

end TransportError

/-- An exchange with the controller failed. -/
inductive LinkError where
  | transport (error : TransportError)
  | frame (error : FrameError)
  /-- the command was refused before anything was sent -/
  | command (error : CommandError)
  /-- the controller ended the stream -/
  | closed
  | reset (fault : Fault)
  /-- no reply came in time -/
  | timeout (limit : Duration)
  /-- an earlier exchange failed, and a late reply may still come -/
  | broken
  /-- a stop was asked for -/
  | stopped
deriving DecidableEq

namespace LinkError

/-- The wording shown to the operator. -/
def message : LinkError → String
  | transport e => "transport error: " ++ e.message
  | frame e => "frame error: " ++ e.message
  | command e => "invalid command: " ++ e.message
  | closed => "connection closed by controller"
  | reset f => "connection reset: " ++ f.message
  | timeout limit => "request timed out after " ++ limit.text
  | broken => "command channel is broken by an earlier fault; reconnect"
  | stopped => "stopped"

/-- The name of a cause in logs. -/
def className : LinkError → String
  | transport (.refused _) => "connection_refused"
  | transport _ => "transport"
  | frame _ => "frame"
  | command _ => "command"
  | closed => "connection_closed"
  | reset _ => "connection_reset"
  | timeout _ => "timeout"
  | broken => "broken"
  | stopped => "stopped"

/-- The cause behind a fault of a stream; `limit` is how long it may be silent. -/
def ofFault (limit : Option Duration) (f : Fault) : LinkError :=
  match f.kind with
  | .wouldBlock | .timedOut => timeout (limit.getD .zero)
  | .connectionReset | .connectionAborted | .brokenPipe => reset f
  | .unexpectedEnd => closed
  | _ => transport (.fault f)

/-- The cause behind a framing error. -/
def ofFrameError (limit : Option Duration) : FrameError → LinkError
  | .closed => closed
  | .fault f => ofFault limit f
  | .terminatorInPayload offset => frame (.terminatorInPayload offset)
  | .payloadTooLarge size limit => frame (.payloadTooLarge size limit)

end LinkError

end MotionLink
