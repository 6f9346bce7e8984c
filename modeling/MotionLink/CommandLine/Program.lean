import MotionLink.CommandLine.Report
import MotionLink.Link.Channel
import MotionLink.Link.Network
import MotionLink.Terminal.Monitor

/-!
# Carrying out a command line

## Main definitions

* `Surroundings` — what a run finds around it
* `Conclusion` — how a run ends
* `Invocation.run` — carry out what a command line asks for
-/

namespace MotionLink

/-- What a run finds around it. -/
structure Surroundings where
  network : Network
  output : Outlet
  /-- the output is a terminal -/
  terminal : Bool
  /-- an id for a request that brings none -/
  freshId : String

/-- What is to be printed. -/
structure Printout where
  text : String
  /-- it does not matter whether it can be printed -/
  optional : Bool

/-- How a run ends. -/
inductive Ending where
  | code (code : Nat)
  | failure (failure : Failure)
  /-- what had to be printed could not be -/
  | aborted

/-- The code that a run ends with. -/
def Ending.exitCode : Ending → Nat
  | code n => n
  | failure f => f.code
  | aborted => ExitCode.aborted

/-- How a run ends, what was printed, and what each connection was sent. -/
structure Conclusion where
  ending : Ending
  printed : Bytes
  sent : List Bytes

namespace Conclusion

/-- Nothing was printed. -/
def failed (sent : List Bytes) (f : Failure) : Conclusion := ⟨.failure f, [], sent⟩

/-- Print and end with a code. -/
def printing (output : Outlet) (sent : List Bytes) (printout : Printout) (code : Nat) :
    Conclusion :=
  let output := output.put (Utf8.octets printout.text)
  ⟨if output.failed && !printout.optional then .aborted else .code code, output.written.toList, sent⟩

end Conclusion

namespace SentReport

/-- What is printed about a command. -/
def printout (form : OutputForm) (r : SentReport) : Printout := ⟨r.write form, form == .raw⟩

end SentReport

namespace MoveOptions

/-- The motion that the options ask for. -/
def toMotion (o : MoveOptions) (id : String) : Except Failure Motion := do
  let points ← o.points.mapM Point.read
  pure {
    family := o.family
    blended := o.blended
    joint := Motion.startsWithJoints points
    points
    tool := o.tool.getD ""
    base := o.base.getD ""
    speed := o.speed
    id }

/-- The unit of the angles. -/
def unit (o : MoveOptions) : AngleUnit := if o.degrees then .degrees else .radians

end MoveOptions

namespace RequestOptions

/-- The request that the options ask for. -/
def toIntent (o : RequestOptions) (id : String) : Except Failure Intent :=
  match o with
  | move m => (m.toMotion id).map .motion
  | output pin state => .ok (.output ⟨pin, state, id⟩)
  | call program => .ok (.program ⟨program, id⟩)

/-- The unit of the angles. -/
def unit : RequestOptions → AngleUnit
  | move m => m.unit
  | _ => .radians

end RequestOptions

/-- A request with its payload. -/
structure PreparedRequest where
  intent : Intent
  payload : String
  unit : AngleUnit

namespace PreparedRequest

/-- The request that the options ask for, checked and written. -/
def ofOptions (o : RequestOptions) (id : String) : Except Failure PreparedRequest := do
  let intent ← o.toIntent id
  match intent.encode o.unit with
  | .error e => .error (.ofCommand "invalid command" e)
  | .ok payload => pure ⟨intent, payload, o.unit⟩

/-- The report on the request. -/
def report (p : PreparedRequest) (reply : Option Reply) : SentReport :=
  ⟨p.intent.id, p.payload, reply⟩

end PreparedRequest

namespace ConnectOptions

/-- How long connecting and the reply may take. -/
def limits (c : ConnectOptions) : Except Failure (Duration × Duration) := do
  let timeout ← (Duration.read c.timeout).mapError .ofDuration
  let responseTimeout ← (Duration.read c.responseTimeout).mapError .ofDuration
  pure (timeout, responseTimeout)

/-- How the channel is used. -/
def channel (c : ConnectOptions) (unit : AngleUnit) (responseTimeout : Duration) :
    ChannelSettings :=
  ⟨Frame.defaultLimit, some responseTimeout, !c.noGreeting, unit⟩

end ConnectOptions

namespace Surroundings

/-- One exchange over a stream: the reply, and the channel behind it. -/
def exchange (settings : ChannelSettings) (intent : Intent) (stream : Duplex) :
    Except Failure Reply × Channel :=
  match Channel.greeted settings stream with
  | (.error e, channel) => (.error (.ofLink "connect failed" e), channel)
  | (.ok (), channel) =>
    let (answer, channel) := channel.send intent
    (answer.mapError (.ofLink "send failed"), channel)

/-- The code for a reply. -/
def codeFor (reply : Reply) : Nat := if reply.isError then ExitCode.failure else ExitCode.success

/-- Send a request and report the reply. -/
def sendRequest (s : Surroundings) (form : OutputForm) (address : String) (c : ConnectOptions)
    (p : PreparedRequest) : Conclusion :=
  match c.limits with
  | .error f => .failed [] f
  | .ok (timeout, responseTimeout) =>
    match s.network.connect address (some timeout) with
    | .error e => .failed [] (.ofTransport "connect failed" e)
    | .ok stream =>
      match exchange (c.channel p.unit responseTimeout) p.intent stream with
      | (.error f, channel) => .failed [channel.written] f
      | (.ok reply, channel) =>
        .printing s.output [channel.written] ((p.report (some reply)).printout form)
          (codeFor reply)

/-- Carry out a request, or only show it. -/
def request (s : Surroundings) (form : OutputForm) (endpoint : Endpoint) (o : RequestOptions)
    (id : Option String) (c : ConnectOptions) : Conclusion :=
  match PreparedRequest.ofOptions o (id.getD s.freshId) with
  | .error f => .failed [] f
  | .ok p =>
    -- The limits are not looked at when nothing is sent.
    if c.dryRun then .printing s.output [] ((p.report none).printout form) ExitCode.success
    else s.sendRequest form endpoint.commandAddress c p

/-- The form in which the log is shown. -/
def display (form : OutputForm) (noColor terminal : Bool) : Display :=
  match form with
  | .json => .jsonLines none
  | .raw => .styled false
  | .table | .pretty => .styled (Styled.colorsWanted noColor terminal)

/-- How long to wait between two connections and for one of them. -/
def monitorLimits (o : MonitorOptions) : Except Failure (Duration × Duration) := do
  let delay ← (Duration.read o.reconnectDelay).mapError .ofDuration
  let timeout ← (Duration.read o.timeout).mapError .ofDuration
  pure (delay, timeout)

/-- A follower that shows the log. -/
def follower (s : Surroundings) (form : OutputForm) (o : MonitorOptions) :
    Follower (Monitor Terminal) where
  settings := ⟨o.hello.map Utf8.octets, FollowSettings.defaultChunkSize⟩
  ear := Monitor.listener Terminal.screen
  attempts := s.network.attempts
  run := .start (.start o.count ⟨display form o.noColor s.terminal, s.output⟩) false

/-- How following the log ends. -/
def endingOf (monitor : Monitor Terminal) : Ending :=
  match monitor.fault with
  | some f => .failure (.ofFault "write to stdout failed" f)
  | none => .code ExitCode.success

/-- Follow the log. -/
def monitor (s : Surroundings) (form : OutputForm) (o : MonitorOptions) : Conclusion :=
  match monitorLimits o with
  | .error f => .failed [] f
  | .ok _ =>
    let follower := (s.follower form o).follow
    let monitor := follower.run.listener
    ⟨endingOf monitor, monitor.screen.outlet.written.toList,
      Activity.sentPerStream follower.journal⟩

/-- Read a command back. -/
def decode (s : Surroundings) (form : OutputForm) (payload : String) : Conclusion :=
  match Decoded.ofPayload payload with
  | .error e => .failed [] (.ofCommand "decode failed" e)
  | .ok d => .printing s.output [] ⟨d.report form, false⟩ ExitCode.success

end Surroundings

namespace Invocation

/-- Carry out what a command line asks for. -/
def run (s : Surroundings) (i : Invocation) : Conclusion :=
  let form := i.form.getD (.standard s.terminal)
  match i.task with
  | .request options id connect => s.request form i.endpoint options id connect
  | .monitor options => s.monitor form options
  | .decode payload => s.decode form payload
  | .version extended =>
    .printing s.output [] ⟨Build.this.report form extended, false⟩ ExitCode.success

end Invocation

end MotionLink
