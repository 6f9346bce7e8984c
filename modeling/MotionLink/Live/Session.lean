import MotionLink.CommandLine.Program
import MotionLink.Link.Controller
import MotionLink.Live.Socket

/-!
# Carrying out a command line on this machine

A request is carried out by asking again and again what follows from the bytes that have come so
far: what it then wants to send is sent, and when it waits for more, more is read. What is printed
in the end is what follows from everything that came. The log is shown while it comes.

## Main definitions

* `Live.converse` — one exchange over a socket
* `Live.follow` — follow the log over sockets
* `Live.run` — carry out what a command line asks for
-/

namespace MotionLink.Live

/-- The host without the brackets that an address puts around it. -/
def bareHost (host : String) : String :=
  if host.startsWith "[" && host.endsWith "]" then String.ofList (host.toList.drop 1).dropLast
  else host

/-- The network as it was met: no stream could be had. -/
inductive Refusal where
  | lookup (fault : Fault)
  | connect (fault : Fault)

/-- A refusal as a network. -/
def Refusal.network : Refusal → Network
  | lookup f => .unresolved f
  | connect f => .unreachable f

/-- A stream to a host. -/
def connect (host : String) (port : Nat) (timeout : Duration) : IO (Except Refusal Socket) := do
  match ← Socket.lookup (bareHost host) port with
  | .error f => return .error (.lookup f)
  | .ok addresses =>
    let made ← Socket.connect timeout .noAddress addresses
    return made.mapError .connect

/-- One exchange over a socket, as the stream that it met. `met` is what has been met so far, and
`sent` counts the bytes sent so far. -/
partial def converse (socket : Socket) (settings : ChannelSettings) (intent : Intent)
    (met : Duplex) (sent : Nat) : IO Duplex := do
  -- If the exchange uses up the silence at the end, it waits for more than has come.
  let supposed := { met with reads := met.reads ++ [ControllerScript.silence] }
  let (_, channel) := Surroundings.exchange settings intent supposed
  let owed := channel.written.drop sent
  if !owed.isEmpty then
    match ← socket.send owed with
    | none => converse socket settings intent met (sent + owed.length)
    | some f => converse socket settings intent { met with writes := [.fault f] } sent
  else if channel.reader.source.isEmpty then
    let arrival ← socket.receive FrameReader.readSize settings.readTimeout
    converse socket settings intent { met with reads := met.reads ++ [arrival] } sent
  else return met

/-- The network as a request meets it. Nothing is looked for when nothing is to be sent. -/
def meet (s : Surroundings) (endpoint : Endpoint) (o : RequestOptions) (id : Option String)
    (c : ConnectOptions) : IO Network := do
  match PreparedRequest.ofOptions o (id.getD s.freshId), c.limits with
  | .ok p, .ok (timeout, responseTimeout) =>
    if c.dryRun then return s.network
    match ← connect endpoint.host endpoint.commandPort timeout with
    | .error refusal => return refusal.network
    | .ok socket =>
      let stream ← converse socket (c.channel p.unit responseTimeout) p.intent ⟨[], [], []⟩ 0
      return .serving [stream]
  | _, _ => return s.network

/-- Write to the output; the fault, if that failed. -/
def writeOut (bytes : ByteArray) : IO (Option Fault) := do
  if bytes.isEmpty then return none
  let result ← Socket.attempt do
    let output ← IO.getStdout
    output.write bytes
    output.flush
  match result with
  | .ok () => return none
  | .error f => return some f

/-- Carry out a command line and print what it has to print. An output that fails is one of the
things the run finds around it. -/
def conclude (s : Surroundings) (i : Invocation) : IO Conclusion := do
  let conclusion := i.run s
  match ← writeOut ⟨conclusion.printed.toArray⟩ with
  | none => return conclusion
  | some f => return i.run { s with output := .ofCapacity (some 0) f }

/-- A run of the follower that shows the log. -/
abbrev LogRun := Run (Monitor Terminal)

/-- Show what waits to be shown. A fault of the output stops the run. -/
def drain (run : LogRun) : IO LogRun := do
  let monitor := run.listener
  let fault ← writeOut ⟨monitor.screen.outlet.written⟩
  let monitor := { monitor with screen.outlet.written := #[], fault := monitor.fault.or fault }
  return { run with listener := monitor, journal := [] }.stopIf fault.isSome

/-- Listens for the log. -/
def ear : Listener (Monitor Terminal) := Monitor.listener Terminal.screen

/-- Read the log until the stream ends or fails, or a stop is asked for. -/
partial def readLog (socket : Socket) (size : Nat) (run : LogRun) : IO LogRun := do
  if run.stopped then return run
  match ← socket.receive size none with
  | .bytes [] => return run
  | .fault f => if f.isInterruption then readLog socket size run else return run
  | .bytes chunk => readLog socket size (← drain (run.deliver ear chunk))

/-- Say hello and read the log. -/
def session (socket : Socket) (settings : FollowSettings) (run : LogRun) : IO LogRun := do
  match ← socket.send (settings.hello.getD []) with
  | some _ => return run
  | none => readLog socket settings.chunkSize run

/-- Connect again and again until a stop is asked for. -/
partial def follow (endpoint : Endpoint) (settings : FollowSettings) (delay timeout : Duration)
    (run : LogRun) : IO LogRun := do
  if run.stopped then return run
  let run ← drain (run.enter ear .connecting)
  let run ← match ← connect endpoint.host endpoint.logPort timeout with
    | .error _ => pure run
    | .ok socket => session socket settings (run.enter ear .connected)
  let run ← drain (run.enter ear .disconnected)
  if run.stopped then return run
  Socket.pause delay
  follow endpoint settings delay timeout run

/-- Follow the log. -/
def monitor (s : Surroundings) (form : OutputForm) (endpoint : Endpoint) (o : MonitorOptions) :
    IO Conclusion := do
  match Surroundings.monitorLimits o with
  | .error f => return .failed [] f
  | .ok (delay, timeout) =>
    let follower := s.follower form o
    let run ← follow endpoint follower.settings delay timeout follower.run
    return ⟨Surroundings.endingOf run.listener, [], []⟩

/-- Carry out what a command line asks for. -/
def run (s : Surroundings) (i : Invocation) : IO Conclusion := do
  match i.task with
  | .request options id c =>
    let network ← meet s i.endpoint options id c
    conclude { s with network } i
  | .monitor options => monitor s (i.form.getD (.standard s.terminal)) i.endpoint options
  | _ => conclude s i

end MotionLink.Live
