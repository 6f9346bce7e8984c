import MotionLink.Link.Channel

/-!
# A rehearsed controller

A controller that follows a script: it greets, waits for a request, answers, sends its log, and
either falls silent or ends the stream.

## Main definitions

* `ControllerScript` — what the controller does on one connection
* `ControllerScript.stream` — the connection as its client meets it
* `ControllerScript.received` — what the controller reads of what its client sends
-/

namespace MotionLink

/-- What a controller does on one connection. -/
structure ControllerScript where
  greeting : Bytes
  /-- waits for a request before it goes on -/
  awaitsRequest : Bool
  /-- then waits for so many bytes -/
  helloLength : Nat
  reply : Bytes
  log : Bytes
  /-- falls silent at the end instead of ending the stream -/
  holds : Bool

namespace ControllerScript

/-- A read finds nothing and has waited long enough. -/
def silence : Arrival := .fault (.ofKind .wouldBlock)

/-- Bytes on the way to the client, if there are any. -/
def arrivals (bytes : Bytes) : Source := if bytes.isEmpty then [] else [.bytes bytes]

/-- The greeting says something. -/
def greets (script : ControllerScript) : Bool :=
  match (FrameReader.ofSource Frame.defaultLimit (arrivals script.greeting)).nextReply with
  | (.ok _, _) => true
  | (.error _, _) => false

/-- What the client reads. A client that waits for a greeting, from a controller that waits for a
request, waits in vain. -/
def reads (script : ControllerScript) (awaitsGreeting : Bool) : Source :=
  if awaitsGreeting && script.awaitsRequest && !script.greets then
    -- Both sides wait for the other one to speak.
    arrivals script.greeting ++ [silence]
  else
    arrivals (script.greeting ++ script.reply ++ script.log) ++
      (if script.holds then [silence] else [])

/-- The connection as its client meets it. -/
def stream (script : ControllerScript) (awaitsGreeting : Bool) : Duplex :=
  ⟨script.reads awaitsGreeting, [], []⟩

/-- A request up to its terminator, and the bytes behind it. -/
def splitRequest (sent : Bytes) : Bytes × Bytes :=
  match sent.dropWhile (· != Frame.terminator) with
  | [] => (sent, [])
  | t :: rest => (sent.takeWhile (· != Frame.terminator) ++ [t], rest)

/-- What the controller reads of what its client sends. -/
def received (script : ControllerScript) (sent : Bytes) : Bytes :=
  let (request, rest) := if script.awaitsRequest then splitRequest sent else ([], sent)
  request ++ rest.take script.helloLength

end ControllerScript

end MotionLink
