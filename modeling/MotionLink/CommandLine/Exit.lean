import MotionLink.Link.Error

/-!
# Exit codes

A command that fails says why and ends with a code that tells the kinds of failure apart.

## Main definitions

* `ExitCode` — the codes
* `Failure` — a code and what is said
* `Failure.ofFault`, `Failure.ofLink` and others — the failure behind a cause
-/

namespace MotionLink

namespace ExitCode

/-- All went well. -/
def success : Nat := 0

/-- The controller refused, or ended the exchange. -/
def failure : Nat := 1

/-- The command line could not be understood. -/
def misuse : Nat := 2

/-- The controller could not be reached. -/
def transport : Nat := 3

/-- A command or a payload breaks a rule. -/
def invalidData : Nat := 60

/-- A value on the command line makes no sense. -/
def usage : Nat := 64

/-- What had to be printed could not be. -/
def aborted : Nat := 101

/-- Something took too long. -/
def timeout : Nat := 124

/-- Anything else. -/
def internal : Nat := 125

/-- The code of a kind of fault. -/
def ofFaultKind : FaultKind → Nat
  | .timedOut | .wouldBlock => timeout
  | .connectionRefused | .connectionReset | .connectionAborted | .hostUnreachable
  | .networkUnreachable => transport
  | .brokenPipe => failure
  | _ => internal

end ExitCode

/-- Why a command fails. -/
structure Failure where
  code : Nat
  message : String
deriving DecidableEq

namespace Failure

/-- A failure of what was being done. -/
def during (context : String) (code : Nat) (message : String) : Failure :=
  ⟨code, context ++ ": " ++ message⟩

/-- A fault of a stream. -/
def ofFault (context : String) (f : Fault) : Failure :=
  during context (ExitCode.ofFaultKind f.kind) f.message

/-- A stream could not be had, or failed. -/
def ofTransport (context : String) (e : TransportError) : Failure :=
  match e with
  | .refused _ => during context ExitCode.transport e.message
  | .connect _ f =>
    during context (if f.kind = .timedOut then ExitCode.timeout else ExitCode.transport) e.message
  | .resolve _ _ => during context ExitCode.usage e.message
  | .fault f => ofFault context f

/-- A message could not be written or read. -/
def ofFrame (context : String) (e : FrameError) : Failure :=
  match e with
  | .fault f => ofFault context f
  | .closed => during context ExitCode.failure e.message
  | .terminatorInPayload _ | .payloadTooLarge _ _ => during context ExitCode.invalidData e.message

/-- A command breaks a rule. -/
def ofCommand (context : String) (e : CommandError) : Failure :=
  during context ExitCode.invalidData e.message

/-- An exchange failed. -/
def ofLink (context : String) (e : LinkError) : Failure :=
  match e with
  | .transport e => ofTransport context e
  | .frame e => ofFrame context e
  | .command e => ofCommand context e
  | .timeout _ => during context ExitCode.timeout e.message
  | .closed | .reset _ | .broken => during context ExitCode.failure e.message
  | .stopped => during context ExitCode.internal e.message

/-- A duration makes no sense. -/
def ofDuration (e : DurationError) : Failure := ⟨ExitCode.usage, e.message⟩

end Failure

end MotionLink
