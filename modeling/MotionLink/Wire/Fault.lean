/-!
# Stream faults

What can go wrong while connecting, reading, writing or flushing.

## Main definitions

* `FaultKind` — the kinds of fault that are told apart
* `Fault` — a fault of some kind, with a wording of its own or that of its kind
* `Fault.message` — the wording shown to the operator
-/

namespace MotionLink

/-- The kinds of fault that are told apart. -/
inductive FaultKind where
  | wouldBlock
  | timedOut
  | connectionReset
  | connectionAborted
  | connectionRefused
  | brokenPipe
  | unexpectedEnd
  | permissionDenied
  | notConnected
  | notFound
  | addressNotAvailable
  | hostUnreachable
  | networkUnreachable
  | invalidInput
  | invalidData
  | storageFull
  | interrupted
  | other
deriving DecidableEq

namespace FaultKind

/-- The wording of a fault that brings none of its own. -/
def message : FaultKind → String
  | wouldBlock => "operation would block"
  | timedOut => "timed out"
  | connectionReset => "connection reset"
  | connectionAborted => "connection aborted"
  | connectionRefused => "connection refused"
  | brokenPipe => "broken pipe"
  | unexpectedEnd => "unexpected end of file"
  | permissionDenied => "permission denied"
  | notConnected => "not connected"
  | notFound => "entity not found"
  | addressNotAvailable => "address not available"
  | hostUnreachable => "host unreachable"
  | networkUnreachable => "network unreachable"
  | invalidInput => "invalid input parameter"
  | invalidData => "invalid data"
  | storageFull => "no storage space"
  | interrupted => "operation interrupted"
  | other => "other error"

end FaultKind

/-- A fault of some kind. -/
structure Fault where
  kind : FaultKind
  /-- a wording of its own, if it brings one -/
  wording : Option String
deriving DecidableEq

namespace Fault

/-- A fault worded by its kind. -/
def ofKind (kind : FaultKind) : Fault := ⟨kind, none⟩

/-- The wording shown to the operator. -/
def message (f : Fault) : String := f.wording.getD f.kind.message

/-- The operation was only interrupted and may be tried again at once. -/
def isInterruption (f : Fault) : Bool := f.kind == .interrupted

end Fault

end MotionLink
