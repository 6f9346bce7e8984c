import Std.Async.DNS
import Std.Async.Select
import Std.Async.TCP
import Std.Async.Timer
import MotionLink.Number.Duration
import MotionLink.Wire.Stream

/-!
# Sockets

The streams of the machine that the program runs on. What they do is told in the words of the
library: bytes that arrive, and faults.

## Main definitions

* `Fault.ofSystem` — an error of the system as a fault
* `Socket.connect`, `Socket.receive`, `Socket.send` — what is done with a stream
-/

namespace MotionLink

open Std.Async Std.Net

namespace FaultKind

/-- The kind of fault behind a number of the system. -/
def ofNumber : Nat → FaultKind
  | 4 => interrupted
  | 11 => wouldBlock
  | 13 => permissionDenied
  | 22 => invalidInput
  | 28 => storageFull
  | 32 => brokenPipe
  | 99 => addressNotAvailable
  | 101 => networkUnreachable
  | 103 => connectionAborted
  | 104 => connectionReset
  | 107 => notConnected
  | 110 => timedOut
  | 111 => connectionRefused
  | 113 => hostUnreachable
  | _ => other

end FaultKind

namespace Fault

/-- The number and the wording of an error, if it has them. -/
def numbered? : IO.Error → Option (UInt32 × String)
  | .otherError n s | .resourceBusy n s | .resourceVanished n s | .unsupportedOperation n s
  | .hardwareFault n s | .unsatisfiedConstraints n s | .illegalOperation n s
  | .protocolError n s | .timeExpired n s => some (n, s)
  | .alreadyExists _ n s | .invalidArgument _ n s | .permissionDenied _ n s
  | .resourceExhausted _ n s | .inappropriateType _ n s | .noSuchThing _ n s => some (n, s)
  | .interrupted _ n s | .noFileOrDirectory _ n s => some (n, s)
  | _ => none

/-- The number without its sign: some parts of the system count downwards from zero. -/
def magnitude (n : UInt32) : Nat :=
  if n.toNat < 2147483648 then n.toNat else 4294967296 - n.toNat

/-- An error of the system as a fault. -/
def ofSystem (e : IO.Error) : Fault :=
  match numbered? e with
  | some (n, s) => ⟨.ofNumber (magnitude n), some s!"{s.capitalize} (os error {magnitude n})"⟩
  | none => ⟨.other, some e.toString⟩

/-- The fault of a name that could not be looked up. -/
def ofLookup (e : IO.Error) : Fault :=
  let reason := match numbered? e with
    | some (_, s) => s
    | none => e.toString
  ⟨.other, some s!"failed to lookup address information: {reason}"⟩

/-- A connection took too long. -/
def lateConnection : Fault := ⟨.timedOut, some "connection timed out"⟩

/-- Nothing came in time. -/
def silence : Fault := ⟨.wouldBlock, some "Resource temporarily unavailable (os error 11)"⟩

/-- A name stands for no address. -/
def noAddress : Fault := ⟨.addressNotAvailable, some "no socket addresses resolved"⟩

end Fault

/-- A stream to another machine. -/
abbrev Socket := TCP.Socket.Client

namespace Socket

/-- What an action yields, or the fault it ends with. -/
def attempt {α : Type} (action : IO α) (faultOf : IO.Error → Fault := Fault.ofSystem) :
    IO (Except Fault α) := do
  try
    return .ok (← action)
  catch e =>
    return .error (faultOf e)

/-- A span of time in milliseconds, at least one and at most some weeks. -/
def milliseconds (d : Duration) : Nat := min (max (d.nanoseconds / 1000000) 1) 2147483648

/-- Let some time pass. -/
def pause (d : Duration) : IO Unit := (Std.Async.sleep (.ofNat (milliseconds d))).block

/-- What an action yields within a limit; the fault `late` when it takes longer. -/
def within {α : Type} (limit : Duration) (late : Fault) (action : Async α) :
    IO (Except Fault α) := do
  let alarm : Async (Option α) := do
    Std.Async.sleep (.ofNat (milliseconds limit))
    return none
  let result ← attempt (Async.race (some <$> action) alarm).block
  return result.bind fun
    | some a => .ok a
    | none => .error late

/-- The addresses that a host and a port stand for. -/
def lookup (host : String) (port : Nat) : IO (Except Fault (List SocketAddress)) := do
  let found ← attempt (DNS.getAddrInfo host (toString port)).block .ofLookup
  return found.bind fun addresses =>
    if addresses.isEmpty then .error .noAddress
    else .ok (addresses.toList.eraseDups.map fun
      | .v4 a => .v4 ⟨a, port.toUInt16⟩
      | .v6 a => .v6 ⟨a, port.toUInt16⟩)

/-- A stream to one address. -/
def connectOne (timeout : Duration) (address : SocketAddress) : IO (Except Fault Socket) := do
  let socket ← TCP.Socket.Client.mk
  let made ← within timeout .lateConnection (socket.connect address)
  match made with
  | .ok () =>
    socket.noDelay
    return .ok socket
  | .error f => return .error f

/-- A stream to the first address that takes one; otherwise the fault of the last address. -/
def connect (timeout : Duration) : Fault → List SocketAddress → IO (Except Fault Socket)
  | f, [] => return .error f
  | _, address :: rest => do
    match ← connectOne timeout address with
    | .ok socket => return .ok socket
    | .error f => connect timeout f rest

/-- What the next read of at most `size` bytes brings. Nothing at all means the end. -/
def receive (socket : Socket) (size : Nat) (limit : Option Duration) : IO Arrival := do
  let waiting := socket.recv? size.toUInt64
  let result ← match limit with
    | some limit => within limit .silence waiting
    | none => attempt waiting.block
  match result with
  | .ok (some bytes) => return .bytes bytes.toList
  | .ok none => return .bytes []
  | .error f => return .fault f

/-- Send bytes; the fault, if that failed. -/
def send (socket : Socket) (bytes : Bytes) : IO (Option Fault) := do
  match ← attempt (TCP.Socket.Client.send socket ⟨bytes.toArray⟩).block with
  | .ok () => return none
  | .error f => return some f

end Socket

end MotionLink
