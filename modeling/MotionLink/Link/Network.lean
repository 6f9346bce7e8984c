import MotionLink.Link.Address
import MotionLink.Link.Error
import MotionLink.Log.Follower

/-!
# Connecting

## Main definitions

* `Network` — what lies behind the addresses
* `Network.connect` — the stream to an address, or why there is none
-/

namespace MotionLink

/-- What lies behind the addresses. -/
inductive Network where
  /-- the name of the host is not known -/
  | unresolved (fault : Fault)
  /-- nothing can be reached -/
  | unreachable (fault : Fault)
  /-- a controller answers, once for each of these streams -/
  | serving (streams : List Duplex)

namespace Network

/-- A machine without any network. -/
def absent : Network := unreachable ⟨.networkUnreachable, some "Network is unreachable (os error 101)"⟩

/-- Waiting no time at all for a connection makes no sense. -/
def zeroTimeout : Fault := ⟨.invalidInput, some "cannot set a 0 duration timeout"⟩

/-- Why an address cannot be found: it is none, or its host is not known. -/
def lookupFault? (network : Network) (address : String) : Option Fault :=
  match Address.fault? address, network with
  | some f, _ => some f
  | none, unresolved f => some f
  | none, _ => none

/-- The next stream, or why there is none. -/
def nextStream : Network → Except Fault Duplex
  | unresolved f => .error f
  | unreachable f => .error f
  | serving [] => .error (.ofKind .connectionRefused)
  | serving (stream :: _) => .ok stream

/-- The stream to an address, or why there is none. The address is looked at first. -/
def connect (network : Network) (address : String) (timeout : Option Duration) :
    Except TransportError Duplex :=
  match network.lookupFault? address with
  | some f => .error (.resolve address f)
  | none =>
    if timeout = some .zero then .error (.connect address zeroTimeout)
    else
      match network.nextStream with
      | .ok stream => .ok stream
      | .error f => .error (.ofConnectFault address f)

/-- What following the log will meet: one attempt for each stream. -/
def attempts : Network → List Attempt
  | unresolved _ => []
  | unreachable _ => []
  | serving streams => streams.map fun stream => ⟨some stream, false⟩

end Network

end MotionLink
