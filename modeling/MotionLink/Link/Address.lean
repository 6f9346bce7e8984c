import MotionLink.Number.Decimal
import MotionLink.Text.Search
import MotionLink.Wire.Fault

/-!
# Addresses

## Main definitions

* `Endpoint` — where a controller listens
* `Address.joined` — host and port as one address
* `Address.fault?` — why a text is no address
-/

namespace MotionLink

namespace Address

/-- Host and port as one address. A host with a colon in it is put into brackets, unless it has
them already. -/
def joined (host : String) (port : Nat) : String :=
  let bare := host.toList.contains ':' && host.toList.head? != some '['
  if bare then s!"[{host}]:{port}" else s!"{host}:{port}"

/-- Ports are below this number. -/
def portBound : Nat := 65536

/-- A fault of the text given. -/
def invalid (wording : String) : Fault := ⟨.invalidInput, some wording⟩

/-- Why a text is no address: there is no colon in it, or no port behind the last one. -/
def fault? (address : String) : Option Fault :=
  let chars := address.toList
  if !chars.contains ':' then some (invalid "invalid socket address")
  else
    match readNatural portBound (Text.afterLast (· == ':') chars) with
    | some _ => none
    | none => some (invalid "invalid port value")

end Address

/-- Where a controller listens. -/
structure Endpoint where
  host : String
  commandPort : Nat
  logPort : Nat

namespace Endpoint

/-- The host of a controller unless another is given. -/
def defaultHost : String := "127.0.0.1"

/-- The port for commands unless another is given. -/
def defaultCommandPort : Nat := 30001

/-- The port of the log unless another is given. -/
def defaultLogPort : Nat := 30003

/-- The address for commands. -/
def commandAddress (e : Endpoint) : String := Address.joined e.host e.commandPort

/-- The address of the log. -/
def logAddress (e : Endpoint) : String := Address.joined e.host e.logPort

end Endpoint

end MotionLink
