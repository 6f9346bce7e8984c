import MotionLink.Text.Utf8
import MotionLink.Wire.Fault

/-!
# An output that may fail

The first write that does not fit is cut short and fails; nothing is written behind it. The fault
is handed out once.

## Main definitions

* `Outlet` — an output and what it has taken
* `Outlet.put` — write
* `Outlet.takeFault` — the fault, the first time it is asked for
-/

namespace MotionLink

/-- An output and what it has taken. -/
structure Outlet where
  /-- how many bytes it takes in all; any number when nothing is given -/
  capacity : Option Nat
  /-- what a write fails with that does not fit -/
  refusal : Fault
  written : Array UInt8
  /-- a write has failed -/
  failed : Bool
  /-- the fault, until it is handed out -/
  fault : Option Fault

namespace Outlet

/-- An output that has taken nothing. -/
def ofCapacity (capacity : Option Nat) (refusal : Fault) : Outlet :=
  ⟨capacity, refusal, #[], false, none⟩

/-- An output that takes everything. -/
def unlimited : Outlet := .ofCapacity none (.ofKind .other)

/-- As many of the bytes as the output has room for. -/
def fitting (outlet : Outlet) (bytes : Bytes) : Bytes :=
  match outlet.capacity with
  | none => bytes
  | some capacity => bytes.take (capacity - outlet.written.size)

/-- Write, unless a write has failed. -/
def put (outlet : Outlet) (bytes : Bytes) : Outlet :=
  if outlet.failed then outlet
  else
    let taken := outlet.fitting bytes
    let failed := taken.length < bytes.length
    -- The parts are taken out so that the bytes written have one owner while they grow.
    let ⟨capacity, refusal, written, _, fault⟩ := outlet
    ⟨capacity, refusal, taken.foldl Array.push written, failed,
      if failed then some refusal else fault⟩

/-- The fault of the write that failed, the first time it is asked for. -/
def takeFault (outlet : Outlet) : Option Fault × Outlet :=
  (outlet.fault, { outlet with fault := none })

end Outlet

end MotionLink
