import MotionLink.Log.Follower
import MotionLink.Terminal.Screen

/-!
# Monitoring

A monitor listens to a follower and shows the log on a screen. It asks for a stop when enough
records have been shown, and when the output fails.

## Main definitions

* `Monitor` — the state between two chunks
* `Monitor.listener` — a monitor as a listener
-/

namespace MotionLink

/-- The state of a monitor between two chunks. -/
structure Monitor (ρ : Type) where
  router : Router
  /-- how many records are to be shown; any number when nothing is given -/
  limit : Option Nat
  /-- how many records have been shown -/
  seen : Nat
  screen : ρ
  /-- the first fault of the output -/
  fault : Option Fault

namespace Monitor

variable {ρ : Type}

/-- A monitor that has shown nothing. -/
def start (limit : Option Nat) (screen : ρ) : Monitor ρ := ⟨.start, limit, 0, screen, none⟩

/-- Enough records have been shown. -/
def isDone (monitor : Monitor ρ) : Bool :=
  match monitor.limit with
  | some limit => limit ≤ monitor.seen
  | none => false

/-- The event completes a record. A line that belongs to no record counts as one. -/
def completesRecord : Event → Bool
  | .line .. => true
  | .endRecord => true
  | _ => false

/-- Show one event, unless enough records have been shown; also whether to stop now. -/
def showEvent (on : Screen ρ) (shown : Monitor ρ × Bool) (e : Event) : Monitor ρ × Bool :=
  let (monitor, asked) := shown
  -- The rest of a chunk may hold more than was asked for.
  if monitor.isDone then (monitor, asked)
  else
    let ⟨router, limit, seen, screen, fault⟩ := monitor
    let screen := on.showEvent screen e
    if completesRecord e then
      let monitor : Monitor ρ := ⟨router, limit, seen + 1, screen, fault⟩
      (monitor, asked || monitor.isDone)
    else (⟨router, limit, seen, screen, fault⟩, asked)

/-- Look whether the output has failed; the first fault is kept. -/
def checkOutput (on : Screen ρ) (shown : Monitor ρ × Bool) : Monitor ρ × Bool :=
  let (monitor, asked) := shown
  let (fault, screen) := on.takeFault monitor.screen
  let monitor := { monitor with screen }
  match fault with
  | none => (monitor, asked)
  | some f => ({ monitor with fault := monitor.fault.or (some f) }, true)

/-- Show events in order; also whether to stop now. -/
def showAll (on : Screen ρ) (monitor : Monitor ρ) (events : List Event) : Monitor ρ × Bool :=
  checkOutput on (events.foldl (showEvent on) (monitor, false))

/-- A chunk of the log. -/
def onChunk (on : Screen ρ) (monitor : Monitor ρ) (chunk : Bytes) : Monitor ρ × Bool :=
  let ⟨router, limit, seen, screen, fault⟩ := monitor
  let (events, router) := router.feed chunk
  showAll on ⟨router, limit, seen, screen, fault⟩ events

/-- The stream has ended: what waits is shown. -/
def onEnd (on : Screen ρ) (monitor : Monitor ρ) : Monitor ρ × Bool :=
  let (events, router) := monitor.router.flush
  showAll on { monitor with router } events

/-- A monitor as a listener. -/
def listener (on : Screen ρ) : Listener (Monitor ρ) where
  onState monitor state := if state = .disconnected then monitor.onEnd on else (monitor, false)
  onChunk monitor chunk := monitor.onChunk on chunk

end Monitor

end MotionLink
