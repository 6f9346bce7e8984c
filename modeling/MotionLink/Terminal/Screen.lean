import MotionLink.Terminal.JsonLines
import MotionLink.Terminal.Outlet
import MotionLink.Terminal.Styled

/-!
# What events are shown on

## Main definitions

* `Screen` — anything that events can be shown on
* `Display` — the two forms in which the log is shown
* `Terminal` — a display with its output
-/

namespace MotionLink

/-- Anything that events can be shown on. -/
structure Screen (ρ : Type) where
  showEvent : ρ → Event → ρ
  /-- the fault that ended the output, handed out once -/
  takeFault : ρ → Option Fault × ρ

/-- The forms in which the log is shown. -/
inductive Display where
  | styled (inColor : Bool)
  /-- with the record not yet complete -/
  | jsonLines (open? : Option OpenRecord)

namespace Display

/-- What is written for an event, and the display behind it. -/
def step : Display → Event → List Char × Display
  | styled inColor, e => (Styled.chars inColor e, styled inColor)
  | jsonLines open?, e =>
    let (chars, open?) := JsonLines.step open? e
    (chars, jsonLines open?)

end Display

/-- A display with its output. -/
structure Terminal where
  display : Display
  outlet : Outlet

namespace Terminal

/-- Show one event. -/
def showEvent (terminal : Terminal) (e : Event) : Terminal :=
  let ⟨display, outlet⟩ := terminal
  let (chars, display) := display.step e
  ⟨display, outlet.put (Utf8.encode chars)⟩

/-- Show events in order. -/
def showAll (terminal : Terminal) (events : List Event) : Terminal :=
  events.foldl showEvent terminal

/-- The fault of the output, the first time it is asked for. -/
def takeFault (terminal : Terminal) : Option Fault × Terminal :=
  let (fault, outlet) := terminal.outlet.takeFault
  (fault, { terminal with outlet })

/-- A terminal as a screen. -/
def screen : Screen Terminal := ⟨showEvent, takeFault⟩

end Terminal

end MotionLink
