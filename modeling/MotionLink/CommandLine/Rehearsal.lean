import MotionLink.CommandLine.Program
import MotionLink.Link.Controller

/-!
# Rehearsals

A command line carried out against controllers that follow a script.

## Main definitions

* `Invocation.rehearse` — how the run ends, and what the controllers read
-/

namespace MotionLink.Invocation

/-- How the run ends, and what each controller that was reached has read. -/
def rehearse (s : Surroundings) (scripts : List ControllerScript) (i : Invocation) :
    Conclusion × List Bytes :=
  let streams := scripts.map fun script => script.stream i.awaitsGreeting
  let conclusion := i.run { s with network := .serving streams }
  (conclusion, List.zipWith ControllerScript.received scripts conclusion.sent)

end MotionLink.Invocation
