import MotionLink.Command.RequestId
import MotionLink.CommandLine.Usage
import MotionLink.Live.Session

/-!
# The command line

## Main definitions

* `main` — carry out the command line and end with its exit code
-/

namespace MotionLink

/-- Say why a command line is not carried out. -/
def reportUsage (problem : UsageProblem) : IO Unit := do
  match problem with
  | .helpAsked => IO.print Usage.help
  | .versionAsked => IO.print (Build.this.report .raw false)
  | .nothingGiven => IO.eprint Usage.help
  | _ => IO.eprint s!"error: {problem.message}\n\n{Usage.help}"

/-- Say why a run failed, if it did. -/
def reportFailure (ending : Ending) : IO Unit := do
  if let .failure f := ending then IO.eprintln s!"error: {f.message}"

/-- What the program finds around it. -/
def surroundings : IO Surroundings := do
  let terminal ← (← IO.getStdout).isTty
  let random ← IO.getRandomBytes 16
  return ⟨.absent, .unlimited, terminal, RequestId.ofRandom random.toList⟩

end MotionLink

open MotionLink in
/-- Carry out the command line and end with its exit code. -/
def main (arguments : List String) : IO UInt32 := do
  match Invocation.read arguments with
  | .error problem =>
    reportUsage problem
    return problem.exitCode.toUInt32
  | .ok invocation =>
    let conclusion ← Live.run (← surroundings) invocation
    reportFailure conclusion.ending
    return conclusion.ending.exitCode.toUInt32
