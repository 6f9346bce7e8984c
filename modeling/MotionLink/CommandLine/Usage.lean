import MotionLink.CommandLine.Invocation

/-!
# Help

## Main definitions

* `UsageProblem.message` — why a command line is not carried out
* `Usage.help` — what can be asked for
-/

namespace MotionLink

/-- Why a command line is not carried out. -/
def UsageProblem.message : UsageProblem → String
  | helpAsked => "help was asked for"
  | versionAsked => "the version was asked for"
  | nothingGiven => "nothing was given"
  | unknownArgument => "an argument was not expected"
  | unknownCommand => "there is no such subcommand"
  | missingCommand => "a subcommand is missing"
  | missingArgument => "a required argument is missing"
  | wrongValue => "a value is missing or is not one of those allowed"
  | unreadableValue => "a value could not be read"
  | surplusValue => "an option that takes no value was given one"
  | repeatedOption => "an option was given twice"

namespace Usage

/-- The line for one subcommand. -/
def commandLines : List (String × String) :=
  [("move", "move to points: ptp, lin or circ, with -p for each point"),
   ("io", "switch an output pin on or off"),
   ("call", "run a program of the controller"),
   ("monitor", "follow the log"),
   ("decode", "read a command payload back"),
   ("version", "print the version")]

/-- What can be asked for. -/
def help : String :=
  let rows := commandLines.map fun (name, about) =>
    let margin := String.ofList (List.replicate (10 - name.length) ' ')
    "  " ++ name ++ margin ++ about ++ "\n"
  let options := (Invocation.commonOptions.map fun rule => "  --" ++ rule.name ++ "\n")
  "Usage: armlink [OPTIONS] <COMMAND>\n\nCommands:\n" ++ String.join rows ++
    "\nOptions:\n" ++ String.join options

end Usage

end MotionLink
