import MotionLink.CommandLine.Arguments
import MotionLink.Link.Address

/-!
# Invocations

## Main definitions

* `Invocation` — what a command line asks for
* `Invocation.read` — read a command line
-/

namespace MotionLink

/-- How results are printed. -/
inductive OutputForm where
  | json
  | table
  | pretty
  | raw
deriving DecidableEq

namespace OutputForm

/-- Every form, with its name. -/
def all : List (String × OutputForm) :=
  [("json", json), ("table", table), ("pretty", pretty), ("raw", raw)]

/-- The form with a name. -/
def ofName? (name : String) : Option OutputForm := all.lookup name

/-- The form unless another is asked for: a table on a terminal. -/
def standard (terminal : Bool) : OutputForm := if terminal then table else json

end OutputForm

/-- How much is logged. -/
inductive LogLevel where
  | error
  | warn
  | info
  | debug
  | trace
deriving DecidableEq

namespace LogLevel

/-- Every level, with its name. -/
def all : List (String × LogLevel) :=
  [("error", error), ("warn", warn), ("info", info), ("debug", debug), ("trace", trace)]

/-- The level with a name. -/
def ofName? (name : String) : Option LogLevel := all.lookup name

/-- The name of a level. -/
def name : LogLevel → String
  | error => "error"
  | warn => "warn"
  | info => "info"
  | debug => "debug"
  | trace => "trace"

end LogLevel

/-- How the controller is reached. -/
structure ConnectOptions where
  /-- how long connecting may take -/
  timeout : String
  /-- how long the reply may take -/
  responseTimeout : String
  /-- do not wait for the controller to say first how it is -/
  noGreeting : Bool
  /-- only print what would be sent -/
  dryRun : Bool

/-- The options of a motion. -/
structure MoveOptions where
  family : MotionFamily
  points : List String
  blended : Bool
  tool : Option String
  base : Option String
  speed : Binary64
  degrees : Bool

/-- A request for the controller. -/
inductive RequestOptions where
  | move (options : MoveOptions)
  | output (pin : String) (state : Bool)
  | call (program : String)

/-- The options of following the log. -/
structure MonitorOptions where
  reconnectDelay : String
  timeout : String
  hello : Option String
  count : Option Nat
  noColor : Bool

/-- What is to be done. -/
inductive Task where
  /-- send a request; an id is made up when none is given -/
  | request (options : RequestOptions) (id : Option String) (connect : ConnectOptions)
  | monitor (options : MonitorOptions)
  | decode (payload : String)
  | version (extended : Bool)

/-- What a command line asks for. -/
structure Invocation where
  form : Option OutputForm
  endpoint : Endpoint
  task : Task

namespace Invocation

/-- Asks for help. -/
def helpRule : ArgumentRule := ⟨"help", some 'h', .showHelp⟩

/-- The options that can be given before and behind the subcommand. -/
def commonOptions : List ArgumentRule :=
  [.value "format" (.oneOf (OutputForm.all.map Prod.fst)),
   .value "log-format" (.oneOf ["text", "json"]),
   .value "log-level" (.oneOf (LogLevel.all.map Prod.fst)),
   .value "host" .anyText,
   .value "command-port" .portNumber,
   .value "log-port" .portNumber,
   helpRule]

/-- The options of every request. -/
def requestRules : List ArgumentRule :=
  [.value "id" .anyText, .value "timeout" .anyText, .value "response-timeout" .anyText,
   .flag "no-greeting", .flag "dry-run"]

/-- The subcommands that do something. -/
def taskNames : List String := ["move", "io", "call", "monitor", "decode", "version"]

/-- What stands before the subcommand. -/
def rootForm : Form where
  options := commonOptions ++ [⟨"version", some 'V', .showVersion⟩]
  operands := []
  required := []
  commands := taskNames ++ ["help"]

/-- A form with the common options in it. -/
def formOf (options operands : List ArgumentRule) (required : List String) : Form :=
  ⟨commonOptions ++ options, operands, required, []⟩

/-- The families of motions, with their names. -/
def families : List (String × MotionFamily) :=
  [("ptp", .pointToPoint), ("lin", .linear), ("circ", .circular)]

/-- What stands behind `move`. -/
def moveForm : Form :=
  formOf
    (⟨"point", some 'p', .addValue .anyText⟩ ::
      .flag "continuous" :: .value "tool" .anyText :: .value "base" .anyText ::
      .value "speed" .realNumber :: .flag "degrees" :: requestRules)
    [.value "family" (.oneOf (families.map Prod.fst))] ["point"]

/-- What stands behind `io`. -/
def outputForm : Form :=
  formOf requestRules [.value "pin" .anyText, .value "state" .switchWord] []

/-- What stands behind `call`. -/
def callForm : Form := formOf requestRules [.value "program" .anyText] []

/-- Counts are below this number. -/
def countBound : Nat := 18446744073709551616

/-- What stands behind `monitor`. -/
def monitorForm : Form :=
  formOf
    [.value "reconnect-delay" .anyText, .value "timeout" .anyText, .value "hello" .anyText,
     .value "count" (.numberBelow countBound), .flag "no-color"] [] []

/-- What stands behind `decode`. -/
def decodeForm : Form := formOf [] [.value "payload" .anyText] []

/-- What stands behind `version`. -/
def versionForm : Form := formOf [.flag "extended"] [] []

/-- How the controller is reached. -/
def connectOptions (given : Given) : ConnectOptions where
  timeout := (given.text? "timeout").getD "5s"
  responseTimeout := (given.text? "response-timeout").getD "30s"
  noGreeting := given.has "no-greeting"
  dryRun := given.has "dry-run"

/-- A request. -/
def requestTask (options : RequestOptions) (given : Given) : Task :=
  .request options (given.text? "id") (connectOptions given)

/-- The options of a motion. -/
def moveOptions (given : Given) : MoveOptions where
  family := ((given.text? "family").bind fun name => families.lookup name).getD .pointToPoint
  points := given.texts "point"
  blended := given.has "continuous"
  tool := given.text? "tool"
  base := given.text? "base"
  speed := (given.real? "speed").getD Motion.defaultSpeed
  degrees := given.has "degrees"

/-- The options of following the log. -/
def monitorOptions (given : Given) : MonitorOptions where
  reconnectDelay := (given.text? "reconnect-delay").getD "5s"
  timeout := (given.text? "timeout").getD "5s"
  hello := given.text? "hello"
  count := given.number? "count"
  noColor := given.has "no-color"

/-- The form of a subcommand, and the task that it asks for. -/
def command? (name : String) : Option (Form × (Given → Task)) :=
  match name with
  | "move" => some (moveForm, fun g => requestTask (.move (moveOptions g)) g)
  | "io" =>
    some (outputForm, fun g =>
      requestTask (.output ((g.text? "pin").getD "") ((g.truth? "state").getD false)) g)
  | "call" => some (callForm, fun g => requestTask (.call ((g.text? "program").getD "")) g)
  | "monitor" => some (monitorForm, fun g => .monitor (monitorOptions g))
  | "decode" => some (decodeForm, fun g => .decode ((g.text? "payload").getD ""))
  | "version" => some (versionForm, fun g => .version (g.has "extended"))
  | _ => none

/-- What is wrong with asking for help: nothing, or the words behind it name no subcommand. -/
def helpProblem : List String → UsageProblem
  | [] => .helpAsked
  | [name] => if rootForm.commands.contains name then .helpAsked else .unknownCommand
  | _ => .unknownCommand

/-- Where the controller listens. What is given behind the subcommand counts more. -/
def endpointOf (given : Given) : Endpoint where
  host := (given.text? "host").getD Endpoint.defaultHost
  commandPort := (given.number? "command-port").getD Endpoint.defaultCommandPort
  logPort := (given.number? "log-port").getD Endpoint.defaultLogPort

/-- The controller is to say first how it is. -/
def awaitsGreeting (i : Invocation) : Bool :=
  match i.task with
  | .request _ _ connect => !connect.noGreeting
  | _ => false

/-- Read a command line. The subcommand and what stands behind it are looked at before the last
option in front of it is. -/
def read (arguments : List String) : Except UsageProblem Invocation := do
  let (reading, command) ← Reading.readAll rootForm arguments .start
  match command with
  | none =>
    let reading ← reading.settle
    .error (if reading.given.isEmpty then .nothingGiven else .missingCommand)
  | some (name, rest) =>
    match command? name with
    | none => .error (helpProblem rest)
    | some (form, task) =>
      let inner ← form.read rest
      let reading ← reading.settle
      -- The values behind the subcommand come first, so that they are found first.
      let given := inner ++ reading.given
      pure ⟨(given.text? "format").bind OutputForm.ofName?, endpointOf given, task inner⟩

end Invocation

end MotionLink
