import MotionLink.CommandLine.Value

/-!
# Arguments

A command line is read from left to right. An option is named by a long or a short name and may
take a value, which stands behind an equals sign or is the next argument that does not begin with
a dash. Behind `--` every argument is an operand. A value is looked at only once the next option,
the next operand or the end of the line shows that it is complete, so that of two mistakes the one
that is certain first is reported.

## Main definitions

* `ArgumentRule`, `Form` — the options and operands that can be given
* `Given` — the options and operands that were given
* `Reading` — what has been read so far
* `Reading.readAll` — read arguments up to the name of a subcommand
* `UsageProblem` — why a command line is not carried out
-/

namespace MotionLink

/-- Why a command line is not carried out. -/
inductive UsageProblem where
  | helpAsked
  | versionAsked
  /-- nothing was given at all -/
  | nothingGiven
  | unknownArgument
  | unknownCommand
  | missingCommand
  | missingArgument
  /-- a value is missing, or is none of the words allowed -/
  | wrongValue
  /-- a value could not be read -/
  | unreadableValue
  /-- an option that takes no value was given one -/
  | surplusValue
  /-- an option was given twice -/
  | repeatedOption
deriving DecidableEq

/-- Asking for help or for the version is no mistake. -/
def UsageProblem.exitCode : UsageProblem → Nat
  | helpAsked | versionAsked => ExitCode.success
  | _ => ExitCode.misuse

/-- A value that was given. -/
inductive ArgumentValue where
  | text (value : String)
  | number (value : Nat)
  | real (value : Binary64)
  | truth (value : Bool)

/-- What a value has to be. -/
inductive ValueRule where
  | anyText
  | oneOf (words : List String)
  | numberBelow (bound : Nat)
  | portNumber
  | realNumber
  | switchWord

namespace ValueRule

/-- A value, or that it could not be read. -/
def orUnreadable {α : Type} : Option α → Except UsageProblem α
  | some v => .ok v
  | none => .error .unreadableValue

/-- Read a value. -/
def read (rule : ValueRule) (s : String) : Except UsageProblem ArgumentValue :=
  match rule with
  | anyText => .ok (.text s)
  | oneOf words => if words.contains s then .ok (.text s) else .error .wrongValue
  | numberBelow bound => orUnreadable ((readNatural bound s.toList).map .number)
  | portNumber => orUnreadable ((readInteger 0 65535 s.toList).map fun n => .number n.toNat)
  | realNumber => orUnreadable ((Binary64.read s.toList).map .real)
  | switchWord => orUnreadable ((SwitchWord.read s).toOption.map .truth)

end ValueRule

/-- What giving an argument does. -/
inductive ArgumentEffect where
  /-- it is noted that it was given -/
  | noteFlag
  /-- one value is noted -/
  | noteValue (rule : ValueRule)
  /-- a value is added to those given before -/
  | addValue (rule : ValueRule)
  | showHelp
  | showVersion

/-- The argument takes a value. -/
def ArgumentEffect.takesValue : ArgumentEffect → Bool
  | noteValue _ => true
  | addValue _ => true
  | _ => false

/-- An option or an operand. -/
structure ArgumentRule where
  name : String
  short : Option Char
  effect : ArgumentEffect

namespace ArgumentRule

/-- An option that takes no value. -/
def flag (name : String) : ArgumentRule := ⟨name, none, .noteFlag⟩

/-- An option or operand with one value. -/
def value (name : String) (rule : ValueRule) : ArgumentRule := ⟨name, none, .noteValue rule⟩

end ArgumentRule

/-- The options and operands that can be given. -/
structure Form where
  options : List ArgumentRule
  /-- in order; each of them has to be given -/
  operands : List ArgumentRule
  /-- options that have to be given -/
  required : List String
  /-- the names of subcommands -/
  commands : List String

/-- What was given, by name, in order. -/
abbrev Given := List (String × List ArgumentValue)

namespace Given

/-- The argument was given. -/
def has (given : Given) (name : String) : Bool := given.any fun entry => entry.1 == name

/-- The values given, in order. -/
def values (given : Given) (name : String) : List ArgumentValue :=
  (given.filter fun entry => entry.1 == name).flatMap fun entry => entry.2

/-- The text given. -/
def text? (given : Given) (name : String) : Option String :=
  (given.values name).findSome? fun
    | .text s => some s
    | _ => none

/-- All texts given, in order. -/
def texts (given : Given) (name : String) : List String :=
  (given.values name).filterMap fun
    | .text s => some s
    | _ => none

/-- The number given. -/
def number? (given : Given) (name : String) : Option Nat :=
  (given.values name).findSome? fun
    | .number n => some n
    | _ => none

/-- The real number given. -/
def real? (given : Given) (name : String) : Option Binary64 :=
  (given.values name).findSome? fun
    | .real x => some x
    | _ => none

/-- The truth value given. -/
def truth? (given : Given) (name : String) : Option Bool :=
  (given.values name).findSome? fun
    | .truth b => some b
    | _ => none

end Given

/-- An argument whose value is not yet looked at. -/
structure PendingArgument where
  rule : ArgumentRule
  value : Option String

/-- What has been read so far. -/
structure Reading where
  given : Given
  pending : Option PendingArgument
  /-- the pending option still waits for its value -/
  awaitsValue : Bool
  /-- behind `--` -/
  trailing : Bool
  /-- how many operands there have been -/
  operands : Nat

namespace Reading

/-- Nothing read yet. -/
def start : Reading := ⟨[], none, false, false, 0⟩

/-- Note an argument with its value. -/
def noteOne (reading : Reading) (rule : ArgumentRule) (value : Option String) :
    Except UsageProblem Reading :=
  match rule.effect with
  | .showHelp => .error .helpAsked
  | .showVersion => .error .versionAsked
  | .noteFlag =>
    if reading.given.has rule.name then .error .repeatedOption
    else .ok { reading with given := reading.given ++ [(rule.name, [])] }
  | .noteValue valueRule =>
    match value with
    | none => .error .wrongValue
    | some s =>
      if reading.given.has rule.name then .error .repeatedOption
      else (valueRule.read s).map fun v =>
        { reading with given := reading.given ++ [(rule.name, [v])] }
  | .addValue valueRule =>
    match value with
    | none => .error .wrongValue
    | some s =>
      (valueRule.read s).map fun v =>
        { reading with given := reading.given ++ [(rule.name, [v])] }

/-- Note the argument whose value is complete by now. -/
def settle (reading : Reading) : Except UsageProblem Reading :=
  match reading.pending with
  | none => .ok { reading with awaitsValue := false }
  | some p => { reading with pending := none, awaitsValue := false }.noteOne p.rule p.value

/-- Note an argument behind those before it. -/
def note (reading : Reading) (rule : ArgumentRule) (value : Option String) :
    Except UsageProblem Reading := do
  let reading ← reading.settle
  reading.noteOne rule value

/-- An option that takes a value and has not been given one yet. -/
def await (reading : Reading) (rule : ArgumentRule) : Except UsageProblem Reading := do
  let reading ← reading.settle
  pure { reading with pending := some ⟨rule, none⟩, awaitsValue := true }

/-- An option named in full, with the text behind its equals sign. -/
def readLong (form : Form) (reading : Reading) (name : String) (attached : Option String) :
    Except UsageProblem Reading :=
  match form.options.find? fun rule => rule.name == name with
  | none => .error .unknownArgument
  | some rule =>
    if rule.effect.takesValue then
      match attached with
      | some s => reading.note rule (some s)
      | none => reading.await rule
    else
      match attached with
      | some _ => .error .surplusValue
      | none => reading.note rule none

/-- Short names behind one dash. What follows a name that takes a value is its value. -/
def readShort (form : Form) (reading : Reading) : List Char → Except UsageProblem Reading
  | [] => .ok reading
  | c :: rest =>
    match form.options.find? fun rule => rule.short == some c with
    | none => .error .unknownArgument
    | some rule =>
      if rule.effect.takesValue then
        match rest with
        | [] => reading.await rule
        | '=' :: value => reading.note rule (some (String.ofList value))
        | value => reading.note rule (some (String.ofList value))
      else do
        let reading ← reading.note rule none
        readShort form reading rest

/-- What is wrong with an operand too many. -/
def surplusOperand (form : Form) (reading : Reading) (argument : String) : UsageProblem :=
  if form.commands.isEmpty then .unknownArgument
  else if reading.trailing && form.commands.contains argument then .unknownArgument
  else .unknownCommand

/-- An operand. -/
def readOperand (form : Form) (reading : Reading) (argument : String) :
    Except UsageProblem Reading :=
  match form.operands[reading.operands]? with
  | none => .error (reading.surplusOperand form argument)
  | some rule => do
    let reading ← reading.settle
    pure { reading with pending := some ⟨rule, some argument⟩, operands := reading.operands + 1 }

/-- A long name and the text behind its first equals sign. -/
def splitLong (chars : List Char) : String × Option String :=
  match Text.cutAtChar '=' chars with
  | some (name, value) => (String.ofList name, some (String.ofList value))
  | none => (String.ofList chars, none)

/-- The value that the pending option waits for. -/
def takeValue (reading : Reading) (argument : String) : Reading :=
  { reading with
    pending := reading.pending.map fun p => { p with value := some argument }
    awaitsValue := false }

/-- Read one argument. -/
def readOne (form : Form) (reading : Reading) (argument : String) : Except UsageProblem Reading :=
  if reading.trailing then reading.readOperand form argument
  else
    match argument.toList with
    -- An option that still waits for its value does not get one from behind the dashes.
    | ['-', '-'] => .ok { reading with trailing := true, awaitsValue := false }
    | '-' :: '-' :: long =>
      let (name, attached) := splitLong long
      reading.readLong form name attached
    | '-' :: c :: rest => reading.readShort form (c :: rest)
    | _ =>
      if reading.awaitsValue then .ok (reading.takeValue argument)
      else reading.readOperand form argument

/-- The argument names a subcommand here. -/
def namesCommand (form : Form) (reading : Reading) (argument : String) : Bool :=
  !reading.trailing && !reading.awaitsValue && form.commands.contains argument

/-- Read arguments up to the name of a subcommand: what was read, the subcommand, and the
arguments behind it. -/
def readAll (form : Form) : List String → Reading →
    Except UsageProblem (Reading × Option (String × List String))
  | [], reading => .ok (reading, none)
  | argument :: rest, reading =>
    if reading.namesCommand form argument then .ok (reading, some (argument, rest))
    else do
      let reading ← reading.readOne form argument
      readAll form rest reading

end Reading

namespace Form

/-- The names of everything that has to be given. -/
def needed (form : Form) : List String := form.operands.map ArgumentRule.name ++ form.required

/-- Read the arguments of a form that has no subcommands. -/
def read (form : Form) (arguments : List String) : Except UsageProblem Given := do
  let (reading, _) ← Reading.readAll form arguments .start
  let reading ← reading.settle
  if form.needed.all reading.given.has then pure reading.given else .error .missingArgument

end Form

end MotionLink
