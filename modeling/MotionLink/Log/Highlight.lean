import MotionLink.Log.Field
import MotionLink.Text.Search

/-!
# Highlights

Every field of a command is shown in a color of its class. Coordinates take turns in seven colors
and parameters in five, counted from the start of the command, so that neighbours can be told
apart. Names that identify the command have one color wherever they stand.

## Main definitions

* `Highlight` — the class of a field
* `Tally` — how many coordinates and parameters a command has shown
* `Tally.classify` — the class of the next field
-/

namespace MotionLink

/-- The class of a field. -/
inductive Highlight where
  | identity
  /-- a coordinate or a joint value -/
  | axis (slot : Nat)
  /-- a parameter of a motion or of an output -/
  | parameter (slot : Nat)
  /-- any other text -/
  | text
  /-- any other value -/
  | scalar
deriving DecidableEq

namespace Highlight

/-- The number of colors for coordinates. -/
def axisSlots : Nat := 7

/-- The number of colors for parameters. -/
def parameterSlots : Nat := 5

/-- The names that identify a command. -/
def identityNames : List (List Char) :=
  ["actionType".toList, "ActionType".toList, "id".toList, "ID".toList, "commandId".toList,
   "type".toList]

/-- The names that begin a command when no container is around them. -/
def leadingNames : List (List Char) := ["actionType".toList, "ActionType".toList]

/-- The names of coordinates, in lower case. -/
def axisNames : List (List Char) :=
  ["j1".toList, "j2".toList, "j3".toList, "j4".toList, "j5".toList, "j6".toList, "j7".toList,
   "x".toList, "y".toList, "z".toList, "a".toList, "b".toList, "c".toList]

/-- The names of parameters, in lower case. -/
def parameterNames : List (List Char) :=
  ["speed".toList, "speed override".toList, "speedoverride".toList, "tool".toList, "base".toList,
   "continuous".toList, "num points".toList, "numpoints".toList, "io point".toList,
   "io pin".toList, "io state".toList, "iopoint".toList, "iopin".toList, "iostate".toList,
   "pin".toList, "state".toList, "program id".toList, "programid".toList]

/-- The name of a class. -/
def name : Highlight → String
  | identity => "identity"
  | axis _ => "axis_slot"
  | parameter _ => "param_slot"
  | text => "default_string"
  | scalar => "default_scalar"

/-- The turn of a coordinate or a parameter. -/
def slot? : Highlight → Option Nat
  | axis slot => some slot
  | parameter slot => some slot
  | _ => none

end Highlight

/-- What a field is grouped with. -/
inductive Grouping where
  | alone
  | axis (slot : Nat)
  | parameter (slot : Nat)
deriving DecidableEq

namespace Grouping

/-- What a field of a class is grouped with. -/
def ofHighlight : Highlight → Grouping
  | .axis slot => axis slot
  | .parameter slot => parameter slot
  | _ => alone

/-- The name of a grouping. -/
def name : Grouping → String
  | alone => "scalar"
  | axis _ => "axis_slot"
  | parameter _ => "param_slot"

/-- The turn within the group. -/
def slot? : Grouping → Option Nat
  | alone => none
  | axis slot => some slot
  | parameter slot => some slot

end Grouping

/-- The turns of the next coordinate and the next parameter. -/
structure Tally where
  axis : Nat
  parameter : Nat
deriving DecidableEq

namespace Tally

/-- At the start of a command. -/
def start : Tally := ⟨0, 0⟩

/-- The class of a field by its value. -/
def byValue : FieldValue → Option Highlight
  | .container _ => none
  | .text (_ :: _) => some .text
  | .text [] => some .scalar
  | .scalar _ => some .scalar

/-- The class of the next field by its name, else by its value, and the turns behind it. -/
def classifyWithin (tally : Tally) (field : Field) : Option Highlight × Tally :=
  -- Names that identify a command are matched as written, all others in any case.
  if Highlight.identityNames.contains field.name then (some .identity, tally)
  else
    let key := Text.lower (Text.trim field.name)
    if Highlight.axisNames.contains key then
      (some (.axis tally.axis), { tally with axis := (tally.axis + 1) % Highlight.axisSlots })
    else if Highlight.parameterNames.contains key then
      (some (.parameter tally.parameter),
        { tally with parameter := (tally.parameter + 1) % Highlight.parameterSlots })
    else (byValue field.value, tally)

/-- The field begins a command. -/
def begins (field : Field) : Bool :=
  field.depth == 0 && Highlight.leadingNames.contains field.name

/-- The class of the next field, and the turns behind it. -/
def classify (tally : Tally) (field : Field) : Option Highlight × Tally :=
  classifyWithin (if begins field then start else tally) field

end Tally

end MotionLink
