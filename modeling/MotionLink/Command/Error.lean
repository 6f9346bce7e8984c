import MotionLink.Command.Intent
import MotionLink.Command.Slot
import MotionLink.Number.Shortest
import MotionLink.Text.Quoted

/-!
# Why a command is refused

## Main definitions

* `TextField` — the fields that hold free text
* `CommandError` — the causes
* `CommandError.message` — the wording shown to the operator
-/

namespace MotionLink

/-- The fields that hold free text. -/
inductive TextField where
  | id
  | tool
  | base
  | pin
  | program
deriving DecidableEq

/-- The name of a field in messages. -/
def TextField.name : TextField → String
  | id => "id"
  | tool => "tool"
  | base => "base"
  | pin => "pin"
  | program => "program"

/-- Why a command is refused, when it is written or when it is read. Points and components are
counted from zero. -/
inductive CommandError where
  /-- a point has a number of components that no kind has -/
  | pointArity (index length : Nat)
  | blankId
  | noPoints
  /-- a point is of another kind than the command -/
  | pointKind (index : Nat) (expected found : PointKind)
  | speedOutOfRange (speed : Binary64)
  | notFinite (index component : Nat)
  /-- a free text holds a separator -/
  | reservedChar (field : TextField) (c : Char)
  | blankField (field : TextField)
  | missingSlots (found : Nat)
  /-- a slot holds something else than a number or a truth value -/
  | invalidSlot (slot : Slot) (value : String)
  | unknownAction (code : Nat)
  | pointCount (declared found : Nat)
deriving DecidableEq

/-- The wording shown to the operator. -/
def CommandError.message : CommandError → String
  | pointArity index length => s!"point {index} has {length} components (expected 6 or 7)"
  | blankId => "command id is empty"
  | noPoints => "motion command has no points"
  | pointKind index expected found => s!"point {index} is {found.name}, command is {expected.name}"
  | speedOutOfRange speed => s!"speed {speed.wireText} outside 0.0..=1.0"
  | notFinite index component => s!"point {index} component {component} is not finite"
  | reservedChar field c => s!"{field.name} contains reserved character '{c}'"
  | blankField field => s!"{field.name} must not be empty"
  | missingSlots found => s!"payload has {found} slots (expected {Slot.count})"
  | invalidSlot slot value => s!"slot {slot.name} has invalid value {Text.quoted value}"
  | unknownAction code => s!"unknown action code {code}"
  | pointCount declared found => s!"declared {declared} points, found {found}"

end MotionLink
