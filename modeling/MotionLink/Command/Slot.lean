import MotionLink.Text.Search

/-!
# Slots

A command travels as ten slots of text with a bar between neighbours. Points stand in one slot,
separated by commas, and the components of a point by semicolons.

## Main definitions

* `Slot` — the ten slots
* `Slot.payload` — the command whose slots hold given texts
* `isReserved` — the characters that would be taken for separators
-/

namespace MotionLink

/-- The slots of a command, in order. -/
inductive Slot where
  | action
  | pointCount
  | points
  | ioPoint
  | ioPin
  | ioState
  | tool
  | base
  | speed
  | id
deriving DecidableEq

namespace Slot

/-- Stands between slots. -/
def bar : Char := '|'

/-- Stands between points. -/
def comma : Char := ','

/-- Stands between the components of a point. -/
def semicolon : Char := ';'

/-- Ends a command on the wire. -/
def hash : Char := '#'

/-- Every slot, in order. -/
def all : List Slot :=
  [action, pointCount, points, ioPoint, ioPin, ioState, tool, base, speed, id]

/-- The number of slots. -/
def count : Nat := 10

/-- The place of a slot, from zero. -/
def index : Slot → Nat
  | action => 0
  | pointCount => 1
  | points => 2
  | ioPoint => 3
  | ioPin => 4
  | ioState => 5
  | tool => 6
  | base => 7
  | speed => 8
  | id => 9

/-- The name of a slot in messages. -/
def name : Slot → String
  | action => "ACTION"
  | pointCount => "NUM_POINTS"
  | points => "POINTS"
  | ioPoint => "IO_POINT"
  | ioPin => "IO_PIN"
  | ioState => "IO_STATE"
  | tool => "TOOL"
  | base => "BASE"
  | speed => "SPEED"
  | id => "ID"

/-- The command whose slots hold the given texts. -/
def payload (texts : Slot → List Char) : List Char := [bar].intercalate (all.map texts)

end Slot

/-- A character that would be taken for a separator or for the end of a command. -/
def isReserved (c : Char) : Bool :=
  c == Slot.bar || c == Slot.semicolon || c == Slot.comma || c == Slot.hash

end MotionLink
