import MotionLink.Command.Error
import MotionLink.Json.Value
import MotionLink.Text.Blank

/-!
# Reading commands

Blanks around slots and around the components of a point do not count, one terminator may follow
the last slot, and slots past the tenth are not looked at. Numbers are taken as they stand.

## Main definitions

* `Decoded`, `Content` — a command read back
* `Decoded.ofPayload` — read a command
* `Decoded.toJson` — its JSON form
-/

namespace MotionLink

/-- The slots that switch an output. -/
structure OutputSlots where
  point : String
  pin : String
  state : Bool

/-- What a command is about, with what belongs to it. -/
inductive Content where
  | movement (points : List Point)
  | output (slots : OutputSlots)
  | program (name : String)

/-- A command read back. -/
structure Decoded where
  action : Action
  /-- the number of points that the command declares -/
  pointCount : Nat
  content : Content
  tool : String
  base : String
  speed : Option Binary64
  id : String

/-- The bound of the numbers that count points. -/
def wordBound : Nat := 18446744073709551616

/-- The bound of action numbers. -/
def actionBound : Nat := 65536

/-- What a slot was read as, or that it holds something else. -/
def slotValue {α : Type} (slot : Slot) (text : List Char) (value : Option α) :
    Except CommandError α :=
  match value with
  | some v => .ok v
  | none => .error (.invalidSlot slot (String.ofList text))

/-- One component of a point. -/
def readComponent (text : List Char) : Except CommandError Binary64 :=
  let text := Text.trim text
  slotValue .points text (Binary64.read text)

/-- The components of a point, in order. -/
def readComponents : List (List Char) → Except CommandError (List Binary64)
  | [] => .ok []
  | c :: rest => do
    let x ← readComponent c
    let xs ← readComponents rest
    pure (x :: xs)

/-- The point at place `index`: its components, then their number, then its kind. -/
def readPoint (expected : PointKind) (index : Nat) (text : List Char) :
    Except CommandError Point := do
  -- A component that is no number counts before a wrong number of components.
  let components ← readComponents (text.splitOn Slot.semicolon)
  match PointKind.ofLength? components.length with
  | none => .error (.pointArity index components.length)
  | some found =>
    if found ≠ expected then .error (.pointKind index expected found) else pure ⟨components⟩

/-- The points from place `index` on. -/
def readPointsFrom (expected : PointKind) (index : Nat) :
    List (List Char) → Except CommandError (List Point)
  | [] => .ok []
  | t :: rest => do
    let p ← readPoint expected index t
    let ps ← readPointsFrom expected (index + 1) rest
    pure (p :: ps)

/-- The slot of the points. An empty slot holds none. -/
def readPoints (expected : PointKind) (text : List Char) : Except CommandError (List Point) :=
  if text.isEmpty then .ok [] else readPointsFrom expected 0 (text.splitOn Slot.comma)

/-- The slot of a fraction of full speed, which may be empty. -/
def readSpeed (text : List Char) : Except CommandError (Option Binary64) :=
  if text.isEmpty then .ok none
  else (slotValue .speed text (Binary64.read text)).map some

/-- The slot of a switch position, in either case. -/
def readState (text : List Char) : Except CommandError Bool :=
  let word := Text.lower text
  if word = ['t', 'r', 'u', 'e'] then .ok true
  else if word = ['f', 'a', 'l', 's', 'e'] then .ok false
  else .error (.invalidSlot .ioState (String.ofList word))

/-- The kind of point that an action moves through. -/
def Action.pointKind (a : Action) : PointKind := if a.isJoint then .joint else .cartesian

/-- Read what belongs to the category of the action. -/
def readContent (action : Action) (pointCount : Nat) (slot : Slot → List Char) :
    Except CommandError Content :=
  match action.category with
  | .movement => do
    let points ← readPoints action.pointKind (slot .points)
    if points.length ≠ pointCount then .error (.pointCount pointCount points.length)
    else pure (.movement points)
  | .output => do
    let state ← readState (slot .ioState)
    pure (.output ⟨String.ofList (slot .ioPoint), String.ofList (slot .ioPin), state⟩)
  | .program =>
    if (slot .points).isEmpty then .error (.blankField .program)
    else .ok (.program (String.ofList (slot .points)))

/-- The action of a code in its slot. -/
def readAction (text : List Char) : Except CommandError Action := do
  let code ← slotValue .action text (readNatural actionBound text)
  match Action.ofCode? code with
  | some a => pure a
  | none => .error (.unknownAction code)

/-- The texts of the slots: the payload without blanks and a terminator at its end, cut at the
bars. -/
def payloadParts (payload : List Char) : List (List Char) :=
  let s := Text.trimEnd payload
  -- Only one terminator is taken off; another one belongs to the last slot.
  ((Text.dropLastChar? Slot.hash s).getD s).splitOn Slot.bar

/-- The text of a slot without the blanks around it. -/
def slotText (parts : List (List Char)) (slot : Slot) : List Char :=
  Text.trim ((parts[slot.index]?).getD [])

namespace Decoded

/-- Read a command from the texts of its slots, in the order in which a first fault counts. -/
def ofSlots (slot : Slot → List Char) : Except CommandError Decoded := do
  let action ← readAction (slot .action)
  let pointCount ← slotValue .pointCount (slot .pointCount) (readNatural wordBound (slot .pointCount))
  if (slot .id).isEmpty then .error .blankId
  else do
    let speed ← readSpeed (slot .speed)
    let content ← readContent action pointCount slot
    pure { action, pointCount, content, speed,
           tool := String.ofList (slot .tool), base := String.ofList (slot .base),
           id := String.ofList (slot .id) }

/-- Read a command. -/
def ofPayload (payload : String) : Except CommandError Decoded :=
  let parts := payloadParts payload.toList
  if parts.length < Slot.count then .error (.missingSlots parts.length)
  else ofSlots (slotText parts)

/-- The points of a motion. -/
def points (d : Decoded) : List Point :=
  match d.content with
  | .movement points => points
  | _ => []

/-- The slots that switch an output. -/
def output? (d : Decoded) : Option OutputSlots :=
  match d.content with
  | .output slots => some slots
  | _ => none

/-- The program to be started. -/
def program? (d : Decoded) : Option String :=
  match d.content with
  | .program name => some name
  | _ => none

/-- The JSON form; what the command does not have is left out. -/
def toJson (d : Decoded) : Json :=
  .object <|
    [("action", .string d.action.name),
     ("point_count", .integer d.pointCount),
     ("points", .array (d.points.map fun p => .array (p.components.map .double)))] ++
    Json.optional "io" (d.output?.map fun o =>
      .object [("point", .string o.point), ("pin", .string o.pin), ("state", .bool o.state)]) ++
    Json.optional "program" (d.program?.map .string) ++
    [("tool", .string d.tool), ("base", .string d.base)] ++
    Json.optional "speed" (d.speed.map .double) ++
    [("id", .string d.id)]

end Decoded

end MotionLink
