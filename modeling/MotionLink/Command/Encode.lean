import MotionLink.Command.Error
import MotionLink.Text.Blank

/-!
# Writing commands

A request is checked first: the first rule that it breaks is the reason it is refused. Angles are
sent in radians.

## Main definitions

* `AngleUnit` — the unit in which angles are given
* `Motion.fault?`, `OutputSwitch.fault?`, `ProgramStart.fault?` — the first rule broken
* `Intent.encode` — the payload of a request, or why it is refused
-/

namespace MotionLink

/-- The unit in which angles are given. -/
inductive AngleUnit where
  | radians
  | degrees
deriving DecidableEq

/-- One degree in radians. -/
def radiansPerDegree : Binary64 := .ofDecimal false 17453292519943295 (-18)

/-- An angle in radians. -/
def AngleUnit.toRadians : AngleUnit → Binary64 → Binary64
  | radians, x => x
  | degrees, x => x * radiansPerDegree

/-- The first separator in a free text. -/
def reservedFault? (field : TextField) (value : String) : Option CommandError :=
  (value.toList.find? isReserved).map (.reservedChar field)

/-- A free text that has to say something: blank, or with a separator in it. -/
def requiredFault? (field : TextField) (value : String) : Option CommandError :=
  if Text.isAllBlank value.toList then some (.blankField field) else reservedFault? field value

/-- An id that is blank or has a separator in it. -/
def idFault? (id : String) : Option CommandError :=
  if Text.isAllBlank id.toList then some .blankId else reservedFault? .id id

/-- The first point with a number of components that no kind has, counted from `index`. -/
def arityFault? (index : Nat) : List Point → Option CommandError
  | [] => none
  | p :: rest =>
    match p.kind? with
    | none => some (.pointArity index p.components.length)
    | some _ => arityFault? (index + 1) rest

/-- What is wrong with one point: another kind than expected, or a component without a finite
value. -/
def Point.fault? (expected : PointKind) (index : Nat) (p : Point) : Option CommandError :=
  match p.kind?.filter (· ≠ expected) with
  | some found => some (.pointKind index expected found)
  | none => (p.components.findIdx? fun x => !x.isFinite).map (.notFinite index)

/-- The first thing wrong with any of the points, counted from `index`. -/
def pointsFault? (expected : PointKind) (index : Nat) : List Point → Option CommandError
  | [] => none
  | p :: rest => (p.fault? expected index).or (pointsFault? expected (index + 1) rest)

/-- Something is wrong unless the condition holds. -/
def faultUnless (ok : Bool) (e : CommandError) : Option CommandError := if ok then none else some e

/-- The first rule that a motion breaks. -/
def Motion.fault? (m : Motion) : Option CommandError :=
  -- The number of components comes first, since it settles what a point is.
  (arityFault? 0 m.points).or <|
  (idFault? m.id).or <|
  (faultUnless (!m.points.isEmpty) .noPoints).or <|
  (pointsFault? m.pointKind 0 m.points).or <|
  (faultUnless m.speed.isFraction (.speedOutOfRange m.speed)).or <|
  (reservedFault? .tool m.tool).or <|
  (reservedFault? .base m.base)

/-- The first rule that a switch breaks. -/
def OutputSwitch.fault? (o : OutputSwitch) : Option CommandError :=
  (idFault? o.id).or (requiredFault? .pin o.pin)

/-- The first rule that a program start breaks. -/
def ProgramStart.fault? (p : ProgramStart) : Option CommandError :=
  (idFault? p.id).or (requiredFault? .program p.program)

/-- The components of a point with its angles in radians. -/
def Point.inRadians (unit : AngleUnit) (p : Point) : List Binary64 :=
  match p.kind? with
  | none => p.components
  | some kind => p.components.mapIdx fun i x => if kind.isAngle i then unit.toRadians x else x

/-- A point as it stands in its slot. -/
def Point.chars (unit : AngleUnit) (p : Point) : List Char :=
  [Slot.semicolon].intercalate ((p.inRadians unit).map Binary64.wireChars)

/-- The slot of the points. -/
def pointsChars (unit : AngleUnit) (points : List Point) : List Char :=
  [Slot.comma].intercalate (points.map (Point.chars unit))

/-- A natural in decimal. -/
def naturalChars (n : Nat) : List Char := Nat.toDigits 10 n

/-- The action of a motion. -/
def Motion.action (m : Motion) : Action := .forMotion m.family m.blended m.joint

/-- The slots of a motion. -/
def Motion.slots (unit : AngleUnit) (m : Motion) : Slot → List Char
  | .action => naturalChars m.action.code
  | .pointCount => naturalChars m.points.length
  | .points => pointsChars unit m.points
  | .tool => m.tool.toList
  | .base => m.base.toList
  | .speed => m.speed.wireChars
  | .id => m.id.toList
  | _ => []

/-- The slots of a switch. -/
def OutputSwitch.slots (o : OutputSwitch) : Slot → List Char
  | .action => naturalChars Action.activateIo.code
  | .pointCount => ['0']
  | .ioPoint => ['0']
  | .ioPin => Text.trim o.pin.toList
  | .ioState => if o.state then ['t', 'r', 'u', 'e'] else ['f', 'a', 'l', 's', 'e']
  | .speed => ['0']
  | .id => o.id.toList
  | _ => []

/-- The slots of a program start; the program travels in the slot of the points. -/
def ProgramStart.slots (p : ProgramStart) : Slot → List Char
  | .action => naturalChars Action.programCall.code
  | .pointCount => ['0']
  | .points => Text.trim p.program.toList
  | .speed => ['0']
  | .id => p.id.toList
  | _ => []

namespace Intent

/-- The first rule that a request breaks. -/
def fault? : Intent → Option CommandError
  | motion m => m.fault?
  | output o => o.fault?
  | program p => p.fault?

/-- The slots of a request. -/
def slots (unit : AngleUnit) : Intent → Slot → List Char
  | motion m => m.slots unit
  | output o => o.slots
  | program p => p.slots

/-- The payload of a request, or why it is refused. -/
def encode (unit : AngleUnit) (intent : Intent) : Except CommandError String :=
  match intent.fault? with
  | some e => .error e
  | none => .ok (String.ofList (Slot.payload (intent.slots unit)))

end Intent

end MotionLink
