import MotionLink.Command.Action
import MotionLink.Number.Decimal

/-!
# What an operator can ask for

## Main definitions

* `Point`, `PointKind` — a target of a motion
* `Motion`, `OutputSwitch`, `ProgramStart` — the three kinds of request
* `Intent` — one of them
-/

namespace MotionLink

/-- What the components of a point are. -/
inductive PointKind where
  /-- a position and three angles -/
  | cartesian
  /-- the angles of seven joints -/
  | joint
deriving DecidableEq

namespace PointKind

/-- The number of components of a point of this kind. -/
def arity : PointKind → Nat
  | cartesian => 6
  | joint => 7

/-- The kind that a number of components belongs to. -/
def ofLength? (n : Nat) : Option PointKind :=
  if n = arity cartesian then some cartesian
  else if n = arity joint then some joint
  else none

/-- The name of the kind in messages. -/
def name : PointKind → String
  | cartesian => "cartesian"
  | joint => "joint"

/-- The component at this place is an angle. -/
def isAngle : PointKind → Nat → Bool
  | cartesian, i => 3 ≤ i && i < 6
  | joint, i => i < 7

end PointKind

/-- One target of a motion. Any number of components can be given; a motion is checked when it is
encoded, so that a message can name the place of the point. -/
structure Point where
  components : List Binary64
deriving DecidableEq

/-- What the components are, if their number fits. -/
def Point.kind? (p : Point) : Option PointKind := PointKind.ofLength? p.components.length

/-- Move the arm through one or more points. -/
structure Motion where
  family : MotionFamily
  /-- blend into the next motion instead of stopping -/
  blended : Bool
  /-- the points are joint values -/
  joint : Bool
  points : List Point
  /-- the tool by name; empty for the active one -/
  tool : String
  /-- the base by name; empty for the active one -/
  base : String
  /-- the fraction of full speed -/
  speed : Binary64
  id : String

namespace Motion

/-- The fraction of full speed when none is given: one quarter. -/
def defaultSpeed : Binary64 := .ofDecimal false 25 (-2)

/-- The first point has as many components as there are joints. -/
def startsWithJoints (points : List Point) : Bool :=
  (points.head?.bind Point.kind?) == some .joint

/-- The kind that every point has to be of. -/
def pointKind (m : Motion) : PointKind := if m.joint then .joint else .cartesian

end Motion

/-- Switch a digital output. -/
structure OutputSwitch where
  pin : String
  state : Bool
  id : String

/-- Start a program stored on the controller. -/
structure ProgramStart where
  program : String
  id : String

/-- What an operator can ask for. -/
inductive Intent where
  | motion (motion : Motion)
  | output (output : OutputSwitch)
  | program (program : ProgramStart)

/-- The token that ties a request to the log of the controller. -/
def Intent.id : Intent → String
  | motion m => m.id
  | output o => o.id
  | program p => p.id

end MotionLink
