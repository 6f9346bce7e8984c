/-!
# Actions

The first slot of a command holds a number that says what the controller is to do.

```text
           joint   joint, blended   cartesian   cartesian, blended
  PTP        1           7              2               8
  LIN        3           3              4               9
  CIRC       5           5              6               6
```

Linear moves in joint space and circular moves have no blended form. Outputs are switched by 10
and programs started by 100. The relative moves 11 and 12 are understood and never sent.

## Main definitions

* `Action`, `Action.code`, `Action.ofCode?` — the table
* `Action.forMotion` — the action of a motion
-/

namespace MotionLink

/-- How the arm moves between two points. -/
inductive MotionFamily where
  /-- the joints move independently -/
  | pointToPoint
  /-- along a straight line -/
  | linear
  /-- along an arc through an auxiliary point -/
  | circular
deriving DecidableEq

/-- The short name of a family. -/
def MotionFamily.name : MotionFamily → String
  | pointToPoint => "PTP"
  | linear => "LIN"
  | circular => "CIRC"

/-- What a command is about. -/
inductive Category where
  | movement
  | output
  | program
deriving DecidableEq

/-- What the controller is to do. -/
inductive Action where
  | ptpAxis
  | ptpFrame
  | linAxis
  | linFrame
  | circAxis
  | circFrame
  | ptpAxisBlended
  | ptpFrameBlended
  | linFrameBlended
  | activateIo
  | linRelTool
  | linRelBase
  | programCall
deriving DecidableEq

namespace Action

/-- Every action, by its number. -/
def all : List Action :=
  [ptpAxis, ptpFrame, linAxis, linFrame, circAxis, circFrame, ptpAxisBlended, ptpFrameBlended,
   linFrameBlended, activateIo, linRelTool, linRelBase, programCall]

/-- The number on the wire. -/
def code : Action → Nat
  | ptpAxis => 1
  | ptpFrame => 2
  | linAxis => 3
  | linFrame => 4
  | circAxis => 5
  | circFrame => 6
  | ptpAxisBlended => 7
  | ptpFrameBlended => 8
  | linFrameBlended => 9
  | activateIo => 10
  | linRelTool => 11
  | linRelBase => 12
  | programCall => 100

/-- The action with a number, if there is one. -/
def ofCode? (n : Nat) : Option Action := all.find? fun a => a.code == n

/-- The action of a motion: its family, whether it is blended into the next motion, and whether
its points are joint values. -/
def forMotion (family : MotionFamily) (blended joint : Bool) : Action :=
  match family, joint, blended with
  | .pointToPoint, true, false => ptpAxis
  | .pointToPoint, true, true => ptpAxisBlended
  | .pointToPoint, false, false => ptpFrame
  | .pointToPoint, false, true => ptpFrameBlended
  | .linear, true, _ => linAxis
  | .linear, false, false => linFrame
  | .linear, false, true => linFrameBlended
  | .circular, true, _ => circAxis
  | .circular, false, _ => circFrame

/-- What the action is about. -/
def category : Action → Category
  | activateIo => .output
  | programCall => .program
  | _ => .movement

/-- The family of a motion. -/
def family? : Action → Option MotionFamily
  | ptpAxis | ptpFrame | ptpAxisBlended | ptpFrameBlended => some .pointToPoint
  | linAxis | linFrame | linFrameBlended | linRelTool | linRelBase => some .linear
  | circAxis | circFrame => some .circular
  | activateIo | programCall => none

/-- The points are joint values. -/
def isJoint : Action → Bool
  | ptpAxis | ptpAxisBlended | linAxis | circAxis => true
  | _ => false

/-- The points are cartesian. -/
def isCartesian (a : Action) : Bool := a.category == .movement && !a.isJoint

/-- The motion is blended into the next one. -/
def isBlended : Action → Bool
  | ptpAxisBlended | ptpFrameBlended | linFrameBlended => true
  | _ => false

/-- The name of the action. -/
def name : Action → String
  | ptpAxis => "PTP_AXIS"
  | ptpFrame => "PTP_FRAME"
  | linAxis => "LIN_AXIS"
  | linFrame => "LIN_FRAME"
  | circAxis => "CIRC_AXIS"
  | circFrame => "CIRC_FRAME"
  | ptpAxisBlended => "PTP_AXIS_C"
  | ptpFrameBlended => "PTP_FRAME_C"
  | linFrameBlended => "LIN_FRAME_C"
  | activateIo => "ACTIVATE_IO"
  | linRelTool => "LIN_REL_TOOL"
  | linRelBase => "LIN_REL_BASE"
  | programCall => "PROGRAM_CALL"

/-- The name with the number behind it. -/
def describe (a : Action) : String := s!"{a.name} ({a.code})"

end Action

end MotionLink
