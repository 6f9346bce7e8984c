import MotionLink.Proofs.Command.Canonical
import MotionLink.Proofs.Command.FirstFault

/-!
# Angles in degrees

The unit in which angles are given is no part of a request. A motion given in degrees is sent, or
refused, as the motion whose angles have each been multiplied by one degree beforehand; nothing else
of it changes. The checks come before the conversion, and they do not see it: a product with one
degree is finite exactly if the angle is, and the number of components stays.

## Main definitions

* `degree` — one degree in radians, half a turn divided by 180
* `Point.toRadians`, `Motion.toRadians` — points and motions with their angles in radians

## Main results

* `isFinite_mul_degree` — a product with one degree is finite exactly if the angle is
* `Point.inRadians_degrees` — a point given in degrees is sent with its angles in radians
* `Motion.fault?_toRadians` — the same rule is broken first, in the same place
* `Intent.convertsOnce` — a motion in degrees is sent as its conversion, and the unit is nothing to
  other requests
-/

namespace MotionLink

/-- Half a turn in radians: the double nearest to pi. -/
def halfTurn : Binary64 := .ofDecimal false 3141592653589793 (-15)

/-- One degree in radians. -/
def degree : Binary64 := halfTurn / .ofNat 180

/-- The quotient is the double nearest to pi / 180. -/
theorem radiansPerDegree_eq_degree : radiansPerDegree = degree := by decide +kernel

/-- Every component of a joint point, and the last three of a cartesian one, in radians. -/
def Point.toRadians (p : Point) : Point :=
  match p.kind? with
  | some .joint => ⟨p.components.map (· * degree)⟩
  | some .cartesian => ⟨p.components.take 3 ++ (p.components.drop 3).map (· * degree)⟩
  | none => p

/-- The motion with the angles of its points in radians. -/
def Motion.toRadians (m : Motion) : Motion := { m with points := m.points.map Point.toRadians }

/-! ### Angles -/

/-- Angles stay finite, and neither infinities nor what is no number become so. -/
theorem isFinite_mul_degree (x : Binary64) : (x * degree).isFinite = x.isFinite := by
  -- One degree is a finite double no larger than one, and that is all that is used of it.
  obtain ⟨m, hdegree, hle⟩ := exists_radiansPerDegree
  rw [← radiansPerDegree_eq_degree, hdegree]
  cases x with
  | nan => rfl
  | infinite s =>
    change (Binary64.mul (.infinite s) (.finite false m)).isFinite = false
    rw [Binary64.mul]
    split <;> rfl
  | finite s n => exact Binary64.isFinite_mul (x := .finite s n) rfl hle

namespace Point

variable {p : Point}

theorem kind?_eq_some_iff {kind : PointKind} :
    p.kind? = some kind ↔ p.components.length = kind.arity :=
  PointKind.ofLength?_eq_some_iff

theorem length_toRadians (p : Point) : p.toRadians.components.length = p.components.length := by
  rw [toRadians]
  split
  · exact List.length_map _
  · rw [List.length_append, List.length_map, ← List.length_append, List.take_append_drop]
  · rfl

theorem kind?_toRadians (p : Point) : p.toRadians.kind? = p.kind? := by
  rw [kind?, kind?, length_toRadians]

/-- Each component is finite exactly if it was. -/
theorem map_isFinite_toRadians (p : Point) :
    p.toRadians.components.map Binary64.isFinite = p.components.map Binary64.isFinite := by
  have hmap (xs : List Binary64) :
      (xs.map (· * degree)).map Binary64.isFinite = xs.map Binary64.isFinite := by
    rw [List.map_map]
    exact List.map_congr_left fun x _ => isFinite_mul_degree x
  rw [toRadians]
  split
  · exact hmap _
  · rw [List.map_append, hmap, ← List.map_append, List.take_append_drop]
  · rfl

/-- A point given in degrees is sent with its angles in radians. -/
theorem inRadians_degrees (p : Point) : p.inRadians .degrees = p.toRadians.components := by
  have hangle (x : Binary64) : AngleUnit.degrees.toRadians x = x * degree := by
    rw [AngleUnit.toRadians, radiansPerDegree_eq_degree]
  simp only [inRadians, toRadians, hangle]
  split
  · rename_i hkind
    simp [hkind]
  · rename_i kind hkind
    have hlength := kind?_eq_some_iff.mp hkind
    simp only [hkind]
    cases kind with
    | joint =>
      apply List.ext_getElem (by simp)
      intro i hi _
      have hi : i < 7 := by simpa [hlength, PointKind.arity] using hi
      simp [PointKind.isAngle, hi]
    | cartesian =>
      apply List.ext_getElem (by simp [hlength, PointKind.arity])
      intro i hi _
      have hi : i < 6 := by simpa [hlength, PointKind.arity] using hi
      simp only [List.getElem_mapIdx, PointKind.isAngle, hi, List.getElem_append, List.getElem_take,
        List.getElem_map, List.getElem_drop, List.length_take, hlength, PointKind.arity]
      by_cases hthree : 3 ≤ i <;> simp [hthree]

/-- A point in radians is written as one in degrees whose angles it has. -/
theorem chars_toRadians (p : Point) : p.toRadians.chars .radians = p.chars .degrees := by
  have hsame : p.toRadians.inRadians .radians = p.toRadians.components :=
    congrArg Point.components p.toRadians.readBack_radians
  rw [chars, chars, hsame, inRadians_degrees]

theorem fault?_toRadians (expected : PointKind) (index : Nat) (p : Point) :
    p.toRadians.fault? expected index = p.fault? expected index := by
  have hfinite (xs : List Binary64) : (xs.findIdx? fun x => !x.isFinite) =
      (xs.map Binary64.isFinite).findIdx? fun b => !b := by
    rw [List.findIdx?_map]
    rfl
  rw [fault?, fault?, kind?_toRadians, hfinite, map_isFinite_toRadians, ← hfinite]

theorem arityFault?_toRadians (index : Nat) (p : Point) :
    p.toRadians.arityFault? index = p.arityFault? index := by
  rw [arityFault?, arityFault?, kind?_toRadians, length_toRadians]

end Point

/-! ### Motions -/

theorem firstFault_map {α ε : Type} {fault? : Nat → α → Option ε} {f : α → α}
    (h : ∀ index x, fault? index (f x) = fault? index x) (index : Nat) (items : List α) :
    firstFault fault? index (items.map f) = firstFault fault? index items := by
  induction items generalizing index with
  | nil => rfl
  | cons x items ih => rw [List.map_cons, firstFault, firstFault, h, ih]

namespace Motion

/-- The same rule is broken first, in the same place. -/
theorem fault?_toRadians (m : Motion) : m.toRadians.fault? = m.fault? := by
  have harity : MotionLink.arityFault? 0 m.toRadians.points =
      MotionLink.arityFault? 0 m.points := by
    rw [arityFault?_eq_firstFault, arityFault?_eq_firstFault]
    exact firstFault_map Point.arityFault?_toRadians 0 m.points
  have hpoints : pointsFault? m.pointKind 0 m.toRadians.points =
      pointsFault? m.pointKind 0 m.points := by
    rw [pointsFault?_eq_firstFault, pointsFault?_eq_firstFault]
    exact firstFault_map (Point.fault?_toRadians m.pointKind) 0 m.points
  have hempty : m.toRadians.points.isEmpty = m.points.isEmpty := List.isEmpty_map
  have hkind : m.toRadians.pointKind = m.pointKind := rfl
  rw [fault?, harity, hempty, hkind, hpoints, fault?]
  rfl

theorem slots_toRadians (m : Motion) : m.toRadians.slots .radians = m.slots .degrees := by
  funext slot
  cases slot with
  | points =>
    rw [slots, slots, pointsChars, pointsChars, toRadians, List.map_map]
    refine congrArg _ (List.map_congr_left fun p _ => ?_)
    exact p.chars_toRadians
  | pointCount =>
    rw [slots, slots, toRadians, List.length_map]
  | _ => rfl

end Motion

namespace Intent

/-- A motion in degrees is sent, or refused, as the motion with its angles in radians. What switches
an output or starts a program is the same in either unit. -/
theorem convertsOnce :
    (∀ m : Motion, (motion m).encode .degrees = (motion m.toRadians).encode .radians) ∧
      (∀ (o : OutputSwitch) (unit other : AngleUnit),
        (output o).encode unit = (output o).encode other) ∧
      ∀ (p : ProgramStart) (unit other : AngleUnit),
        (program p).encode unit = (program p).encode other := by
  refine ⟨fun m => ?_, fun o unit other => rfl, fun p unit other => rfl⟩
  have hfault : (motion m.toRadians).fault? = (motion m).fault? := m.fault?_toRadians
  have hslots : (motion m.toRadians).slots .radians = (motion m).slots .degrees :=
    m.slots_toRadians
  rw [encode, encode, hfault, hslots]

end Intent

end MotionLink
