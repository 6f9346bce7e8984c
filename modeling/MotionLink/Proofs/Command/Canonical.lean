import MotionLink.Proofs.Command.Reading

/-!
# The canonical form of a motion

Many payloads are read as the same motion: blanks, the spelling of numbers, a terminator at the end
and further slots make no difference. If what is read is accepted as a request, the payload that is
written for it is read as the same command, and writing again changes nothing. So payloads with a
canonical form are read alike exactly if they have the same one.

The action is found again from the family, from whether the motion is blended and from the kind of
its points. The relative moves alone have no place in that table.

## Main definitions

* `Decoded.motion?` — the motion that a command asks for
* `Motion.canonical?` — the payload that is written for what a payload is read as
* `Motion.IsCanonical` — what is to be expected of that payload

## Main results

* `Action.forMotion_eq_iff` — every action but the relative moves is found again
* `Decoded.readBack_of_motion?` — a command is what its motion is read back as
* `Motion.isCanonical` — the payload written for what is read is canonical
-/

namespace MotionLink

/-! ### Actions -/

namespace Action

/-- A move relative to the tool or to the base, which is understood and never sent. -/
def isRelative : Action → Bool
  | linRelTool | linRelBase => true
  | _ => false

/-- Every action but the relative moves is found again from its family, whether it is blended and
whether its points are joint values. -/
theorem forMotion_eq_iff {action : Action} {family : MotionFamily}
    (h : action.family? = some family) :
    forMotion family action.isBlended action.isJoint = action ↔ action.isRelative = false := by
  cases action <;> cases h <;> decide

theorem isSome_family?_iff (action : Action) :
    action.family?.isSome = true ↔ action.category = .movement := by
  cases action <;> decide

end Action

/-! ### Motions -/

/-- In radians a point is sent as it is given. -/
theorem Point.readBack_radians (p : Point) : p.readBack .radians = p := by
  have hsame : p.components.mapIdx (fun _ x => x) = p.components :=
    List.ext_getElem? fun i => by simp
  rw [readBack, inRadians]
  split
  · rfl
  · simp [AngleUnit.toRadians, hsame]

namespace Decoded

/-- The motion that a command asks for. There is none for a relative move, and none when the speed
is left out. -/
def motion? (d : Decoded) : Option Motion :=
  match d.content, d.action.family?, d.speed with
  | .movement points, some family, some speed =>
    if d.action.isRelative then none
    else
      some { family, blended := d.action.isBlended, joint := d.action.isJoint, points,
             tool := d.tool, base := d.base, speed, id := d.id }
  | _, _, _ => none

variable {d : Decoded} {m : Motion} {slot : Slot → List Char}

theorem motion?_eq_some_iff :
    d.motion? = some m ↔
      d.content = .movement m.points ∧ d.action.family? = some m.family ∧ d.speed = some m.speed ∧
        d.action.isRelative = false ∧ m.blended = d.action.isBlended ∧ m.joint = d.action.isJoint ∧
        m.tool = d.tool ∧ m.base = d.base ∧ m.id = d.id := by
  constructor
  · intro h
    rw [motion?] at h
    split at h
    · rename_i hcontent hfamily hspeed
      split at h
      · cases h
      · rename_i hrelative
        obtain rfl := Option.some.inj h
        exact ⟨hcontent, hfamily, hspeed, by simpa using hrelative, rfl, rfl, rfl, rfl, rfl⟩
    · cases h
  · obtain ⟨family, blended, joint, points, tool, base, speed, id⟩ := m
    rintro ⟨hcontent, hfamily, hspeed, hrelative, rfl, rfl, rfl, rfl, rfl⟩
    simp [motion?, hcontent, hfamily, hspeed, hrelative]

/-- A motion is asked for by every command that moves the arm at a given speed, the relative moves
apart. -/
theorem isSome_motion?_iff (h : d.ReadsAs slot) :
    d.motion?.isSome = true ↔
      d.action.category = .movement ∧ d.action.isRelative = false ∧ d.speed.isSome = true := by
  constructor
  · intro hsome
    obtain ⟨m, hm⟩ := Option.isSome_iff_exists.mp hsome
    obtain ⟨-, hfamily, hspeed, hrelative, -⟩ := motion?_eq_some_iff.mp hm
    refine ⟨(Action.isSome_family?_iff _).mp ?_, hrelative, ?_⟩
    · rw [hfamily, Option.isSome_some]
    · rw [hspeed, Option.isSome_some]
  · rintro ⟨hcategory, hrelative, hspeed⟩
    obtain ⟨family, hfamily⟩ :=
      Option.isSome_iff_exists.mp ((Action.isSome_family?_iff _).mpr hcategory)
    obtain ⟨speed, hspeed⟩ := Option.isSome_iff_exists.mp hspeed
    obtain ⟨points, hcontent, -⟩ := h.content.exists_points hcategory
    simp [motion?, hcontent, hfamily, hspeed, hrelative]

/-- As many points are declared as there are, and no more than can be declared. -/
theorem pointCount_of_motion? (h : d.ReadsAs slot) (hm : d.motion? = some m) :
    m.points.length = d.pointCount ∧ m.points.length < wordBound := by
  obtain ⟨hcontent, -⟩ := motion?_eq_some_iff.mp hm
  have hread := h.content
  rw [hcontent] at hread
  obtain ⟨-, -, hcount⟩ := hread
  exact ⟨hcount, hcount ▸ lt_of_readNatural h.pointCount⟩

/-- A command that was read is what its motion is read back as. -/
theorem readBack_of_motion? {payload : String} (h : d.ReadsAs (slotsOf payload))
    (hm : d.motion? = some m) : m.readBack .radians = d := by
  obtain ⟨hcount, -⟩ := pointCount_of_motion? h hm
  obtain ⟨hcontent, hfamily, hspeed, hrelative, hblended, hjoint, htool, hbase, hid⟩ :=
    motion?_eq_some_iff.mp hm
  have haction : m.action = d.action := by
    rw [Motion.action, hblended, hjoint]
    exact (Action.forMotion_eq_iff hfamily).mpr hrelative
  have hpoints : m.points.map (Point.readBack .radians) = m.points :=
    (List.map_congr_left fun p _ => p.readBack_radians).trans (List.map_id m.points)
  -- Free texts come without the blanks around their slots, so trimming them again does nothing.
  have htrimmed (name : Slot) :
      Text.trimmed (String.ofList (slotsOf payload name)) = String.ofList (slotsOf payload name) := by
    rw [Text.trimmed, String.toList_ofList, slotsOf, trim_slotText]
  rw [Motion.readBack, haction, hcount, hpoints, htool, hbase, hid, h.tool, h.base, h.id,
    htrimmed, htrimmed, htrimmed, ← h.tool, ← h.base, ← h.id, ← hcontent, ← hspeed]

end Decoded

/-! ### Canonical payloads -/

namespace Motion

/-- The payload that is written for what a payload is read as, if that is accepted. -/
def canonical? (payload : String) : Option String :=
  match Decoded.ofPayload payload with
  | .error _ => none
  | .ok d => d.motion?.bind fun m => ((Intent.motion m).encode .radians).toOption

/-- What is to be expected of the payload that is written for what another one is read as. -/
structure IsCanonical (payload canonical : String) : Prop where
  /-- it is read as the same command -/
  same : Decoded.ofPayload canonical = Decoded.ofPayload payload
  /-- writing what it is read as gives the same payload -/
  fixed : canonical? canonical = some canonical
  /-- it is the form of exactly those payloads that are read as the same command -/
  unique : ∀ other form, canonical? other = some form →
    (form = canonical ↔ Decoded.ofPayload other = Decoded.ofPayload payload)

variable {payload canonical : String} {d : Decoded} {m : Motion}

theorem canonical?_eq_some (hread : Decoded.ofPayload payload = .ok d)
    (hmotion : d.motion? = some m) (hwrite : (Intent.motion m).encode .radians = .ok canonical) :
    canonical? payload = some canonical := by
  simp only [canonical?, hread, hmotion, hwrite, Option.bind_some]
  rfl

theorem exists_of_canonical?_eq_some (h : canonical? payload = some canonical) :
    ∃ d m, Decoded.ofPayload payload = .ok d ∧ d.motion? = some m ∧
      (Intent.motion m).encode .radians = .ok canonical := by
  rw [canonical?] at h
  split at h
  · cases h
  · rename_i d hread
    obtain ⟨m, hmotion, h⟩ := Option.bind_eq_some_iff.mp h
    refine ⟨d, m, hread, hmotion, ?_⟩
    cases hwrite : (Intent.motion m).encode .radians with
    | error e =>
      rw [hwrite] at h
      cases h
    | ok written =>
      rw [hwrite] at h
      exact congrArg Except.ok (Option.some.inj h)

/-- What is written for a motion that was read is read as the same command. -/
theorem ofPayload_of_motion? (hread : Decoded.ofPayload payload = .ok d)
    (hmotion : d.motion? = some m) (hwrite : (Intent.motion m).encode .radians = .ok canonical) :
    Decoded.ofPayload canonical = .ok d := by
  obtain ⟨-, hslots⟩ := Decoded.ofPayload_eq_ok_iff.mp hread
  obtain ⟨-, hcount⟩ := Decoded.pointCount_of_motion? hslots hmotion
  rw [Intent.ofPayload_encode hwrite hcount]
  exact congrArg Except.ok (Decoded.readBack_of_motion? hslots hmotion)

theorem ofPayload_of_canonical? (h : canonical? payload = some canonical) :
    Decoded.ofPayload canonical = Decoded.ofPayload payload := by
  obtain ⟨d, m, hread, hmotion, hwrite⟩ := exists_of_canonical?_eq_some h
  rw [ofPayload_of_motion? hread hmotion hwrite, hread]

theorem canonical?_congr {other : String}
    (h : Decoded.ofPayload other = Decoded.ofPayload payload) :
    canonical? other = canonical? payload := by
  rw [canonical?, h, canonical?]

/-- Of a payload that is read as a motion at some speed, no relative move, the payload that is
written for that motion is the canonical form. -/
theorem isCanonical (hread : Decoded.ofPayload payload = .ok d)
    (hmoves : d.action.category = .movement) (habsolute : d.action.isRelative = false)
    (hspeed : d.speed.isSome = true) :
    ∃ m, d.motion? = some m ∧
      ∀ canonical, (Intent.motion m).encode .radians = .ok canonical →
        IsCanonical payload canonical := by
  obtain ⟨-, hslots⟩ := Decoded.ofPayload_eq_ok_iff.mp hread
  obtain ⟨m, hmotion⟩ := Option.isSome_iff_exists.mp
    ((Decoded.isSome_motion?_iff hslots).mpr ⟨hmoves, habsolute, hspeed⟩)
  refine ⟨m, hmotion, fun canonical hwrite => ?_⟩
  have hform := canonical?_eq_some hread hmotion hwrite
  have hsame := ofPayload_of_canonical? hform
  constructor
  case same => exact hsame
  case fixed => rw [canonical?_congr hsame, hform]
  case unique =>
    intro other form hother
    constructor
    · rintro rfl
      rw [← ofPayload_of_canonical? hother, hsame]
    · intro halike
      rw [canonical?_congr halike, hform] at hother
      exact (Option.some.inj hother).symm

/-- Blanks, signs, an exponent, zeros without need and with a sign, a further slot and a terminator
are gone from the canonical form; the sign of a zero is not. -/
theorem isCanonical_of_spaced_motion :
    let payload := " +9 |01| 1e2 ;-0; .5;+0;0;0 ||x|| t |b|0.50| id |more# "
    let canonical := "9|1|100;-0;0.5;0;0;0||||t|b|0.5|id"
    ∃ d m, Decoded.ofPayload payload = .ok d ∧ d.action.category = .movement ∧
      d.action.isRelative = false ∧ d.speed.isSome = true ∧ d.motion? = some m ∧
      (Intent.motion m).encode .radians = .ok canonical ∧ IsCanonical payload canonical := by
  intro payload canonical
  have hform : canonical? payload = some canonical := by decide +kernel
  obtain ⟨d, m, hread, hmotion, hwrite⟩ := exists_of_canonical?_eq_some hform
  obtain ⟨-, hslots⟩ := Decoded.ofPayload_eq_ok_iff.mp hread
  obtain ⟨hmoves, habsolute, hspeed⟩ :=
    (Decoded.isSome_motion?_iff hslots).mp (Option.isSome_of_eq_some hmotion)
  obtain ⟨m', hmotion', hcanonical⟩ := isCanonical hread hmoves habsolute hspeed
  obtain rfl := Option.some_inj.mp (hmotion'.symm.trans hmotion)
  exact ⟨d, m', hread, hmoves, habsolute, hspeed, hmotion', hwrite, hcanonical canonical hwrite⟩

end Motion

end MotionLink
