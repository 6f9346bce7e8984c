import MotionLink.Command.Encode

/-!
# Which requests are accepted

A request is accepted when it breaks none of the rules. The rules are checked one after the other
and the first one broken is reported; which requests are accepted does not depend on that order.

## Main definitions

* `IsPlain` — a free text without a separator
* `Motion.Valid`, `OutputSwitch.Valid`, `ProgramStart.Valid` — the rules
* `Intent.Valid` — the rules of whatever is asked for

## Main results

* `Intent.fault?_eq_none_iff` — no rule is found broken exactly if all rules hold
-/

namespace MotionLink

/-- A free text without a separator. -/
def IsPlain (s : String) : Prop := ∀ c ∈ s.toList, isReserved c = false

/-- A text that says something, without a separator. -/
structure IsToken (s : String) : Prop where
  notBlank : Text.isAllBlank s.toList = false
  isPlain : IsPlain s

/-- The rules for a point of a motion. -/
structure Point.Valid (expected : PointKind) (p : Point) : Prop where
  kind : p.kind? = some expected
  isFinite : ∀ x ∈ p.components, x.isFinite = true

/-- The rules for a motion. -/
structure Motion.Valid (m : Motion) : Prop where
  id : IsToken m.id
  points_ne_nil : m.points ≠ []
  points : ∀ p ∈ m.points, p.Valid m.pointKind
  speed : m.speed.isFraction = true
  tool : IsPlain m.tool
  base : IsPlain m.base

/-- The rules for a switch. -/
structure OutputSwitch.Valid (o : OutputSwitch) : Prop where
  id : IsToken o.id
  pin : IsToken o.pin

/-- The rules for a program start. -/
structure ProgramStart.Valid (p : ProgramStart) : Prop where
  id : IsToken p.id
  program : IsToken p.program

/-- The rules of whatever is asked for. -/
def Intent.Valid : Intent → Prop
  | motion m => m.Valid
  | output o => o.Valid
  | program p => p.Valid

/-! ### Free texts -/

theorem reservedFault?_eq_none_iff {field : TextField} {s : String} :
    reservedFault? field s = none ↔ IsPlain s := by
  simp [reservedFault?, IsPlain]

/-- Both for required texts and for ids, blanks are looked for before separators. -/
theorem tokenFault_eq_none_iff {field : TextField} {e : CommandError} {s : String} :
    (if Text.isAllBlank s.toList then some e else reservedFault? field s) = none ↔ IsToken s := by
  constructor
  · intro h
    split at h
    · cases h
    · rename_i hblank
      exact ⟨by simpa using hblank, reservedFault?_eq_none_iff.mp h⟩
  · intro h
    rw [if_neg (by simp [h.notBlank])]
    exact reservedFault?_eq_none_iff.mpr h.isPlain

theorem requiredFault?_eq_none_iff {field : TextField} {s : String} :
    requiredFault? field s = none ↔ IsToken s := by
  rw [requiredFault?]
  exact tokenFault_eq_none_iff

theorem idFault?_eq_none_iff {id : String} : idFault? id = none ↔ IsToken id := by
  rw [idFault?]
  exact tokenFault_eq_none_iff

/-! ### Points -/

theorem arityFault?_eq_none_iff {index : Nat} {points : List Point} :
    arityFault? index points = none ↔ ∀ p ∈ points, p.kind? ≠ none := by
  induction points generalizing index with
  | nil => simp [arityFault?]
  | cons p points ih =>
    rw [arityFault?]
    cases hkind : p.kind? with
    | none => simp [hkind]
    | some kind => simp [hkind, ih]

theorem Point.fault?_eq_none_iff {expected : PointKind} {index : Nat} {p : Point}
    (hkind : p.kind? ≠ none) : p.fault? expected index = none ↔ p.Valid expected := by
  obtain ⟨kind, hsome⟩ := Option.ne_none_iff_exists'.mp hkind
  rw [Point.fault?, hsome]
  by_cases hexpected : kind = expected
  · subst hexpected
    have hfinite : (p.components.findIdx? fun x => !x.isFinite) = none ↔
        ∀ x ∈ p.components, x.isFinite = true := by
      simp [List.findIdx?_eq_none_iff]
    simp only [Option.filter_some, ne_eq, not_true_eq_false, decide_false, Bool.false_eq_true,
      if_false, Option.map_eq_none_iff, hfinite]
    exact ⟨fun h => ⟨hsome, h⟩, fun h => h.isFinite⟩
  · simp only [Option.filter_some, ne_eq, hexpected, not_false_eq_true, decide_true, if_true,
      reduceCtorEq, false_iff]
    intro h
    exact hexpected (Option.some_inj.mp (hsome.symm.trans h.kind))

theorem pointsFault?_eq_none_iff {expected : PointKind} {index : Nat} {points : List Point}
    (hkinds : ∀ p ∈ points, p.kind? ≠ none) :
    pointsFault? expected index points = none ↔ ∀ p ∈ points, p.Valid expected := by
  induction points generalizing index with
  | nil => simp [pointsFault?]
  | cons p points ih =>
    obtain ⟨hp, hpoints⟩ := List.forall_mem_cons.mp hkinds
    rw [pointsFault?, Option.or_eq_none_iff, Point.fault?_eq_none_iff hp, ih hpoints,
      List.forall_mem_cons]

/-! ### Requests -/

theorem faultUnless_eq_none_iff {ok : Bool} {e : CommandError} :
    faultUnless ok e = none ↔ ok = true := by
  cases ok <;> simp [faultUnless]

theorem Motion.fault?_eq_none_iff {m : Motion} : m.fault? = none ↔ m.Valid := by
  simp only [Motion.fault?, Option.or_eq_none_iff, arityFault?_eq_none_iff, idFault?_eq_none_iff,
    faultUnless_eq_none_iff, reservedFault?_eq_none_iff]
  constructor
  · rintro ⟨hkinds, hid, hne, hpoints, hspeed, htool, hbase⟩
    exact ⟨hid, by simpa using hne, (pointsFault?_eq_none_iff hkinds).mp hpoints, hspeed, htool,
      hbase⟩
  · intro h
    have hkinds : ∀ p ∈ m.points, p.kind? ≠ none := by
      intro p hp
      simp [(h.points p hp).kind]
    exact ⟨hkinds, h.id, by simpa using h.points_ne_nil,
      (pointsFault?_eq_none_iff hkinds).mpr h.points, h.speed, h.tool, h.base⟩

theorem OutputSwitch.fault?_eq_none_iff {o : OutputSwitch} : o.fault? = none ↔ o.Valid := by
  rw [OutputSwitch.fault?, Option.or_eq_none_iff, idFault?_eq_none_iff,
    requiredFault?_eq_none_iff]
  exact ⟨fun h => ⟨h.1, h.2⟩, fun h => ⟨h.id, h.pin⟩⟩

theorem ProgramStart.fault?_eq_none_iff {p : ProgramStart} : p.fault? = none ↔ p.Valid := by
  rw [ProgramStart.fault?, Option.or_eq_none_iff, idFault?_eq_none_iff,
    requiredFault?_eq_none_iff]
  exact ⟨fun h => ⟨h.1, h.2⟩, fun h => ⟨h.id, h.program⟩⟩

namespace Intent

/-- No rule is found broken exactly if all rules hold. -/
theorem fault?_eq_none_iff {intent : Intent} : intent.fault? = none ↔ intent.Valid := by
  cases intent with
  | motion m => exact Motion.fault?_eq_none_iff
  | output o => exact OutputSwitch.fault?_eq_none_iff
  | program p => exact ProgramStart.fault?_eq_none_iff

theorem encode_eq_ok_iff {unit : AngleUnit} {intent : Intent} {payload : String} :
    intent.encode unit = .ok payload ↔
      intent.Valid ∧ payload = String.ofList (Slot.payload (intent.slots unit)) := by
  rw [encode, ← fault?_eq_none_iff]
  cases hfault : intent.fault? with
  | none => simp [eq_comm]
  | some e => simp

end Intent

end MotionLink
