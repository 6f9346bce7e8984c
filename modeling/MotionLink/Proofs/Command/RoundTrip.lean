import MotionLink.Proofs.Command.Acceptance
import MotionLink.Proofs.Command.Slots

/-!
# Commands read back

An accepted request has no separator in its free texts, and numbers show none, so the slots of its
payload are found where they were written. Each slot is then read as what was written to it, up to
the blanks around free text.

## Main definitions

* `Motion.readBack`, `OutputSwitch.readBack`, `ProgramStart.readBack` — a request as it is read back
* `Intent.readBack` — the same for whatever is asked for

## Main results

* `readPoints_pointsChars` — the points of a motion are read back in order
* `Intent.ofPayload_encode` — the payload of an accepted request is read back as the request
-/

namespace MotionLink

/-! ### Points -/

/-- One degree is less than one radian. -/
theorem exists_radiansPerDegree :
    ∃ m, radiansPerDegree = .finite false m ∧ m.units ≤ Magnitude.unitsPerOne :=
  ⟨⟨5030569068109113, 1016, by decide, by decide, by decide⟩, by decide +kernel, by decide +kernel⟩

theorem AngleUnit.isFinite_toRadians (unit : AngleUnit) {x : Binary64} (hx : x.isFinite = true) :
    (unit.toRadians x).isFinite = true := by
  cases unit with
  | radians => exact hx
  | degrees =>
    obtain ⟨m, hdegree, hle⟩ := exists_radiansPerDegree
    rw [AngleUnit.toRadians, hdegree]
    exact Binary64.isFinite_mul hx hle

namespace Point

variable {unit : AngleUnit} {expected : PointKind} {p : Point}

theorem length_inRadians (unit : AngleUnit) (p : Point) :
    (p.inRadians unit).length = p.components.length := by
  rw [inRadians]
  split
  · rfl
  · exact List.length_mapIdx

theorem isFinite_of_mem_inRadians (h : p.Valid expected) {x : Binary64}
    (hx : x ∈ p.inRadians unit) : x.isFinite = true := by
  rw [inRadians, h.kind] at hx
  obtain ⟨i, hi, rfl⟩ := List.mem_mapIdx.mp hx
  have hfinite := h.isFinite _ (List.getElem_mem hi)
  split
  · exact unit.isFinite_toRadians hfinite
  · exact hfinite

/-- A point shows the characters of numbers and the separator of its components. -/
theorem mem_chars (h : p.Valid expected) {c : Char} (hc : c ∈ p.chars unit) :
    Binary64.isWireChar c = true ∨ c = Slot.semicolon := by
  rcases mem_intercalate hc with hsep | ⟨t, ht, hmem⟩
  · exact .inr hsep
  · obtain ⟨x, hx, rfl⟩ := List.mem_map.mp ht
    exact .inl (Binary64.isWireChar_of_mem_wireChars (isFinite_of_mem_inRadians h hx) hmem)

theorem inRadians_ne_nil (h : p.Valid expected) : p.inRadians unit ≠ [] := by
  intro hnil
  have hlength : p.components.length = 0 := by
    rw [← length_inRadians unit p, hnil, List.length_nil]
  have hkind := h.kind
  rw [kind?, hlength] at hkind
  cases hkind

theorem splitOn_chars (h : p.Valid expected) :
    (p.chars unit).splitOn Slot.semicolon = (p.inRadians unit).map Binary64.wireChars := by
  apply List.splitOn_intercalate
  · intro t ht hmem
    obtain ⟨x, hx, rfl⟩ := List.mem_map.mp ht
    have hwire := Binary64.isWireChar_of_mem_wireChars (isFinite_of_mem_inRadians h hx) hmem
    exact ne_of_isWireChar hwire rfl rfl
  · simpa using inRadians_ne_nil h

theorem chars_ne_nil (h : p.Valid expected) : p.chars unit ≠ [] := by
  apply intercalate_ne_nil
  · simpa using inRadians_ne_nil h
  · intro t ht
    obtain ⟨x, -, rfl⟩ := List.mem_map.mp ht
    exact x.wireChars_ne_nil

end Point

theorem readComponents_wireChars {xs : List Binary64} (h : ∀ x ∈ xs, x.isFinite = true) :
    readComponents (xs.map Binary64.wireChars) = .ok xs := by
  induction xs with
  | nil => rfl
  | cons x xs ih =>
    obtain ⟨hx, hxs⟩ := List.forall_mem_cons.mp h
    have htrim : Text.trim x.wireChars = x.wireChars :=
      trim_eq_self fun c hc => Binary64.isWireChar_of_mem_wireChars hx hc
    have hread : readComponent x.wireChars = .ok x := by
      rw [readComponent, htrim, Binary64.read_wireChars, slotValue_some]
    rw [List.map_cons, readComponents, hread, ih hxs]
    rfl

/-- A point as it is read back: its angles are in radians. -/
def Point.readBack (unit : AngleUnit) (p : Point) : Point := ⟨p.inRadians unit⟩

theorem readPoint_chars {unit : AngleUnit} {expected : PointKind} {index : Nat} {p : Point}
    (h : p.Valid expected) :
    readPoint expected index (p.chars unit) = .ok (p.readBack unit) := by
  have hkind : PointKind.ofLength? (p.inRadians unit).length = some expected := by
    rw [Point.length_inRadians]
    exact h.kind
  have hread : readComponents ((p.inRadians unit).map Binary64.wireChars) = .ok _ :=
    readComponents_wireChars fun x hx => Point.isFinite_of_mem_inRadians h hx
  simp only [readPoint, Point.splitOn_chars h, hread, bind, Except.bind, hkind, ne_eq,
    not_true_eq_false, if_false]
  rfl

theorem readPointsFrom_chars {unit : AngleUnit} {expected : PointKind} {index : Nat}
    {points : List Point} (h : ∀ p ∈ points, p.Valid expected) :
    readPointsFrom expected index (points.map (Point.chars unit)) =
      .ok (points.map (Point.readBack unit)) := by
  induction points generalizing index with
  | nil => rfl
  | cons p points ih =>
    obtain ⟨hp, hpoints⟩ := List.forall_mem_cons.mp h
    rw [List.map_cons, readPointsFrom, readPoint_chars hp, ih hpoints]
    rfl

section PointsChars

variable {unit : AngleUnit} {expected : PointKind} {points : List Point}

/-- The points show the characters of numbers and the two separators used among them. -/
theorem mem_pointsChars (h : ∀ p ∈ points, p.Valid expected) {c : Char}
    (hc : c ∈ pointsChars unit points) :
    Binary64.isWireChar c = true ∨ c = Slot.semicolon ∨ c = Slot.comma := by
  rcases mem_intercalate hc with hsep | ⟨t, ht, hmem⟩
  · exact .inr (.inr hsep)
  · obtain ⟨p, hp, rfl⟩ := List.mem_map.mp ht
    rcases Point.mem_chars (h p hp) hmem with hwire | hsep
    · exact .inl hwire
    · exact .inr (.inl hsep)

theorem splitOn_pointsChars (h : ∀ p ∈ points, p.Valid expected) (hne : points ≠ []) :
    (pointsChars unit points).splitOn Slot.comma = points.map (Point.chars unit) := by
  apply List.splitOn_intercalate
  · intro t ht hmem
    obtain ⟨p, hp, rfl⟩ := List.mem_map.mp ht
    rcases Point.mem_chars (h p hp) hmem with hwire | hsep
    · exact ne_of_isWireChar hwire rfl rfl
    · exact absurd hsep (by decide)
  · simpa using hne

theorem pointsChars_ne_nil (h : ∀ p ∈ points, p.Valid expected) (hne : points ≠ []) :
    pointsChars unit points ≠ [] := by
  apply intercalate_ne_nil
  · simpa using hne
  · intro t ht
    obtain ⟨p, hp, rfl⟩ := List.mem_map.mp ht
    exact Point.chars_ne_nil (h p hp)

/-- The points of a motion are read back in order. -/
theorem readPoints_pointsChars (h : ∀ p ∈ points, p.Valid expected) (hne : points ≠ []) :
    readPoints expected (pointsChars unit points) = .ok (points.map (Point.readBack unit)) := by
  have hfilled : ¬(pointsChars unit points).isEmpty = true := by
    simpa using pointsChars_ne_nil h hne
  rw [readPoints, if_neg hfilled, splitOn_pointsChars h hne, readPointsFrom_chars h]

end PointsChars

/-! ### What requests put into their slots -/

theorem Binary64.isFinite_of_isFraction {x : Binary64} (h : x.isFraction = true) :
    x.isFinite = true := by
  cases x with
  | finite negative m => rfl
  | infinite negative => cases h
  | nan => cases h

/-- A character that separates slots or ends a command. -/
def splitsPayload (c : Char) : Bool := c == Slot.bar || c == Slot.hash

theorem splitsPayload_of_isReserved {c : Char} (h : isReserved c = false) :
    splitsPayload c = false := by
  simp only [isReserved, splitsPayload, Bool.or_eq_false_iff] at h ⊢
  exact ⟨h.1.1.1, h.2⟩

theorem splitsPayload_of_isWireChar {c : Char} (h : Binary64.isWireChar c = true) :
    splitsPayload c = false :=
  splitsPayload_of_isReserved (not_isBlank_of_isWireChar h).2

theorem splitsPayload_of_mem_naturalChars {n : Nat} {c : Char} (h : c ∈ naturalChars n) :
    splitsPayload c = false :=
  splitsPayload_of_isWireChar (isWireChar_of_mem_naturalChars h)

theorem Motion.splitsPayload_of_mem_slots {unit : AngleUnit} {m : Motion} (h : m.Valid)
    {slot : Slot} {c : Char} (hc : c ∈ m.slots unit slot) : splitsPayload c = false := by
  cases slot with
  | action => exact splitsPayload_of_mem_naturalChars hc
  | pointCount => exact splitsPayload_of_mem_naturalChars hc
  | points =>
    rcases mem_pointsChars h.points hc with hwire | rfl | rfl
    · exact splitsPayload_of_isWireChar hwire
    · rfl
    · rfl
  | tool => exact splitsPayload_of_isReserved (h.tool c hc)
  | base => exact splitsPayload_of_isReserved (h.base c hc)
  | speed =>
    have hfinite := Binary64.isFinite_of_isFraction h.speed
    exact splitsPayload_of_isWireChar (Binary64.isWireChar_of_mem_wireChars hfinite hc)
  | id => exact splitsPayload_of_isReserved (h.id.isPlain c hc)
  | ioPoint => cases hc
  | ioPin => cases hc
  | ioState => cases hc

theorem OutputSwitch.splitsPayload_of_mem_slots {o : OutputSwitch} (h : o.Valid)
    {slot : Slot} {c : Char} (hc : c ∈ o.slots slot) : splitsPayload c = false := by
  cases slot with
  | action => exact splitsPayload_of_mem_naturalChars hc
  | pointCount => exact splitsPayload_of_mem_naturalChars (n := 0) hc
  | ioPoint => exact splitsPayload_of_mem_naturalChars (n := 0) hc
  | ioPin => exact splitsPayload_of_isReserved (h.pin.isPlain c (Text.mem_of_mem_trimBy hc))
  | ioState =>
    have hword : (o.slots .ioState).all (fun c => !splitsPayload c) = true := by
      rw [slots]
      cases o.state <;> rfl
    simpa using List.all_eq_true.mp hword c hc
  | speed => exact splitsPayload_of_mem_naturalChars (n := 0) hc
  | id => exact splitsPayload_of_isReserved (h.id.isPlain c hc)
  | points => cases hc
  | tool => cases hc
  | base => cases hc

theorem ProgramStart.splitsPayload_of_mem_slots {p : ProgramStart} (h : p.Valid)
    {slot : Slot} {c : Char} (hc : c ∈ p.slots slot) : splitsPayload c = false := by
  cases slot with
  | action => exact splitsPayload_of_mem_naturalChars hc
  | pointCount => exact splitsPayload_of_mem_naturalChars (n := 0) hc
  | points =>
    exact splitsPayload_of_isReserved (h.program.isPlain c (Text.mem_of_mem_trimBy hc))
  | speed => exact splitsPayload_of_mem_naturalChars (n := 0) hc
  | id => exact splitsPayload_of_isReserved (h.id.isPlain c hc)
  | ioPoint => cases hc
  | ioPin => cases hc
  | ioState => cases hc
  | tool => cases hc
  | base => cases hc

/-- No slot of an accepted request holds a bar or the end of a command. -/
theorem Intent.splitsPayload_of_mem_slots {unit : AngleUnit} {intent : Intent} (h : intent.Valid)
    {slot : Slot} {c : Char} (hc : c ∈ intent.slots unit slot) : splitsPayload c = false := by
  cases intent with
  | motion m => exact Motion.splitsPayload_of_mem_slots h hc
  | output o => exact OutputSwitch.splitsPayload_of_mem_slots h hc
  | program p => exact ProgramStart.splitsPayload_of_mem_slots h hc

/-! ### Requests -/

/-- A motion as it is read back. -/
def Motion.readBack (unit : AngleUnit) (m : Motion) : Decoded where
  action := m.action
  pointCount := m.points.length
  content := .movement (m.points.map (Point.readBack unit))
  tool := Text.trimmed m.tool
  base := Text.trimmed m.base
  speed := some m.speed
  id := Text.trimmed m.id

/-- A switch as it is read back. -/
def OutputSwitch.readBack (o : OutputSwitch) : Decoded where
  action := .activateIo
  pointCount := 0
  content := .output ⟨"0", Text.trimmed o.pin, o.state⟩
  tool := ""
  base := ""
  speed := some .zero
  id := Text.trimmed o.id

/-- A program start as it is read back. -/
def ProgramStart.readBack (p : ProgramStart) : Decoded where
  action := .programCall
  pointCount := 0
  content := .program (Text.trimmed p.program)
  tool := ""
  base := ""
  speed := some .zero
  id := Text.trimmed p.id

/-- A request as it is read back. -/
def Intent.readBack (unit : AngleUnit) : Intent → Decoded
  | motion m => m.readBack unit
  | output o => o.readBack
  | program p => p.readBack

/-- A command is read if each of its slots is. -/
theorem Decoded.ofSlots_eq_ok {slot : Slot → List Char} {action : Action} {pointCount : Nat}
    {speed : Option Binary64} {content : Content}
    (haction : readAction (slot .action) = .ok action)
    (hcount : readNatural wordBound (slot .pointCount) = some pointCount)
    (hid : slot .id ≠ [])
    (hspeed : readSpeed (slot .speed) = .ok speed)
    (hcontent : readContent action pointCount slot = .ok content) :
    ofSlots slot = .ok
      { action, pointCount, content, speed,
        tool := String.ofList (slot .tool), base := String.ofList (slot .base),
        id := String.ofList (slot .id) } := by
  have hfilled : (slot .id).isEmpty = false := by simpa using hid
  simp only [ofSlots, haction, hcount, slotValue_some, hspeed, hcontent, hfilled, bind,
    Except.bind, Bool.false_eq_true, if_false]
  rfl

theorem IsToken.trim_ne_nil {s : String} (h : IsToken s) : Text.trim s.toList ≠ [] := by
  rw [Ne, Text.trim_eq_nil_iff, h.notBlank]
  exact Bool.false_ne_true

theorem trim_naturalChars (n : Nat) : Text.trim (naturalChars n) = naturalChars n :=
  trim_eq_self fun _ hc => isWireChar_of_mem_naturalChars hc

theorem trim_pointsChars {unit : AngleUnit} {expected : PointKind} {points : List Point}
    (h : ∀ p ∈ points, p.Valid expected) :
    Text.trim (pointsChars unit points) = pointsChars unit points := by
  apply Text.trimBy_eq_self
  intro c hc
  rcases mem_pointsChars h hc with hwire | rfl | rfl
  · exact (not_isBlank_of_isWireChar hwire).1
  · decide
  · decide

theorem Motion.category_action (m : Motion) : m.action.category = .movement := by
  rw [Motion.action]
  cases m.family <;> cases m.joint <;> cases m.blended <;> rfl

theorem Motion.pointKind_action (m : Motion) : m.action.pointKind = m.pointKind := by
  rw [Motion.action, Motion.pointKind]
  cases m.family <;> cases m.joint <;> cases m.blended <;> rfl

theorem Motion.ofSlots_slots {unit : AngleUnit} {m : Motion} (h : m.Valid)
    (hcount : m.points.length < wordBound) :
    Decoded.ofSlots (fun slot => Text.trim (m.slots unit slot)) = .ok (m.readBack unit) := by
  have hspeed : Text.trim m.speed.wireChars = m.speed.wireChars :=
    trim_eq_self fun c hc =>
      Binary64.isWireChar_of_mem_wireChars (Binary64.isFinite_of_isFraction h.speed) hc
  have hpoints : readPoints m.action.pointKind (Text.trim (m.slots unit .points)) =
      .ok (m.points.map (Point.readBack unit)) := by
    rw [slots, trim_pointsChars h.points, pointKind_action]
    exact readPoints_pointsChars h.points h.points_ne_nil
  refine Decoded.ofSlots_eq_ok ?_ ?_ h.id.trim_ne_nil ?_ ?_
  · rw [slots, trim_naturalChars, readAction_naturalChars]
  · rw [slots, trim_naturalChars, readNatural_naturalChars hcount]
  · rw [slots, hspeed, readSpeed_wireChars]
  · rw [readContent, category_action]
    simp only [hpoints, bind, Except.bind, List.length_map, ne_eq, not_true_eq_false, if_false]
    rfl

theorem readSpeed_zero : readSpeed ['0'] = .ok (some .zero) := by
  have hzero : Binary64.zero.wireChars = ['0'] := by decide +kernel
  rw [← hzero, readSpeed_wireChars]

theorem OutputSwitch.ofSlots_slots {o : OutputSwitch} (h : o.Valid) :
    Decoded.ofSlots (fun slot => Text.trim (o.slots slot)) = .ok o.readBack := by
  have hstate : readState (Text.trim (o.slots .ioState)) = .ok o.state := by
    rw [slots]
    cases o.state <;> rfl
  have hpin : Text.trim (o.slots .ioPin) = Text.trim o.pin.toList := Text.trimBy_trimBy _ _
  refine Decoded.ofSlots_eq_ok ?_ ?_ h.id.trim_ne_nil ?_ ?_
  · rw [slots, trim_naturalChars, readAction_naturalChars]
  · exact readNatural_naturalChars (n := 0) (by decide)
  · exact readSpeed_zero
  · simp only [readContent, Action.category, hstate, hpin, bind, Except.bind]
    rfl

theorem ProgramStart.ofSlots_slots {p : ProgramStart} (h : p.Valid) :
    Decoded.ofSlots (fun slot => Text.trim (p.slots slot)) = .ok p.readBack := by
  have hprogram : Text.trim (p.slots .points) = Text.trim p.program.toList :=
    Text.trimBy_trimBy _ _
  have hfilled : (Text.trim p.program.toList).isEmpty = false := by
    simpa using h.program.trim_ne_nil
  refine Decoded.ofSlots_eq_ok ?_ ?_ h.id.trim_ne_nil ?_ ?_
  · rw [slots, trim_naturalChars, readAction_naturalChars]
  · exact readNatural_naturalChars (n := 0) (by decide)
  · exact readSpeed_zero
  · simp only [readContent, Action.category, hprogram, hfilled, Bool.false_eq_true, if_false]
    rfl

namespace Intent

/-- The number of points of a request. -/
def pointCount : Intent → Nat
  | motion m => m.points.length
  | _ => 0

theorem ofSlots_slots {unit : AngleUnit} {intent : Intent} (h : intent.Valid)
    (hcount : intent.pointCount < wordBound) :
    Decoded.ofSlots (fun slot => Text.trim (intent.slots unit slot)) =
      .ok (intent.readBack unit) := by
  cases intent with
  | motion m => exact Motion.ofSlots_slots h hcount
  | output o => exact OutputSwitch.ofSlots_slots h
  | program p => exact ProgramStart.ofSlots_slots h

/-- The payload of an accepted request is read back as the request. -/
theorem ofPayload_encode {unit : AngleUnit} {intent : Intent} {payload : String}
    (h : intent.encode unit = .ok payload) (hcount : intent.pointCount < wordBound) :
    Decoded.ofPayload payload = .ok (intent.readBack unit) := by
  obtain ⟨hvalid, rfl⟩ := encode_eq_ok_iff.mp h
  have hbar (slot : Slot) : Slot.bar ∉ intent.slots unit slot := fun hmem =>
    absurd (splitsPayload_of_mem_slots hvalid hmem) (by decide)
  have hlast : (Text.trimEnd (intent.slots unit .id)).getLast? ≠ some Slot.hash := by
    intro hlast
    have hmem := Text.mem_of_mem_trimEndBy (List.mem_of_getLast? hlast)
    exact absurd (splitsPayload_of_mem_slots hvalid hmem) (by decide)
  rw [Decoded.ofPayload_payload hbar hlast, ofSlots_slots hvalid hcount]

/-- A payload shows no end of a command. -/
theorem hash_not_mem_payload {unit : AngleUnit} {intent : Intent} (h : intent.Valid) :
    Slot.hash ∉ Slot.payload (intent.slots unit) := by
  intro hmem
  rcases mem_intercalate hmem with hbar | ⟨t, ht, hmem⟩
  · exact absurd hbar (by decide)
  · obtain ⟨slot, -, rfl⟩ := List.mem_map.mp ht
    exact absurd (splitsPayload_of_mem_slots h hmem) (by decide)

/-- Points are separated from each other and slots too, so a payload is longer than its points are
many. -/
theorem pointCount_le_length_payload (unit : AngleUnit) (intent : Intent) :
    intent.pointCount ≤ (Slot.payload (intent.slots unit)).length := by
  cases intent with
  | motion m =>
    have hpoints := length_le_length_intercalate Slot.comma
      (m.points.map (Point.chars unit))
    have hslots : (pointsChars unit m.points).length + 1 ≤
        (Slot.payload (m.slots unit)).length := by
      simp [Slot.payload, Slot.all, List.intercalate, List.intersperse, Motion.slots]
      omega
    rw [List.length_map, ← pointsChars] at hpoints
    exact hpoints.trans hslots
  | output o => exact Nat.zero_le _
  | program p => exact Nat.zero_le _

end Intent

end MotionLink
