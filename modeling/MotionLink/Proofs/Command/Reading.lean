import MotionLink.Proofs.Command.RoundTrip

/-!
# What a command was read from

A command that is read says what stood in each slot: there is one way to read a slot, and what is
read of it depends on no other slot but that of the action, and on the number of points declared.

## Main definitions

* `Content.ReadsAs` — what belongs to the category of an action, and the slots it was read from
* `Decoded.ReadsAs` — a command, and the slots it was read from

## Main results

* `readPoints_eq_ok` — as many points are read as stand in their slot
* `Decoded.ofPayload_eq_ok_iff` — the commands that are read are those read from the slots
-/

namespace MotionLink

theorem bind_eq_ok_iff {ε α β : Type} {x : Except ε α} {f : α → Except ε β} {b : β} :
    x >>= f = .ok b ↔ ∃ a, x = .ok a ∧ f a = .ok b := by
  cases x with
  | error e => simp [bind, Except.bind]
  | ok a => simp [bind, Except.bind]

theorem bind_eq_error_iff {ε α β : Type} {x : Except ε α} {f : α → Except ε β} {e : ε} :
    x >>= f = .error e ↔ x = .error e ∨ ∃ a, x = .ok a ∧ f a = .error e := by
  cases x with
  | error e' => simp [bind, Except.bind]
  | ok a => simp [bind, Except.bind]

variable {slot : Slot → List Char} {text : List Char} {action : Action} {pointCount : Nat}

/-! ### Slots -/

theorem slotValue_eq_ok_iff {α : Type} {name : Slot} {value : Option α} {v : α} :
    slotValue name text value = .ok v ↔ value = some v := by
  cases value <;> simp [slotValue]

theorem lt_of_readNatural {bound n : Nat} (h : readNatural bound text = some n) : n < bound := by
  obtain ⟨-, hlt⟩ := Option.filter_eq_some_iff.mp h
  simpa using hlt

/-- The texts of slots have no blanks around them. -/
theorem trim_slotText (parts : List (List Char)) (name : Slot) :
    Text.trim (slotText parts name) = slotText parts name :=
  Text.trimBy_trimBy _ _

/-! ### Points -/

section Points

variable {expected : PointKind} {index : Nat} {points : List Point}

theorem length_of_readPointsFrom {texts : List (List Char)}
    (h : readPointsFrom expected index texts = .ok points) : points.length = texts.length := by
  induction texts generalizing index points with
  | nil =>
    obtain rfl := Except.ok.inj h
    rfl
  | cons t rest ih =>
    obtain ⟨p, -, h⟩ := bind_eq_ok_iff.mp h
    obtain ⟨others, hothers, h⟩ := bind_eq_ok_iff.mp h
    obtain rfl := Except.ok.inj h
    rw [List.length_cons, List.length_cons, ih hothers]

/-- As many points are read as stand in their slot. -/
theorem readPoints_eq_ok (h : readPoints expected text = .ok points) :
    points.length = if text = [] then 0 else (text.splitOn Slot.comma).length := by
  by_cases hempty : text = []
  · subst hempty
    obtain rfl := Except.ok.inj h
    rfl
  · rw [readPoints, if_neg (by simpa using hempty)] at h
    rw [if_neg hempty, length_of_readPointsFrom h]

/-- No points are read exactly if nothing stands in their slot. -/
theorem eq_nil_iff_of_readPoints (h : readPoints expected text = .ok points) :
    points = [] ↔ text = [] := by
  rw [← List.length_eq_zero_iff, readPoints_eq_ok h]
  split
  · rename_i hempty
    exact iff_of_true rfl hempty
  · rename_i hfilled
    have hne : text.splitOn Slot.comma ≠ [] := List.splitOn_ne_nil _ _
    exact iff_of_false (mt List.length_eq_zero_iff.mp hne) hfilled

end Points

/-! ### What belongs to the category -/

/-- What belongs to the category of an action, and the slots it was read from. -/
inductive Content.ReadsAs (action : Action) (pointCount : Nat) (slot : Slot → List Char) :
    Content → Prop where
  | movement {points : List Point} (hcategory : action.category = .movement)
      (hread : readPoints action.pointKind (slot .points) = .ok points)
      (hcount : points.length = pointCount) : ReadsAs action pointCount slot (.movement points)
  | output {state : Bool} (hcategory : action.category = .output)
      (hread : readState (slot .ioState) = .ok state) :
      ReadsAs action pointCount slot
        (.output ⟨String.ofList (slot .ioPoint), String.ofList (slot .ioPin), state⟩)
  | program (hcategory : action.category = .program) (hfilled : slot .points ≠ []) :
      ReadsAs action pointCount slot (.program (String.ofList (slot .points)))

theorem readContent_eq_ok_iff {content : Content} :
    readContent action pointCount slot = .ok content ↔
      content.ReadsAs action pointCount slot := by
  constructor
  · intro h
    rw [readContent] at h
    split at h
    · rename_i hcategory
      obtain ⟨points, hread, h⟩ := bind_eq_ok_iff.mp h
      split at h
      · cases h
      · rename_i hcount
        obtain rfl := Except.ok.inj h
        exact .movement hcategory hread (Classical.not_not.mp hcount)
    · rename_i hcategory
      obtain ⟨state, hread, h⟩ := bind_eq_ok_iff.mp h
      obtain rfl := Except.ok.inj h
      exact .output hcategory hread
    · rename_i hcategory
      split at h
      · cases h
      · rename_i hfilled
        obtain rfl := Except.ok.inj h
        exact .program hcategory (by simpa using hfilled)
  · rintro (⟨hcategory, hread, rfl⟩ | ⟨hcategory, hread⟩ | ⟨hcategory, hfilled⟩)
    · simp [readContent, hcategory, hread, bind, Except.bind, pure, Except.pure]
    · simp [readContent, hcategory, hread, bind, Except.bind, pure, Except.pure]
    · simp [readContent, hcategory, hfilled]

/-- What is read for a move is points. -/
theorem Content.ReadsAs.exists_points {content : Content}
    (h : content.ReadsAs action pointCount slot) (hmoves : action.category = .movement) :
    ∃ points, content = .movement points ∧ points.length = pointCount := by
  cases h with
  | movement _ _ hcount => exact ⟨_, rfl, hcount⟩
  | output hother _ => cases hother.symm.trans hmoves
  | program hother _ => cases hother.symm.trans hmoves

/-! ### Commands -/

namespace Decoded

/-- A command, and the slots it was read from. -/
structure ReadsAs (slot : Slot → List Char) (d : Decoded) : Prop where
  action : readAction (slot .action) = .ok d.action
  pointCount : readNatural wordBound (slot .pointCount) = some d.pointCount
  id_ne_nil : slot .id ≠ []
  speed : readSpeed (slot .speed) = .ok d.speed
  content : d.content.ReadsAs d.action d.pointCount slot
  tool : d.tool = String.ofList (slot .tool)
  base : d.base = String.ofList (slot .base)
  id : d.id = String.ofList (slot .id)

variable {d : Decoded} {payload : String}

theorem ofSlots_eq_ok_iff : ofSlots slot = .ok d ↔ d.ReadsAs slot := by
  constructor
  · intro h
    obtain ⟨action, haction, h⟩ := bind_eq_ok_iff.mp h
    obtain ⟨pointCount, hcount, h⟩ := bind_eq_ok_iff.mp h
    split at h
    · cases h
    · rename_i hid
      obtain ⟨speed, hspeed, h⟩ := bind_eq_ok_iff.mp h
      obtain ⟨content, hcontent, h⟩ := bind_eq_ok_iff.mp h
      obtain rfl := Except.ok.inj h
      exact ⟨haction, slotValue_eq_ok_iff.mp hcount, by simpa using hid, hspeed,
        readContent_eq_ok_iff.mp hcontent, rfl, rfl, rfl⟩
  · obtain ⟨action, pointCount, content, tool, base, speed, id⟩ := d
    rintro ⟨haction, hcount, hid, hspeed, hcontent, rfl, rfl, rfl⟩
    exact ofSlots_eq_ok haction hcount hid hspeed (readContent_eq_ok_iff.mpr hcontent)

/-- The texts of the slots of a payload. -/
def slotsOf (payload : String) : Slot → List Char := slotText (payloadParts payload.toList)

/-- The commands that are read are those read from the slots, if there are enough of them. -/
theorem ofPayload_eq_ok_iff :
    ofPayload payload = .ok d ↔
      Slot.count ≤ (payloadParts payload.toList).length ∧ d.ReadsAs (slotsOf payload) := by
  rw [ofPayload, ← ofSlots_eq_ok_iff]
  split
  · rename_i hfew
    exact iff_of_false (by simp) fun h => absurd hfew (Nat.not_lt.mpr h.1)
  · rename_i henough
    exact (and_iff_right (Nat.not_lt.mp henough)).symm

end Decoded

end MotionLink
