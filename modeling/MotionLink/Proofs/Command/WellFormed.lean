import MotionLink.Proofs.Command.FirstFault
import MotionLink.Proofs.Command.Reading
import MotionLink.Proofs.Text.Margins

/-!
# What is read is well formed

The same slots mean different things to different actions. A command that is read has exactly the
part that belongs to the category of its action, its texts are those of single slots without the
blanks around them, and a motion has as many points as it declares, each with as many components as
its action asks for.

A payload that is refused for its points is refused with what stands in their slot: the number of
the points, or the first point with another number of components than it should have, with its
place and that number.

## Main definitions

* `Decoded.WellFormed` — what holds of every command that is read
* `listedPoints` — the points that stand in a slot, by the texts of their components
* `Decoded.IsMisfit` — the first point with another number of components than asked for
* `Decoded.IsWellRead` — what is to be expected when a payload is read

## Main results

* `ReportsPoint.of_readPointsFrom` — the first misfit among the points is the one reported
* `Decoded.ReadsAs.wellFormed` — commands are well formed
* `Decoded.isWellRead` — commands are well formed, and points are told as they stand
-/

namespace MotionLink

/-! ### Texts of slots -/

/-- A text as it stands in a slot: without blanks at its ends and without a bar. -/
structure IsSlotText (s : String) : Prop where
  isBare : Text.IsBare Text.isBlank s.toList
  bar : Slot.bar ∉ s.toList

theorem isSlotText_slotsOf (payload : String) (name : Slot) :
    IsSlotText (String.ofList (Decoded.slotsOf payload name)) where
  isBare := by
    rw [String.toList_ofList]
    exact Text.isBare_trimBy _ _
  bar := by
    rw [String.toList_ofList, Decoded.slotsOf, slotText]
    intro hmem
    have hmem := Text.mem_of_mem_trimBy hmem
    cases hpart : (payloadParts payload.toList)[name.index]? with
    | none =>
      rw [hpart] at hmem
      cases hmem
    | some part =>
      rw [hpart, Option.getD_some] at hmem
      exact Text.not_mem_of_mem_splitOn (List.mem_of_getElem? hpart) hmem

/-! ### Errors that are about points -/

/-- The error tells how many points there are, or what one of them is. -/
def CommandError.isAboutPoints : CommandError → Bool
  | pointArity .. | pointKind .. | pointCount .. => true
  | _ => false

section Errors

variable {slot : Slot → List Char} {text : List Char} {action : Action} {pointCount : Nat}
  {e : CommandError}

theorem isAboutPoints_of_slotValue {α : Type} {name : Slot} {value : Option α}
    (h : slotValue name text value = .error e) : e.isAboutPoints = false := by
  cases value with
  | none =>
    obtain rfl := Except.error.inj h
    rfl
  | some v => cases h

theorem isAboutPoints_of_readAction (h : readAction text = .error e) :
    e.isAboutPoints = false := by
  rcases bind_eq_error_iff.mp h with h | ⟨code, -, h⟩
  · exact isAboutPoints_of_slotValue h
  · split at h
    · cases h
    · obtain rfl := Except.error.inj h
      rfl

theorem isAboutPoints_of_readSpeed (h : readSpeed text = .error e) : e.isAboutPoints = false := by
  rw [readSpeed] at h
  split at h
  · cases h
  · cases hvalue : slotValue .speed text (Binary64.read text) with
    | ok v =>
      rw [hvalue] at h
      cases h
    | error e' =>
      rw [hvalue] at h
      obtain rfl := Except.error.inj h
      exact isAboutPoints_of_slotValue hvalue

theorem isAboutPoints_of_readState (h : readState text = .error e) : e.isAboutPoints = false := by
  rw [readState] at h
  split at h
  · cases h
  · split at h
    · cases h
    · obtain rfl := Except.error.inj h
      rfl

theorem isAboutPoints_of_readComponents {texts : List (List Char)}
    (h : readComponents texts = .error e) : e.isAboutPoints = false := by
  induction texts with
  | nil => cases h
  | cons c texts ih =>
    rcases bind_eq_error_iff.mp h with h | ⟨x, -, h⟩
    · exact isAboutPoints_of_slotValue h
    · rcases bind_eq_error_iff.mp h with h | ⟨xs, -, h⟩
      · exact ih h
      · cases h

/-- What is told about points is found last, when what belongs to the category is read. -/
theorem exists_of_ofSlots_eq_error (h : Decoded.ofSlots slot = .error e)
    (he : e.isAboutPoints = true) :
    ∃ action pointCount, readAction (slot .action) = .ok action ∧
      readNatural wordBound (slot .pointCount) = some pointCount ∧
      readContent action pointCount slot = .error e := by
  have hother (h : e.isAboutPoints = false) : False := Bool.noConfusion (he.symm.trans h)
  rcases bind_eq_error_iff.mp h with h | ⟨action, haction, h⟩
  · exact (hother (isAboutPoints_of_readAction h)).elim
  rcases bind_eq_error_iff.mp h with h | ⟨pointCount, hcount, h⟩
  · exact (hother (isAboutPoints_of_slotValue h)).elim
  split at h
  · obtain rfl := Except.error.inj h
    cases he
  rcases bind_eq_error_iff.mp h with h | ⟨speed, -, h⟩
  · exact (hother (isAboutPoints_of_readSpeed h)).elim
  rcases bind_eq_error_iff.mp h with h | ⟨content, -, h⟩
  · exact ⟨action, pointCount, haction, slotValue_eq_ok_iff.mp hcount, h⟩
  · cases h

/-- Points are looked at for a move alone, and counted when all of them are read. -/
theorem readPoints_of_readContent_eq_error (h : readContent action pointCount slot = .error e)
    (he : e.isAboutPoints = true) :
    action.category = .movement ∧
      (readPoints action.pointKind (slot .points) = .error e ∨
        ∃ points, readPoints action.pointKind (slot .points) = .ok points ∧
          points.length ≠ pointCount ∧ e = .pointCount pointCount points.length) := by
  rw [readContent] at h
  split at h
  · rename_i hcategory
    refine ⟨hcategory, ?_⟩
    rcases bind_eq_error_iff.mp h with h | ⟨points, hread, h⟩
    · exact .inl h
    · split at h
      · rename_i hne
        exact .inr ⟨points, hread, hne, (Except.error.inj h).symm⟩
      · cases h
  · rcases bind_eq_error_iff.mp h with h | ⟨state, -, h⟩
    · exact Bool.noConfusion (he.symm.trans (isAboutPoints_of_readState h))
    · cases h
  · split at h
    · obtain rfl := Except.error.inj h
      cases he
    · cases h

end Errors

/-! ### Points as they stand in their slot -/

/-- The points that stand in a slot, by the texts of their components. An empty slot holds none. -/
def listedPoints (text : List Char) : List (List (List Char)) :=
  if text = [] then [] else (text.splitOn Slot.comma).map (List.splitOn Slot.semicolon)

/-- What is reported of a point with another number of components than expected. -/
inductive ReportsPoint (expected : PointKind) (index : Nat) (point : List (List Char)) :
    CommandError → Prop where
  | arity (hnone : PointKind.ofLength? point.length = none) :
      ReportsPoint expected index point (.pointArity index point.length)
  | kind {found : PointKind} (hfound : point.length = found.arity) (hne : found ≠ expected) :
      ReportsPoint expected index point (.pointKind index expected found)

section Points

variable {expected : PointKind} {index : Nat} {text : List Char} {e : CommandError}

theorem length_of_readComponents {texts : List (List Char)} {xs : List Binary64}
    (h : readComponents texts = .ok xs) : xs.length = texts.length := by
  induction texts generalizing xs with
  | nil =>
    obtain rfl := Except.ok.inj h
    rfl
  | cons c texts ih =>
    obtain ⟨x, -, h⟩ := bind_eq_ok_iff.mp h
    obtain ⟨others, hothers, h⟩ := bind_eq_ok_iff.mp h
    obtain rfl := Except.ok.inj h
    rw [List.length_cons, List.length_cons, ih hothers]

/-- A point that is read has the number of components that stand there, and that is the number
expected. -/
theorem length_of_readPoint {p : Point} (h : readPoint expected index text = .ok p) :
    p.components.length = expected.arity ∧
      (text.splitOn Slot.semicolon).length = expected.arity := by
  obtain ⟨components, hread, hkind⟩ := bind_eq_ok_iff.mp h
  split at hkind
  · cases hkind
  · rename_i found hfound
    split at hkind
    · cases hkind
    · rename_i heq
      obtain rfl := Classical.not_not.mp heq
      obtain rfl := Except.ok.inj hkind
      have hlength := PointKind.ofLength?_eq_some_iff.mp hfound
      exact ⟨hlength, (length_of_readComponents hread).symm.trans hlength⟩

theorem ReportsPoint.of_readPoint (h : readPoint expected index text = .error e)
    (he : e.isAboutPoints = true) :
    (text.splitOn Slot.semicolon).length ≠ expected.arity ∧
      ReportsPoint expected index (text.splitOn Slot.semicolon) e := by
  rcases bind_eq_error_iff.mp h with h | ⟨components, hread, h⟩
  · exact Bool.noConfusion (he.symm.trans (isAboutPoints_of_readComponents h))
  · have hlength := length_of_readComponents hread
    rw [hlength] at h
    split at h
    · rename_i hnone
      obtain rfl := Except.error.inj h
      refine ⟨fun heq => ?_, .arity hnone⟩
      rw [PointKind.ofLength?_eq_some_iff.mpr heq] at hnone
      cases hnone
    · rename_i found hfound
      have harity := PointKind.ofLength?_eq_some_iff.mp hfound
      split at h
      · rename_i hne
        obtain rfl := Except.error.inj h
        refine ⟨fun heq => hne ?_, .kind harity hne⟩
        rw [PointKind.ofLength?_eq_some_iff.mpr heq] at hfound
        exact (Option.some.inj hfound).symm
      · cases h

/-- Points are read one after the other, so the first misfit is the one reported. -/
theorem ReportsPoint.of_readPointsFrom {texts : List (List Char)}
    (h : readPointsFrom expected index texts = .error e) (he : e.isAboutPoints = true) :
    ∃ i point, IsFirst (fun point => List.length point ≠ expected.arity)
        (texts.map (List.splitOn Slot.semicolon)) i point ∧
      ReportsPoint expected (index + i) point e := by
  induction texts generalizing index with
  | nil => cases h
  | cons t texts ih =>
    simp only [List.map_cons, isFirst_cons]
    -- If the first point is read it fits, so a misfit behind it is still the first one.
    rcases bind_eq_error_iff.mp h with h | ⟨p, hp, h⟩
    · obtain ⟨hne, hreports⟩ := of_readPoint h he
      exact ⟨0, _, .inl ⟨rfl, rfl, hne⟩, hreports⟩
    · rcases bind_eq_error_iff.mp h with h | ⟨ps, -, h⟩
      · obtain ⟨i, point, hfirst, hreports⟩ := ih h
        refine ⟨i + 1, point, .inr ⟨i, rfl, not_not_intro (length_of_readPoint hp).2, hfirst⟩, ?_⟩
        rwa [Nat.add_right_comm, Nat.add_assoc] at hreports
      · cases h

theorem ReportsPoint.of_readPoints (h : readPoints expected text = .error e)
    (he : e.isAboutPoints = true) :
    ∃ index point, IsFirst (fun point => List.length point ≠ expected.arity) (listedPoints text)
        index point ∧ ReportsPoint expected index point e := by
  rw [readPoints] at h
  split at h
  · cases h
  · rename_i hfilled
    obtain ⟨index, point, hfirst, hreports⟩ := of_readPointsFrom h he
    rw [Nat.zero_add] at hreports
    rw [listedPoints, if_neg (by simpa using hfilled)]
    exact ⟨index, point, hfirst, hreports⟩

theorem length_components_of_readPointsFrom {texts : List (List Char)} {points : List Point}
    (h : readPointsFrom expected index texts = .ok points) :
    ∀ p ∈ points, p.components.length = expected.arity := by
  induction texts generalizing index points with
  | nil =>
    obtain rfl := Except.ok.inj h
    exact List.forall_mem_nil _
  | cons t texts ih =>
    obtain ⟨p, hp, h⟩ := bind_eq_ok_iff.mp h
    obtain ⟨ps, hps, h⟩ := bind_eq_ok_iff.mp h
    obtain rfl := Except.ok.inj h
    exact List.forall_mem_cons.mpr ⟨(length_of_readPoint hp).1, ih hps⟩

theorem length_components_of_readPoints {points : List Point}
    (h : readPoints expected text = .ok points) :
    ∀ p ∈ points, p.components.length = expected.arity := by
  rw [readPoints] at h
  split at h
  · obtain rfl := Except.ok.inj h
    exact List.forall_mem_nil _
  · exact length_components_of_readPointsFrom h

/-- As many points are read as are listed. -/
theorem length_listedPoints {points : List Point} (h : readPoints expected text = .ok points) :
    (listedPoints text).length = points.length := by
  rw [readPoints_eq_ok h, listedPoints]
  split
  · rfl
  · exact List.length_map _

end Points

/-! ### Commands -/

namespace Decoded

/-- Exactly the part that belongs to the category of the action is there. -/
def HasOwnPart (d : Decoded) : Prop :=
  match d.action.category with
  | .movement =>
    d.output?.isNone ∧ d.program?.isNone ∧ d.points.length = d.pointCount ∧
      ∀ p ∈ d.points, p.components.length = if d.action.isJoint then 7 else 6
  | .output => d.output?.isSome ∧ d.program?.isNone ∧ d.points = []
  | .program => d.output?.isNone ∧ (∃ name, d.program? = some name ∧ name ≠ "") ∧ d.points = []

/-- What holds of every command that is read. -/
structure WellFormed (d : Decoded) : Prop where
  id_ne : d.id ≠ ""
  id : IsSlotText d.id
  tool : IsSlotText d.tool
  base : IsSlotText d.base
  output : ∀ o ∈ d.output?, IsSlotText o.point ∧ IsSlotText o.pin
  program : ∀ name ∈ d.program?, IsSlotText name
  ownPart : d.HasOwnPart

/-- The first point of a motion with another number of components than the action asks for, and its
place. -/
structure IsMisfit (payload : String) (action : Action) (index : Nat)
    (point : List (List Char)) : Prop where
  reads : readAction (slotsOf payload .action) = .ok action
  moves : action.category = .movement
  isFirst : IsFirst (fun point => point.length ≠ if action.isJoint then 7 else 6)
    (listedPoints (slotsOf payload .points)) index point

/-- What is to be expected when a payload is read. -/
structure IsWellRead (payload : String) : Prop where
  /-- a command that is read is well formed -/
  accepted : ∀ d, ofPayload payload = .ok d → d.WellFormed
  /-- of points that are more or fewer than declared, both numbers are told -/
  count : ∀ declared found, ofPayload payload = .error (.pointCount declared found) →
    readNatural wordBound (slotsOf payload .pointCount) = some declared ∧
      (listedPoints (slotsOf payload .points)).length = found ∧ found ≠ declared
  /-- of a first misfit with a number of components that no point has, that number is told -/
  arity : ∀ index length, ofPayload payload = .error (.pointArity index length) →
    ∃ action point, IsMisfit payload action index point ∧ point.length = length ∧
      length ≠ 6 ∧ length ≠ 7
  /-- of a first misfit of the other kind, both kinds are told -/
  kind : ∀ index expected found, ofPayload payload = .error (.pointKind index expected found) →
    ∃ action point, IsMisfit payload action index point ∧ point.length = found.arity ∧
      expected = action.pointKind ∧ found ≠ expected

variable {payload : String} {d : Decoded} {e : CommandError}

theorem arity_pointKind (action : Action) :
    action.pointKind.arity = if action.isJoint then 7 else 6 := by
  rw [Action.pointKind]
  cases action.isJoint <;> rfl

theorem ReadsAs.hasOwnPart (h : d.ReadsAs (slotsOf payload)) : d.HasOwnPart := by
  obtain ⟨action, pointCount, content, tool, base, speed, id⟩ := d
  cases h.content with
  | @movement points hcategory hread hcount =>
    have hlength : ∀ p ∈ points, p.components.length = if action.isJoint then 7 else 6 := by
      rw [← arity_pointKind]
      exact length_components_of_readPoints hread
    simpa [HasOwnPart, hcategory, Decoded.points, output?, program?, hcount] using hlength
  | output hcategory _ => simp [HasOwnPart, hcategory, Decoded.points, output?, program?]
  | program hcategory hfilled =>
    have hne : String.ofList (slotsOf payload .points) ≠ "" := by simpa using hfilled
    simpa [HasOwnPart, hcategory, Decoded.points, output?, program?] using hne

/-- Commands are well formed. -/
theorem ReadsAs.wellFormed (h : d.ReadsAs (slotsOf payload)) : d.WellFormed where
  id_ne := by
    rw [h.id]
    simpa using h.id_ne_nil
  id := h.id ▸ isSlotText_slotsOf payload .id
  tool := h.tool ▸ isSlotText_slotsOf payload .tool
  base := h.base ▸ isSlotText_slotsOf payload .base
  output o ho := by
    obtain ⟨action, pointCount, content, tool, base, speed, id⟩ := d
    cases h.content with
    | movement => cases ho
    | output =>
      obtain rfl := Option.some.inj ho
      exact ⟨isSlotText_slotsOf payload .ioPoint, isSlotText_slotsOf payload .ioPin⟩
    | program => cases ho
  program name hname := by
    obtain ⟨action, pointCount, content, tool, base, speed, id⟩ := d
    cases h.content with
    | movement => cases hname
    | output => cases hname
    | program =>
      obtain rfl := Option.some.inj hname
      exact isSlotText_slotsOf payload .points
  ownPart := h.hasOwnPart

/-- What is told about points is told about those of a motion, as they stand in their slot. -/
theorem exists_of_ofPayload_eq_error (h : ofPayload payload = .error e)
    (he : e.isAboutPoints = true) :
    ∃ action pointCount, readAction (slotsOf payload .action) = .ok action ∧
      action.category = .movement ∧
      readNatural wordBound (slotsOf payload .pointCount) = some pointCount ∧
      ((∃ index point, IsMisfit payload action index point ∧
          ReportsPoint action.pointKind index point e) ∨
        ∃ found, (listedPoints (slotsOf payload .points)).length = found ∧ found ≠ pointCount ∧
          e = .pointCount pointCount found) := by
  rw [ofPayload] at h
  split at h
  · obtain rfl := Except.error.inj h
    cases he
  · obtain ⟨action, pointCount, haction, hcount, h⟩ := exists_of_ofSlots_eq_error h he
    obtain ⟨hmoves, h⟩ := readPoints_of_readContent_eq_error h he
    refine ⟨action, pointCount, haction, hmoves, hcount, ?_⟩
    rcases h with h | ⟨points, hread, hne, rfl⟩
    · obtain ⟨index, point, hfirst, hreports⟩ := ReportsPoint.of_readPoints h he
      rw [arity_pointKind] at hfirst
      exact .inl ⟨index, point, ⟨haction, hmoves, hfirst⟩, hreports⟩
    · exact .inr ⟨points.length, length_listedPoints hread, hne, rfl⟩

/-- Commands are well formed, and what is told of points is how they stand in their slot. -/
theorem isWellRead (payload : String) : IsWellRead payload := by
  constructor
  case accepted =>
    intro d h
    exact (ofPayload_eq_ok_iff.mp h).2.wellFormed
  case count =>
    intro declared found h
    obtain ⟨action, pointCount, -, -, hcount, ⟨_, _, -, hreports⟩ | ⟨_, hlength, hne, heq⟩⟩ :=
      exists_of_ofPayload_eq_error h rfl
    · cases hreports
    · obtain ⟨rfl, rfl⟩ := CommandError.pointCount.inj heq
      exact ⟨hcount, hlength, hne⟩
  case arity =>
    intro index length h
    obtain ⟨action, _, -, -, -, ⟨_, point, hmisfit, hreports⟩ | ⟨_, -, -, heq⟩⟩ :=
      exists_of_ofPayload_eq_error h rfl
    · cases hreports with
      | arity hnone =>
        have hneither := PointKind.ofLength?_eq_none_iff.mp hnone
        rw [not_or] at hneither
        exact ⟨action, point, hmisfit, rfl, hneither⟩
    · cases heq
  case kind =>
    intro index expected found h
    obtain ⟨action, _, -, -, -, ⟨_, point, hmisfit, hreports⟩ | ⟨_, -, -, heq⟩⟩ :=
      exists_of_ofPayload_eq_error h rfl
    · cases hreports with
      | kind hfound hne => exact ⟨action, point, hmisfit, hfound, rfl, hne⟩
    · cases heq

-- The first point fits; the second one is reported, and not that a third one is missing.
example : ofPayload "2|3|1;2;3;4;5;6,1;2;3||||||0.25|id" = .error (.pointArity 1 3) := by rfl

end Decoded

end MotionLink
