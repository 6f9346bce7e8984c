import MotionLink.Proofs.Command.Reading

/-!
# Commands that say what they are about

A request is refused unless it says what it is about: where to move, which output to switch, which
program to start. A command that is read is held to that only if it starts a program. An empty slot
holds no points, which is as it should be if none are declared, and whatever stands in the slot of
a pin is taken for one.

So a command says what it is about exactly if something stands in the slot for it, and what was
written for a request always does.

## Main definitions

* `Category.subject` — the slot that says what a command is about
* `Content.IsFilled` — there are points, or the name of a pin or of a program
* `Decoded.IsFilledAsRead` — what is to be expected of a command that is read

## Main results

* `Content.ReadsAs.isFilled_iff` — what is read is filled exactly if its slot is
* `Decoded.isFilledAsRead` — when a command that is read says what it is about
-/

namespace MotionLink

/-- The slot that says what a command is about. The name of a program stands in the slot of the
points. -/
def Category.subject : Category → Slot
  | .movement => .points
  | .output => .ioPin
  | .program => .points

/-- A motion has points, an output a pin and a program a name, and these are not blank. -/
def Content.IsFilled : Content → Prop
  | .movement points => points ≠ []
  | .output slots => Text.isAllBlank slots.pin.toList = false
  | .program name => Text.isAllBlank name.toList = false

/-! ### Blank texts -/

namespace Text

variable {s : List Char}

theorem isAllBlank_trim (s : List Char) : isAllBlank (trim s) = isAllBlank s := by
  have hagain : trim (trim s) = trim s := trimBy_trimBy isBlank s
  rw [Bool.eq_iff_iff, ← trim_eq_nil_iff, ← trim_eq_nil_iff, hagain]

/-- A trimmed text is blank only if it is empty. -/
theorem isAllBlank_eq_false_iff (h : trim s = s) : isAllBlank s = false ↔ s ≠ [] := by
  rw [← Bool.not_eq_true, ← trim_eq_nil_iff, h]

end Text

/-! ### What is read -/

section Reading

variable {action : Action} {pointCount : Nat} {slot : Slot → List Char} {content : Content}

/-- What is read is filled exactly if something stands in the slot for it. -/
theorem Content.ReadsAs.isFilled_iff (h : content.ReadsAs action pointCount slot)
    (htrim : ∀ name, Text.trim (slot name) = slot name) :
    content.IsFilled ↔ slot action.category.subject ≠ [] := by
  cases h with
  | movement hcategory hread _ =>
    rw [hcategory]
    exact not_congr (eq_nil_iff_of_readPoints hread)
  | output hcategory _ =>
    rw [hcategory, IsFilled, String.toList_ofList]
    exact Text.isAllBlank_eq_false_iff (htrim .ioPin)
  | program hcategory _ =>
    rw [hcategory, IsFilled, String.toList_ofList]
    exact Text.isAllBlank_eq_false_iff (htrim .points)

/-- A motion has points exactly if it declares some. -/
theorem Content.ReadsAs.isFilled_iff_pointCount (h : content.ReadsAs action pointCount slot)
    (hmoves : action.category = .movement) : content.IsFilled ↔ pointCount ≠ 0 := by
  obtain ⟨points, rfl, hcount⟩ := h.exists_points hmoves
  rw [← hcount]
  exact not_congr List.length_eq_zero_iff.symm

/-- A program to be started has a name. -/
theorem Content.ReadsAs.subject_ne_nil (h : content.ReadsAs action pointCount slot)
    (hstarts : action.category = .program) : slot action.category.subject ≠ [] := by
  cases h with
  | movement hother _ _ => cases hother.symm.trans hstarts
  | output hother _ => cases hother.symm.trans hstarts
  | program _ hfilled =>
    rw [hstarts]
    exact hfilled

end Reading

/-- What an accepted request is read back as says what it is about. -/
theorem Intent.isFilled_readBack {unit : AngleUnit} {intent : Intent} (h : intent.Valid) :
    (intent.readBack unit).content.IsFilled := by
  cases intent with
  | motion m =>
    have hpoints : m.points ≠ [] := h.points_ne_nil
    exact mt List.map_eq_nil_iff.mp hpoints
  | output o =>
    have hpin : Text.isAllBlank o.pin.toList = false := h.pin.notBlank
    rw [← Text.isAllBlank_trim] at hpin
    simpa [readBack, OutputSwitch.readBack, Content.IsFilled, Text.trimmed] using hpin
  | program p =>
    have hname : Text.isAllBlank p.program.toList = false := h.program.notBlank
    rw [← Text.isAllBlank_trim] at hname
    simpa [readBack, ProgramStart.readBack, Content.IsFilled, Text.trimmed] using hname

/-! ### Commands -/

namespace Decoded

/-- What is to be expected of a command that is read. -/
structure IsFilledAsRead (payload : String) (d : Decoded) : Prop where
  /-- it says what it is about exactly if something stands in the slot for that -/
  filled_iff : d.content.IsFilled ↔ slotsOf payload d.action.category.subject ≠ []
  /-- it does if it starts a program -/
  program : d.action.category = .program → d.content.IsFilled
  /-- it does, being a motion, exactly if it declares points -/
  movement : d.action.category = .movement → (d.content.IsFilled ↔ d.pointCount ≠ 0)
  /-- it does if the payload was written for a request -/
  written : ∀ unit intent, Intent.encode unit intent = .ok payload →
    intent.pointCount < wordBound → d.content.IsFilled

variable {payload : String} {d : Decoded}

/-- When a command that is read says what it is about. -/
theorem isFilledAsRead (h : ofPayload payload = .ok d) : IsFilledAsRead payload d := by
  obtain ⟨-, hreads⟩ := ofPayload_eq_ok_iff.mp h
  have hslot := hreads.content.isFilled_iff (trim_slotText _)
  constructor
  case filled_iff => exact hslot
  case program => exact fun hstarts => hslot.mpr (hreads.content.subject_ne_nil hstarts)
  case movement => exact hreads.content.isFilled_iff_pointCount
  case written =>
    intro unit intent hwrite hcount
    obtain ⟨hvalid, -⟩ := Intent.encode_eq_ok_iff.mp hwrite
    obtain rfl := Except.ok.inj ((Intent.ofPayload_encode hwrite hcount).symm.trans h)
    exact intent.isFilled_readBack hvalid

/-- The name of a program may stand between blanks. -/
theorem isFilledAsRead_of_spaced_program :
    ∃ d, ofPayload "100|0| pick_place ||||||0|id#" = .ok d ∧
      IsFilledAsRead "100|0| pick_place ||||||0|id#" d := by
  have hread : ofPayload "100|0| pick_place ||||||0|id#" =
      .ok ⟨.programCall, 0, .program "pick_place", "", "", some .zero, "id"⟩ := by rfl
  exact ⟨_, hread, isFilledAsRead hread⟩

/-- An output without a pin and a motion without points are read all the same. -/
theorem exists_not_isFilled :
    (∃ d, ofPayload "10|0||0||true|||0|id" = .ok d ∧ ¬d.content.IsFilled) ∧
      ∃ d, ofPayload "2|0|||||||0|id" = .ok d ∧ ¬d.content.IsFilled := by
  have houtput : ofPayload "10|0||0||true|||0|id" =
      .ok ⟨.activateIo, 0, .output ⟨"0", "", true⟩, "", "", some .zero, "id"⟩ := by rfl
  have hmotion : ofPayload "2|0|||||||0|id" =
      .ok ⟨.ptpFrame, 0, .movement [], "", "", some .zero, "id"⟩ := by rfl
  exact ⟨⟨_, houtput, by simp [Content.IsFilled, Text.isAllBlank]⟩,
    ⟨_, hmotion, by simp [Content.IsFilled]⟩⟩

end Decoded

end MotionLink
