import Mathlib.Data.List.Infix
import MotionLink.Command.Reply
import MotionLink.Proofs.Text.Margins

/-!
# What is stripped off a reply

Terminators have been seen before and behind a reply, so blanks, terminators and blanks again are
taken off its ends. That is done once. Of a run of terminators with blanks before it and behind it
nothing is left; behind it another run may stand, and that one stays in the text and hides the
first word of the reply.

So the text of a reply is free of blanks at its ends, and it is free of terminators there exactly
if on either side no more than one run of them stands around what there is to say. Exactly then is
the text itself read as the same reply, and then blanks and terminators can be added around it
without a difference exactly as long as they leave one run on either side.

## Main definitions

* `Reply.core` — a text without the blanks and terminators around it, in whatever order they stand
* `Reply.IsOneRun` — terminators in one run, with blanks before it and behind it
* `Reply.IsStripped` — what is to be expected of the text of a reply

## Main results

* `Reply.exists_eq_append_strip` — one run is taken off either side
* `Reply.strip_append_infix_self` — of what stands between two such runs nothing but a part is left
* `Reply.strip_eq_core_iff` — everything is taken off exactly if there is one run on either side
* `Reply.isStripped` — when the text of a reply begins or ends with a terminator
-/

namespace MotionLink

namespace Reply

/-- The terminator as a class of its own. -/
def isHash (c : Char) : Bool := c == '#'

/-- A blank or a terminator. -/
def isMargin (c : Char) : Bool := Text.isBlank c || isHash c

/-- A text without the blanks and terminators around it, in whatever order they stand. -/
def core (raw : List Char) : List Char := Text.trimBy isMargin raw

/-- Terminators in one run, with blanks before it and behind it. -/
def IsOneRun (pad : List Char) : Prop :=
  ∃ before run behind, pad = before ++ run ++ behind ∧ (∀ c ∈ before, Text.isBlank c = true) ∧
    (∀ c ∈ run, isHash c = true) ∧ ∀ c ∈ behind, Text.isBlank c = true

/-- On either side of what there is to say stands no more than one run of terminators. -/
def HasOneRun (raw : List Char) : Prop :=
  ∃ pad pad', raw = pad ++ core raw ++ pad' ∧ IsOneRun pad ∧ IsOneRun pad'

variable {raw s pad pad' : List Char} {c : Char}

theorem isMargin_of_isBlank (h : Text.isBlank c = true) : isMargin c = true := by
  simp [isMargin, h]

theorem isMargin_of_isHash (h : isHash c = true) : isMargin c = true := by
  simp [isMargin, h]

theorem IsOneRun.isMargin (h : IsOneRun pad) : ∀ c ∈ pad, isMargin c = true := by
  obtain ⟨before, run, behind, rfl, hbefore, hrun, hbehind⟩ := h
  intro c hc
  rcases List.mem_append.mp hc with hc | hc
  · rcases List.mem_append.mp hc with hc | hc
    · exact isMargin_of_isBlank (hbefore c hc)
    · exact isMargin_of_isHash (hrun c hc)
  · exact isMargin_of_isBlank (hbehind c hc)

theorem isBare_isMargin_iff :
    Text.IsBare isMargin s ↔ Text.IsBare Text.isBlank s ∧ Text.IsBare isHash s := by
  have hneither (c : Char) :
      isMargin c = false ↔ Text.isBlank c = false ∧ isHash c = false := by
    rw [isMargin, Bool.or_eq_false_iff]
  constructor
  · intro h
    exact ⟨⟨fun c hc => ((hneither c).mp (h.head c hc)).1,
        fun c hc => ((hneither c).mp (h.last c hc)).1⟩,
      ⟨fun c hc => ((hneither c).mp (h.head c hc)).2,
        fun c hc => ((hneither c).mp (h.last c hc)).2⟩⟩
  · rintro ⟨hblank, hhash⟩
    exact ⟨fun c hc => (hneither c).mpr ⟨hblank.head c hc, hhash.head c hc⟩,
      fun c hc => (hneither c).mpr ⟨hblank.last c hc, hhash.last c hc⟩⟩

/-! ### One pass -/

theorem strip_eq (raw : List Char) :
    strip raw = Text.trim (Text.trimBy isHash (Text.trim raw)) := rfl

/-- One run of terminators is taken off either side, with the blanks around it. -/
theorem exists_eq_append_strip (raw : List Char) :
    ∃ pad pad', raw = pad ++ strip raw ++ pad' ∧ IsOneRun pad ∧ IsOneRun pad' := by
  obtain ⟨before, before', hraw, hbefore, hbefore'⟩ :=
    Text.exists_eq_append_trimBy Text.isBlank raw
  obtain ⟨run, run', htrimmed, hrun, hrun'⟩ := Text.exists_eq_append_trimBy isHash (Text.trim raw)
  obtain ⟨behind, behind', hinner, hbehind, hbehind'⟩ :=
    Text.exists_eq_append_trimBy Text.isBlank (Text.trimBy isHash (Text.trim raw))
  have hstripped : Text.trimBy isHash (Text.trim raw) = behind ++ strip raw ++ behind' := hinner
  refine ⟨before ++ run ++ behind, behind' ++ run' ++ before', ?_,
    ⟨before, run, behind, rfl, hbefore, hrun, hbehind⟩,
    ⟨behind', run', before', rfl, hbehind', hrun', hbefore'⟩⟩
  calc raw = before ++ Text.trim raw ++ before' := hraw
    _ = before ++ (run ++ Text.trimBy isHash (Text.trim raw) ++ run') ++ before' := by
        rw [← htrimmed]
    _ = before ++ (run ++ (behind ++ strip raw ++ behind') ++ run') ++ before' := by
        rw [← hstripped]
    _ = before ++ run ++ behind ++ strip raw ++ (behind' ++ run' ++ before') := by simp

theorem isBare_strip (raw : List Char) : Text.IsBare Text.isBlank (strip raw) :=
  Text.isBare_trimBy _ _

/-- What is taken off belongs to the margins. -/
theorem core_strip (raw : List Char) : core (strip raw) = core raw := by
  obtain ⟨pad, pad', hraw, hpad, hpad'⟩ := exists_eq_append_strip raw
  calc core (strip raw) = core (pad ++ strip raw ++ pad') :=
        (Text.trimBy_append _ hpad.isMargin hpad'.isMargin).symm
    _ = core raw := by rw [← hraw]

theorem core_infix_strip (raw : List Char) : core raw <:+: strip raw := by
  rw [← core_strip]
  exact Text.trimBy_infix_self isMargin (strip raw)

/-- More is left of a longer text. -/
theorem strip_infix_strip (h : s <:+: raw) : strip s <:+: strip raw :=
  Text.trimBy_infix_trimBy (Text.trimBy_infix_trimBy (Text.trimBy_infix_trimBy h))

/-- Of what stands between two runs nothing but a part is left: each pass takes one layer off, and
of a part of the text it leaves no more than of all of it. -/
theorem strip_append_infix_self (hpad : IsOneRun pad) (hpad' : IsOneRun pad') (s : List Char) :
    strip (pad ++ s ++ pad') <:+: s := by
  obtain ⟨before, run, behind, rfl, hbefore, hrun, hbehind⟩ := hpad
  obtain ⟨behind', run', before', rfl, hbehind', hrun', hbefore'⟩ := hpad'
  have hlayers : before ++ run ++ behind ++ s ++ (behind' ++ run' ++ before') =
      before ++ (run ++ (behind ++ s ++ behind') ++ run') ++ before' := by simp
  have houter : Text.trim (before ++ (run ++ (behind ++ s ++ behind') ++ run') ++ before') <:+:
      run ++ (behind ++ s ++ behind') ++ run' := by
    rw [Text.trim, Text.trimBy_append _ hbefore hbefore']
    exact Text.trimBy_infix_self _ _
  have hmiddle : Text.trimBy isHash (run ++ (behind ++ s ++ behind') ++ run') <:+:
      behind ++ s ++ behind' := by
    rw [Text.trimBy_append _ hrun hrun']
    exact Text.trimBy_infix_self _ _
  have hinner : Text.trim (behind ++ s ++ behind') <:+: s := by
    rw [Text.trim, Text.trimBy_append _ hbehind hbehind']
    exact Text.trimBy_infix_self _ _
  have hbetween := (Text.trimBy_infix_trimBy houter).trans hmiddle
  rw [hlayers, strip_eq]
  exact (Text.trimBy_infix_trimBy hbetween).trans hinner

/-- Everything is taken off exactly if there is one run on either side. -/
theorem strip_eq_core_iff : strip raw = core raw ↔ HasOneRun raw := by
  constructor
  · intro h
    obtain ⟨pad, pad', hraw, hpad, hpad'⟩ := exists_eq_append_strip raw
    rw [h] at hraw
    exact ⟨pad, pad', hraw, hpad, hpad'⟩
  · rintro ⟨pad, pad', hraw, hpad, hpad'⟩
    have hstrip : strip raw <:+: core raw := by
      have hpart := strip_append_infix_self hpad hpad' (core raw)
      rwa [← hraw] at hpart
    exact List.infix_antisymm hstrip (core_infix_strip raw)

theorem isBare_strip_iff : Text.IsBare isMargin (strip raw) ↔ HasOneRun raw := by
  rw [← strip_eq_core_iff]
  constructor
  · intro h
    rw [← core_strip, core, Text.isBare_iff.mp h]
  · intro h
    rw [h]
    exact Text.isBare_trimBy _ _

/-- A second pass changes nothing exactly if the first one has taken everything off. -/
theorem strip_strip_iff : strip (strip raw) = strip raw ↔ HasOneRun raw := by
  rw [← isBare_strip_iff, isBare_isMargin_iff, and_iff_right (isBare_strip raw), Text.isBare_iff]
  have htrim : Text.trim (strip raw) = strip raw := Text.isBare_iff.mp (isBare_strip raw)
  rw [strip_eq (strip raw), htrim]
  constructor
  · intro h
    -- The last pass can only shorten, so if nothing is missing behind it, nothing was before it.
    refine List.infix_antisymm (Text.trimBy_infix_self _ _) ?_
    have hpart := Text.trimBy_infix_self Text.isBlank (Text.trimBy isHash (strip raw))
    rwa [← Text.trim, h] at hpart
  · intro h
    rw [h, htrim]

/-- If one run is left on either side, nothing but margins has been added. -/
theorem strip_append_eq (hpad : ∀ c ∈ pad, isMargin c = true)
    (hpad' : ∀ c ∈ pad', isMargin c = true) (h : HasOneRun (pad ++ raw ++ pad')) :
    strip (pad ++ raw ++ pad') = strip raw := by
  have hcore : core (pad ++ raw ++ pad') = core raw := Text.trimBy_append raw hpad hpad'
  have hall : strip (pad ++ raw ++ pad') = core raw := (strip_eq_core_iff.mpr h).trans hcore
  have hpart : strip raw <:+: core raw := by
    rw [← hall]
    exact strip_infix_strip (List.infix_append pad raw pad')
  rw [hall, List.infix_antisymm hpart (core_infix_strip raw)]

/-! ### Replies -/

theorem text_ofText (raw : String) : (ofText raw).text = String.ofList (strip raw.toList) := by
  rw [ofText]
  split <;> rfl

/-- A reply is what is left of it when it is stripped. -/
theorem ofText_eq_iff {raw other : String} :
    ofText raw = ofText other ↔ strip raw.toList = strip other.toList := by
  constructor
  · intro h
    have htext := congrArg Reply.text h
    rw [text_ofText, text_ofText] at htext
    exact String.ofList_injective htext
  · intro h
    rw [ofText, h, ofText]

/-- What is to be expected of the text of a reply. -/
structure IsStripped (raw : String) : Prop where
  /-- no blank stands at its ends -/
  isBare : Text.IsBare Text.isBlank (ofText raw).text.toList
  /-- and no terminator, exactly if there is one run of them on either side -/
  isBare_iff : Text.IsBare isMargin (ofText raw).text.toList ↔ HasOneRun raw.toList
  /-- exactly then is the text what all blanks and terminators stand around -/
  core_iff : (ofText raw).text = String.ofList (core raw.toList) ↔ HasOneRun raw.toList
  /-- exactly then is the text read as the same reply -/
  again_iff : ofText (ofText raw).text = ofText raw ↔ HasOneRun raw.toList
  /-- and then blanks and terminators around it make no difference exactly if they leave one run -/
  padded_iff : HasOneRun raw.toList → ∀ pad pad' : String,
    (∀ c ∈ pad.toList, isMargin c = true) → (∀ c ∈ pad'.toList, isMargin c = true) →
    (ofText (pad ++ raw ++ pad') = ofText raw ↔ HasOneRun (pad ++ raw ++ pad').toList)

/-- When the text of a reply begins or ends with a terminator, and what follows from that. -/
theorem isStripped (raw : String) : IsStripped raw := by
  have htext : (ofText raw).text.toList = strip raw.toList := by
    rw [text_ofText, String.toList_ofList]
  constructor
  case isBare =>
    rw [htext]
    exact isBare_strip raw.toList
  case isBare_iff => rw [htext, isBare_strip_iff]
  case core_iff =>
    rw [text_ofText, String.ofList_inj, strip_eq_core_iff]
  case again_iff => rw [ofText_eq_iff, htext, strip_strip_iff]
  case padded_iff =>
    intro hone pad pad' hpad hpad'
    have hcore : core (pad.toList ++ raw.toList ++ pad'.toList) = core raw.toList :=
      Text.trimBy_append raw.toList hpad hpad'
    rw [ofText_eq_iff, String.toList_append, String.toList_append]
    constructor
    · intro h
      rw [← strip_eq_core_iff, h, hcore, strip_eq_core_iff.mpr hone]
    · exact strip_append_eq hpad hpad'

/-- A second run of terminators stays at the beginning of the text. Without it the reply would be
another one, and so it is when the text is read again. -/
theorem exists_terminator_left :
    (ofText "# #FREE").text = "#FREE" ∧ ¬Text.IsBare isMargin (ofText "# #FREE").text.toList ∧
      ofText (ofText "# #FREE").text ≠ ofText "# #FREE" ∧
      (∀ c ∈ "# #".toList, isMargin c = true) ∧ ofText ("# #" ++ "FREE") ≠ ofText "FREE" ∧
      (ofText "# #FREE").status = .other ∧ (ofText "FREE").status = .free := by
  have htext : (ofText "# #FREE").text = "#FREE" := by decide +kernel
  have hmargin : ∀ c ∈ "# #".toList, isMargin c = true := List.all_eq_true.mp (by decide +kernel)
  refine ⟨htext, fun hbare => ?_, by decide +kernel, hmargin, by decide +kernel,
    by decide +kernel, by decide +kernel⟩
  have hhash := hbare.head '#' (by rw [htext]; decide +kernel)
  exact absurd hhash (by decide)

end Reply

end MotionLink
