import MotionLink.Proofs.Terminal.Visible

/-!
# Markers that are shown

Only the markers around a value and those of a tail are left out. A marker that closes nothing may
stand in a label, one that opens nothing in a value, and both are shown with the text around them.
The closing marker also begins the codes of a terminal, so it matters where it comes through.

## Main definitions

* `Segment.IsUnmarked` — a piece of a line without a marker in it
* `Markup.ShowsStrays` — which markers of a line are shown

## Main results

* `Markup.flatMap_chars_pieces` — all text of the pieces of a line
* `Markup.showsStrays` — exactly the markers in labels and in values are shown
* `Segment.not_isUnmarked_stray` — there may be some
-/

namespace MotionLink

open Styled (plain)

namespace Segment

/-- A piece of a line without a marker in it. -/
def IsUnmarked (piece : Segment) : Prop := ∀ c ∈ piece.chars, isMarker c = false

/-- The markers of a text, in order. -/
def markers (chars : List Char) : List Char := chars.filter isMarker

theorem markers_flatMap {α : Type} (items : List α) (text : α → List Char) :
    markers (items.flatMap text) = items.flatMap fun item => markers (text item) :=
  List.filter_flatMap

theorem isUnmarked_iff {piece : Segment} : piece.IsUnmarked ↔ markers piece.chars = [] := by
  simp [IsUnmarked, markers]

theorem markers_without (chars : List Char) :
    markers (chars.filter fun c => !isMarker c) = [] := by
  simp [markers]

/-- Of the two markers, a text may hold one without the other. -/
theorem markers_eq_nil_iff {chars : List Char} :
    markers chars = [] ↔ opening ∉ chars ∧ closing ∉ chars := by
  constructor
  · intro h
    have hnone := List.filter_eq_nil_iff.mp h
    exact ⟨fun hmem => hnone _ hmem rfl, fun hmem => hnone _ hmem rfl⟩
  · rintro ⟨hopening, hclosing⟩
    refine List.filter_eq_nil_iff.mpr fun c hc hmarker => ?_
    simp only [isMarker, Bool.or_eq_true, beq_iff_eq] at hmarker
    rcases hmarker with rfl | rfl
    · exact hopening hc
    · exact hclosing hc

/-- A piece of text is the text that it is made of. -/
theorem eq_of_literal_mem_literal? {chars text : List Char} (h : literal chars ∈ literal? text) :
    chars = text := by
  rw [literal?] at h
  split at h
  · cases h
  · simpa using h

/-- No label and no other text shows a marker that opens a value. -/
theorem opening_not_mem_of_literal_mem {name line chars : List Char}
    (h : literal chars ∈ ofLineNamed name line) : opening ∉ chars := by
  have hwithout (text : List Char) (h : literal chars ∈ literal? (text.filter (!isMarker ·))) :
      opening ∉ chars := by
    rw [eq_of_literal_mem_literal? h]
    simp [isMarker]
  fun_induction ofLineNamed name line with
  | case1 name line hopen => exact hwithout line h
  | case2 name line label opened hopen hclose => exact hwithout line h
  | case3 name line label opened hopen value rest hclose name' ih =>
    rcases List.mem_append.mp h with h | h
    · rw [eq_of_literal_mem_literal? h]
      exact Text.not_mem_of_cutAtChar hopen
    · exact ih (by simpa using h)

/-- No value shows a marker that closes one. -/
theorem closing_not_mem_of_field_mem {name line : List Char} {f : Field}
    (h : field f ∈ ofLineNamed name line) : closing ∉ f.value.chars := by
  fun_induction ofLineNamed name line with
  | case1 name line hopen => exact absurd h not_field_mem_literal?
  | case2 name line label opened hopen hclose => exact absurd h not_field_mem_literal?
  | case3 name line label opened hopen value rest hclose name' ih =>
    rcases List.mem_append.mp h with h | h
    · exact absurd h not_field_mem_literal?
    · rcases List.mem_cons.mp h with h | h
      · cases h
        rw [chars_ofText]
        exact Text.not_mem_of_cutAtChar hclose
      · exact ih h

end Segment

open Segment

namespace Markup

/-- The labels and the values of a line are shown as they are. -/
theorem flatMap_chars_zipWith {previous : List Char} {values : List MarkedValue}
    {fields : List Field} (h : FieldsOf previous values fields) :
    (List.zipWith MarkedValue.pieces values fields).flatten.flatMap Segment.chars =
      values.flatMap fun v => v.label ++ v.value := by
  induction h with
  | nil => rfl
  | @cons previous v values f fields head rest ih =>
    have hpieces : (v.pieces f).flatMap Segment.chars = v.label ++ v.value := by
      rw [MarkedValue.pieces, List.flatMap_append, ← literal?_eq_pieceOf, flatMap_chars_literal?,
        List.flatMap_singleton, Segment.chars, head.chars]
    rw [List.zipWith_cons_cons, List.flatten_cons, List.flatMap_append, ih, hpieces,
      List.flatMap_cons]

/-- All text of the pieces of a line: its labels and values in order, and its tail without
markers. -/
theorem flatMap_chars_pieces (m : Markup) :
    (ofLine m.chars).flatMap Segment.chars =
      (m.values.flatMap fun v => v.label ++ v.value) ++ m.tail.filter fun c => !isMarker c := by
  obtain ⟨fields, hfields, hline⟩ := m.exists_pieces []
  rw [ofLine, hline, pieces, List.flatMap_append, flatMap_chars_zipWith hfields,
    ← literal?_eq_pieceOf, flatMap_chars_literal?, filter_not_isMarker]

theorem markers_flatMap_chars_pieces (m : Markup) :
    (ofLine m.chars).flatMap (fun piece => markers piece.chars) =
      m.values.flatMap fun v => markers v.label ++ markers v.value := by
  rw [← markers_flatMap, flatMap_chars_pieces, markers, List.filter_append, ← markers, ← markers,
    markers_without, List.append_nil, markers_flatMap]
  exact List.flatMap_congr fun v _ => List.filter_append v.label v.value

/-- Which markers of a line are shown. -/
structure ShowsStrays (m : Markup) : Prop where
  /-- no label and no other text shows a marker that opens a value -/
  literals : ∀ chars, .literal chars ∈ ofLine m.chars → opening ∉ chars
  /-- no value shows a marker that closes one -/
  fields : ∀ f, .field f ∈ ofLine m.chars → closing ∉ f.value.chars
  /-- the markers that are shown are those in labels and in values, in order -/
  shown : (ofLine m.chars).flatMap (fun piece => markers piece.chars) =
    m.values.flatMap fun v => markers v.label ++ markers v.value
  /-- so there are none exactly if no label closes a value and no value opens another -/
  unmarked : (∀ piece ∈ ofLine m.chars, piece.IsUnmarked) ↔
    ∀ v ∈ m.values, closing ∉ v.label ∧ opening ∉ v.value
  /-- and of a line of a block, a closing marker is written exactly if it stands in a label -/
  written : ∀ router : Router,
    closing ∈ plain (router.segments m.chars).1 ↔ ∃ v ∈ m.values, closing ∈ v.label

/-- A value and its label hold no marker exactly if the label closes nothing and the value opens
nothing. -/
theorem markers_append_eq_nil_iff (v : MarkedValue) :
    markers v.label ++ markers v.value = [] ↔ closing ∉ v.label ∧ opening ∉ v.value := by
  simp only [List.append_eq_nil_iff, markers_eq_nil_iff, v.opening_not_mem, v.closing_not_mem,
    not_false_eq_true, true_and, and_true]

theorem forall_isUnmarked_iff (m : Markup) :
    (∀ piece ∈ ofLine m.chars, piece.IsUnmarked) ↔
      ∀ v ∈ m.values, closing ∉ v.label ∧ opening ∉ v.value := by
  calc (∀ piece ∈ ofLine m.chars, piece.IsUnmarked)
      ↔ (ofLine m.chars).flatMap (fun piece => markers piece.chars) = [] := by
        simp only [isUnmarked_iff, List.flatMap_eq_nil_iff]
    _ ↔ ∀ v ∈ m.values, markers v.label ++ markers v.value = [] := by
        rw [markers_flatMap_chars_pieces, List.flatMap_eq_nil_iff]
    _ ↔ ∀ v ∈ m.values, closing ∉ v.label ∧ opening ∉ v.value := by
        simp only [markers_append_eq_nil_iff]

/-- What is written of a line of a block without color. -/
theorem plain_segments (m : Markup) (router : Router) :
    plain (router.segments m.chars).1 =
      (m.values.flatMap fun v => v.label ++ v.value) ++
        (m.tail.filter fun c => !isMarker c) ++ ['\n'] := by
  change plain ((Router.segmentEvents router.tally (ofLine m.chars)).1 ++ [.endLine]) = _
  rw [Styled.plain_append, Styled.plain_segmentEvents, flatMap_chars_pieces]
  rfl

theorem closing_mem_plain_segments_iff (m : Markup) (router : Router) :
    closing ∈ plain (router.segments m.chars).1 ↔ ∃ v ∈ m.values, closing ∈ v.label := by
  have htail : closing ∉ m.tail.filter fun c => !isMarker c := by simp [isMarker]
  have hbreak : closing ∉ ['\n'] := by decide
  rw [plain_segments, List.mem_append, List.mem_append, or_iff_left hbreak, or_iff_left htail,
    List.mem_flatMap]
  refine exists_congr fun v => and_congr_right fun _ => ?_
  rw [List.mem_append, or_iff_left v.closing_not_mem]

/-- Of every line exactly the markers in its labels and in its values are shown. -/
theorem showsStrays (line : List Char) : ∃ m : Markup, m.chars = line ∧ m.ShowsStrays := by
  obtain ⟨m, rfl⟩ := exists_chars_eq line
  refine ⟨m, rfl, ?_⟩
  constructor
  case literals => exact fun _ h => opening_not_mem_of_literal_mem h
  case fields => exact fun _ h => closing_not_mem_of_field_mem h
  case shown => exact m.markers_flatMap_chars_pieces
  case unmarked => exact m.forall_isUnmarked_iff
  case written => exact m.closing_mem_plain_segments_iff

end Markup

/-- A marker that closes nothing is shown with the label that it stands in. -/
theorem Segment.not_isUnmarked_stray :
    ¬∀ piece ∈ ofLine "\x1b, J1=\x1a0.5\x1b".toList, piece.IsUnmarked := by
  intro h
  have hlabel : literal "\x1b, J1=".toList ∈ ofLine "\x1b, J1=\x1a0.5\x1b".toList := by
    decide +kernel
  have hstray : isMarker '\x1b' = false := h _ hlabel '\x1b' (by decide)
  exact absurd hstray (by decide)

end MotionLink
