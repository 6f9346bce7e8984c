import MotionLink.Proofs.Command.Reading
import MotionLink.Proofs.Text.Margins

/-!
# Spellings of a command

The same ten slots can be sent in many ways: with blanks around them, with blanks around the
components of points, with further slots behind them, with a terminator at the end and with blanks
behind that. All of these are read alike, and refused alike. Only the name of a program, which
stands in the slot of the points, must not be cut into components.

What is taken off the end of a payload is taken off its last slot, wherever bars stand before it.
So a payload with further slots keeps its tenth slot as it is, and one without loses there what
trimming would take anyway.

## Main definitions

* `AreSpaced` — points with blanks around their components
* `Spelling` — slots as they are written, and what is written behind them
* `Spelling.Spells` — the slots are those of a command, up to blanks

## Main results

* `payloadParts_append` — what stands before a bar is cut at its bars, whatever stands behind
* `readPoints_trim_congr` — points are read alike if their trimmed components are the same
* `Spelling.readsAlike` — all spellings of a command are read alike
-/

namespace MotionLink

/-! ### The end of a payload -/

section Parts

variable {s text blanks : List Char}

theorem dropLastChar?_concat (first : List Char) (c d : Char) :
    Text.dropLastChar? d (first ++ [c]) = if c = d then some first else none := by
  simp [Text.dropLastChar?]

/-- Bars stay, so what is taken off the end of a payload stands behind the last one. -/
theorem payloadParts_append (s text : List Char) :
    payloadParts (s ++ Slot.bar :: text) = s.splitOn Slot.bar ++ payloadParts text := by
  have hbar : Text.trimEnd (Slot.bar :: text) = Slot.bar :: Text.trimEnd text :=
    Text.trimEndBy_cons (by decide)
  have hend : Text.trimEnd (s ++ Slot.bar :: text) = s ++ Slot.bar :: Text.trimEnd text := by
    rw [← hbar]
    exact Text.trimEndBy_append s (by rw [← Text.trimEnd, hbar]; exact List.cons_ne_nil _ _)
  have hdrop : (Text.dropLastChar? Slot.hash (s ++ Slot.bar :: Text.trimEnd text)).getD
        (s ++ Slot.bar :: Text.trimEnd text) =
      s ++ Slot.bar :: (Text.dropLastChar? Slot.hash (Text.trimEnd text)).getD
        (Text.trimEnd text) := by
    rcases List.eq_nil_or_concat' (Text.trimEnd text) with hnil | ⟨first, c, hlast⟩
    · rw [hnil]
      simp [Text.dropLastChar?, Slot.bar, Slot.hash]
    · have hconcat : s ++ Slot.bar :: (first ++ [c]) = s ++ Slot.bar :: first ++ [c] := by simp
      rw [hlast, hconcat, dropLastChar?_concat, dropLastChar?_concat]
      split <;> simp
  rw [payloadParts, hend, hdrop, List.splitOn_append_cons_self, payloadParts]

/-- A terminator at the end of a trimmed text is no blank, so trimming the start keeps it. -/
theorem getLast?_trim (h : (Text.trimEnd text).getLast? = some Slot.hash) :
    (Text.trim text).getLast? = some Slot.hash := by
  obtain ⟨first, hfirst⟩ := List.getLast?_eq_some_iff.mp h
  have hhash : [Slot.hash].dropWhile Text.isBlank = [Slot.hash] := by decide
  rw [Text.trim, Text.trimBy, ← Text.trimStartBy_trimEndBy, ← Text.trimEnd, hfirst,
    Text.trimStartBy, List.dropWhile_append]
  split
  · rw [hhash, List.getLast?_singleton]
  · rw [List.getLast?_append_of_ne_nil _ (List.cons_ne_nil _ _), List.getLast?_singleton]

/-- A last slot with or without a terminator behind it. -/
theorem exists_payloadParts_last (hbar : Slot.bar ∉ text)
    (hlast : (Text.trim text).getLast? ≠ some Slot.hash)
    (hblanks : ∀ c ∈ blanks, Text.isBlank c = true) (isTerminated : Bool) :
    ∃ last, payloadParts (text ++ (if isTerminated then [Slot.hash] else []) ++ blanks) = [last] ∧
      Text.trim last = Text.trim text := by
  have hend (s : List Char) : Text.trimEnd (s ++ blanks) = Text.trimEnd s :=
    Text.trimEndBy_append_of_forall s hblanks
  cases isTerminated with
  | true =>
    have hhash : Text.trimEnd (text ++ [Slot.hash]) = text ++ [Slot.hash] :=
      Text.trimEndBy_append text (by decide)
    refine ⟨text, ?_, rfl⟩
    rw [if_pos rfl, payloadParts, hend, hhash]
    simp [Text.dropLastChar?, List.splitOn_eq_singleton hbar]
  | false =>
    -- No terminator is taken off, so no more than blanks at the end is missing.
    have hnone : Text.dropLastChar? Slot.hash (Text.trimEnd text) = none :=
      if_neg (mt getLast?_trim hlast)
    have hplain : Slot.bar ∉ Text.trimEnd text := fun hmem => hbar (Text.mem_of_mem_trimEndBy hmem)
    refine ⟨Text.trimEnd text, ?_, Text.trimBy_trimEndBy _ _⟩
    rw [if_neg Bool.false_ne_true, List.append_nil, payloadParts, hend, hnone, Option.getD_none,
      List.splitOn_eq_singleton hplain]

end Parts

/-- A payload is read from its first ten parts. -/
theorem Decoded.ofPayload_of_payloadParts {payload : String} {texts : Slot → List Char}
    {rest : List (List Char)} (h : payloadParts payload.toList = Slot.all.map texts ++ rest) :
    ofPayload payload = ofSlots fun slot => Text.trim (texts slot) := by
  have henough : ¬(Slot.all.map texts ++ rest).length < Slot.count := by
    simp [Slot.all, Slot.count]
  have hslots : slotText (Slot.all.map texts ++ rest) = fun slot => Text.trim (texts slot) := by
    funext slot
    cases slot <;> rfl
  rw [ofPayload, h]
  exact (if_neg henough).trans (congrArg ofSlots hslots)

/-! ### Blanks within the slot of the points -/

section Points

variable {expected : PointKind} {index : Nat} {s t : List Char} {c : Char}

/-- The components of the points in `t` are those in `s`, with blanks around them. -/
def AreSpaced (s t : List Char) : Prop :=
  List.Forall₂ (fun p q => List.Forall₂ Text.IsPadded (p.splitOn Slot.semicolon)
    (q.splitOn Slot.semicolon)) (s.splitOn Slot.comma) (t.splitOn Slot.comma)

/-- The components of a point, each without the blanks around it. -/
def componentTexts (point : List Char) : List (List Char) :=
  (point.splitOn Slot.semicolon).map Text.trim

/-- The components of the points in a slot, each without the blanks around it. -/
def pointTexts (text : List Char) : List (List (List Char)) :=
  (text.splitOn Slot.comma).map componentTexts

theorem componentTexts_trim (point : List Char) :
    componentTexts (Text.trim point) = componentTexts point :=
  Text.map_trim_splitOn (by decide) point

/-- The blanks around a slot are blanks around the first and the last component. -/
theorem pointTexts_trim (text : List Char) : pointTexts (Text.trim text) = pointTexts text := by
  have htrim (texts : List (List Char)) :
      texts.map componentTexts = (texts.map Text.trim).map componentTexts := by
    rw [List.map_map]
    exact List.map_congr_left fun point _ => (componentTexts_trim point).symm
  rw [pointTexts, htrim, Text.map_trim_splitOn (by decide), ← htrim, pointTexts]

/-- The slot is blank exactly if there is but one component, and that one is blank. -/
theorem trim_eq_nil_iff_pointTexts : Text.trim s = [] ↔ pointTexts s = [[[]]] := by
  constructor
  · intro h
    rw [← pointTexts_trim, h]
    rfl
  · intro h
    obtain ⟨point, hpoint, h⟩ := List.map_eq_singleton_iff.mp h
    obtain ⟨component, hcomponent, hblank⟩ := List.map_eq_singleton_iff.mp h
    have hs : [Slot.comma].intercalate [point] = s := by
      rw [← hpoint, List.intercalate_splitOn]
    have hp : [Slot.semicolon].intercalate [component] = point := by
      rw [← hcomponent, List.intercalate_splitOn]
    rw [List.intercalate_singleton] at hs hp
    rw [← hs, ← hp, hblank]

theorem AreSpaced.pointTexts_eq (h : AreSpaced s t) : pointTexts s = pointTexts t := by
  have hpoint {p q : List Char} (h : List.Forall₂ Text.IsPadded (p.splitOn Slot.semicolon)
      (q.splitOn Slot.semicolon)) : componentTexts p = componentTexts q := by
    rw [componentTexts, componentTexts, ← List.forall₂_eq_eq_eq, List.forall₂_map_left_iff,
      List.forall₂_map_right_iff]
    exact h.imp fun _ _ hpadded => hpadded.trim_eq.symm
  rw [pointTexts, pointTexts, ← List.forall₂_eq_eq_eq, List.forall₂_map_left_iff,
    List.forall₂_map_right_iff]
  exact List.Forall₂.imp (fun _ _ => hpoint) h

/-- What stands in one of two rows of pieces has its counterpart in the other one. -/
theorem exists_of_mem_of_forall₂ {R : List Char → List Char → Prop}
    {pieces pieces' : List (List Char)} {q : List Char} (h : List.Forall₂ R pieces pieces')
    (hq : q ∈ pieces') : ∃ p ∈ pieces, R p q := by
  induction h with
  | nil => cases hq
  | cons hR _ ih =>
    rcases List.mem_cons.mp hq with rfl | hq
    · exact ⟨_, List.mem_cons_self, hR⟩
    · obtain ⟨p, hp, hR⟩ := ih hq
      exact ⟨p, List.mem_cons_of_mem _ hp, hR⟩

/-- Nothing but blanks is added. -/
theorem AreSpaced.mem (h : AreSpaced s t) (hc : c ∈ t) (hcomma : c ≠ Slot.comma)
    (hsemicolon : c ≠ Slot.semicolon) : c ∈ s ∨ Text.isBlank c = true := by
  -- Down to the component that the character stands in, and from its counterpart up again.
  obtain ⟨q, hq, hc⟩ := (Text.mem_iff_exists_mem_splitOn hcomma).mp hc
  obtain ⟨p, hp, hpoint⟩ := exists_of_mem_of_forall₂ h hq
  obtain ⟨e, he, hc⟩ := (Text.mem_iff_exists_mem_splitOn hsemicolon).mp hc
  obtain ⟨d, hd, hpadded⟩ := exists_of_mem_of_forall₂ hpoint he
  refine (hpadded.mem hc).imp_left fun hcd => ?_
  have hcp : c ∈ p := (Text.mem_iff_exists_mem_splitOn hsemicolon).mpr ⟨d, hd, hcd⟩
  exact (Text.mem_iff_exists_mem_splitOn hcomma).mpr ⟨p, hp, hcp⟩

theorem readComponents_map_trim (texts : List (List Char)) :
    readComponents (texts.map Text.trim) = readComponents texts := by
  induction texts with
  | nil => rfl
  | cons text texts ih =>
    have hread : readComponent (Text.trim text) = readComponent text := by
      have hagain : Text.trim (Text.trim text) = Text.trim text := Text.trimBy_trimBy _ _
      rw [readComponent, hagain, readComponent]
    rw [List.map_cons, readComponents, hread, ih, readComponents]

theorem readPoint_congr (h : componentTexts s = componentTexts t) :
    readPoint expected index s = readPoint expected index t := by
  have hread : readComponents (s.splitOn Slot.semicolon) =
      readComponents (t.splitOn Slot.semicolon) := by
    rw [← readComponents_map_trim, ← componentTexts, h, componentTexts, readComponents_map_trim]
  rw [readPoint, hread, readPoint]

theorem readPointsFrom_congr {texts texts' : List (List Char)}
    (h : texts.map componentTexts = texts'.map componentTexts) :
    readPointsFrom expected index texts = readPointsFrom expected index texts' := by
  induction texts generalizing index texts' with
  | nil =>
    obtain rfl := List.map_eq_nil_iff.mp h.symm
    rfl
  | cons p texts ih =>
    obtain ⟨q, others, rfl, hp, hothers⟩ := List.map_eq_cons_iff.mp h.symm
    rw [readPointsFrom, readPointsFrom, readPoint_congr hp.symm, ih hothers.symm]

/-- Points are read alike if their components, without the blanks around them, are the same. -/
theorem readPoints_trim_congr (h : pointTexts s = pointTexts t) :
    readPoints expected (Text.trim s) = readPoints expected (Text.trim t) := by
  have hblank : (Text.trim s).isEmpty = (Text.trim t).isEmpty := by
    rw [Bool.eq_iff_iff, List.isEmpty_iff, List.isEmpty_iff, trim_eq_nil_iff_pointTexts,
      trim_eq_nil_iff_pointTexts, h]
  have hread : readPointsFrom expected 0 ((Text.trim s).splitOn Slot.comma) =
      readPointsFrom expected 0 ((Text.trim t).splitOn Slot.comma) := by
    apply readPointsFrom_congr
    rw [← pointTexts, ← pointTexts, pointTexts_trim, pointTexts_trim, h]
  rw [readPoints, hblank, hread, readPoints]

end Points

/-! ### Slots that are read alike -/

/-- Only where a program is started does the slot of the points hold something else than points. -/
theorem Decoded.ofSlots_congr {slot slot' : Slot → List Char}
    (hsame : ∀ name, name ≠ .points → slot name = slot' name)
    (hpoints : slot .points = slot' .points ∨
      (∀ action, readAction (slot .action) = .ok action → action.category ≠ .program) ∧
        ∀ expected, readPoints expected (slot .points) = readPoints expected (slot' .points)) :
    ofSlots slot = ofSlots slot' := by
  -- Either all slots are the same, or the one of the points is read by nothing but `readPoints`.
  rcases hpoints with hpoints | ⟨hstarts, hpoints⟩
  · have hslots : slot = slot' := by
      funext name
      by_cases h : name = .points
      · rw [h, hpoints]
      · exact hsame name h
    rw [hslots]
  · have hcontent (action : Action) (pointCount : Nat) (h : action.category ≠ .program) :
        readContent action pointCount slot = readContent action pointCount slot' := by
      rw [readContent, readContent, hpoints, hsame .ioState (by decide), hsame .ioPoint (by decide),
        hsame .ioPin (by decide)]
      cases hcategory : action.category with
      | movement => rfl
      | output => rfl
      | program => exact absurd hcategory h
    rw [ofSlots, ofSlots, ← hsame .action (by decide), ← hsame .pointCount (by decide),
      ← hsame .id (by decide), ← hsame .speed (by decide), ← hsame .tool (by decide),
      ← hsame .base (by decide)]
    cases haction : readAction (slot .action) with
    | error e => rfl
    | ok action => simp only [bind, Except.bind, hcontent action _ (hstarts action haction)]

/-! ### Spellings -/

/-- Slots as they are written, and what is written behind them. -/
structure Spelling where
  slots : Slot → List Char
  /-- further slots -/
  more : List (List Char)
  isTerminated : Bool
  /-- what is written at the very end -/
  blanks : List Char

namespace Spelling

/-- How the text of a slot may be written: with blanks around it and, unless it names a program,
with blanks around the components of points. -/
inductive SpellsSlot (texts : Slot → List Char) : Slot → List Char → Prop where
  | padded {slot : Slot} {text : List Char} (hpadded : Text.IsPadded (texts slot) text) :
      SpellsSlot texts slot text
  | spaced {spaced text : List Char}
      (hstarts : ∀ action, readAction (Text.trim (texts .action)) = .ok action →
        action.category ≠ .program)
      (hspaced : AreSpaced (texts .points) spaced) (hpadded : Text.IsPadded spaced text) :
      SpellsSlot texts .points text

/-- The slots are those of a command, up to blanks, and there are only blanks at the very end. -/
structure Spells (texts : Slot → List Char) (w : Spelling) : Prop where
  slots : ∀ slot, SpellsSlot texts slot (w.slots slot)
  blanks : ∀ c ∈ w.blanks, Text.isBlank c = true

/-- The characters of a payload: the slots and the further ones with bars between them, the
terminator and the blanks. -/
def chars (w : Spelling) : List Char :=
  [Slot.bar].intercalate (Slot.all.map w.slots ++ w.more) ++
    (if w.isTerminated then [Slot.hash] else []) ++ w.blanks

/-- The payload that is sent. -/
def payload (w : Spelling) : String := String.ofList w.chars

variable {texts : Slot → List Char} {w : Spelling} {slot : Slot} {text : List Char} {c : Char}

theorem SpellsSlot.mem (h : SpellsSlot texts slot text) (hc : c ∈ text) (hcomma : c ≠ Slot.comma)
    (hsemicolon : c ≠ Slot.semicolon) : c ∈ texts slot ∨ Text.isBlank c = true := by
  cases h with
  | padded hpadded => exact hpadded.mem hc
  | spaced _ hspaced hpadded =>
    rcases hpadded.mem hc with hc | hblank
    · exact hspaced.mem hc hcomma hsemicolon
    · exact .inr hblank

theorem SpellsSlot.trim_eq (h : SpellsSlot texts slot text) (hslot : slot ≠ .points) :
    Text.trim text = Text.trim (texts slot) := by
  cases h with
  | padded hpadded => exact hpadded.trim_eq
  | spaced => exact absurd rfl hslot

namespace Spells

/-- Bars and terminators are no blanks, so none are added. -/
theorem bar_not_mem (h : w.Spells texts) (hbar : ∀ slot, Slot.bar ∉ texts slot) (slot : Slot) :
    Slot.bar ∉ w.slots slot := by
  intro hmem
  rcases (h.slots slot).mem hmem (by decide) (by decide) with hmem | hblank
  · exact hbar slot hmem
  · exact absurd hblank (by decide)

/-- The slots of a spelling are read as those of the command. -/
theorem ofSlots_eq (h : w.Spells texts) :
    Decoded.ofSlots (fun slot => Text.trim (w.slots slot)) =
      Decoded.ofSlots fun slot => Text.trim (texts slot) := by
  refine (Decoded.ofSlots_congr (fun name hname => ((h.slots name).trim_eq hname).symm) ?_).symm
  cases h.slots .points with
  | padded hpadded => exact .inl hpadded.trim_eq.symm
  | spaced hstarts hspaced hpadded =>
    refine .inr ⟨hstarts, fun expected => ?_⟩
    rw [hpadded.trim_eq, readPoints_trim_congr hspaced.pointTexts_eq]

end Spells

/-- Of the slots only the last one can be changed by what is taken off the end, and that by
blanks. -/
theorem exists_payloadParts (hbar : ∀ slot, Slot.bar ∉ w.slots slot)
    (hlast : (Text.trim (w.slots .id)).getLast? ≠ some Slot.hash)
    (hblanks : ∀ c ∈ w.blanks, Text.isBlank c = true) :
    ∃ texts rest, payloadParts w.chars = Slot.all.map texts ++ rest ∧
      ∀ slot, Text.trim (texts slot) = Text.trim (w.slots slot) := by
  have hsplit {slots : List Slot} (hne : slots ≠ []) :
      ([Slot.bar].intercalate (slots.map w.slots)).splitOn Slot.bar = slots.map w.slots :=
    List.splitOn_intercalate Slot.bar
      (by
        intro l hl
        obtain ⟨slot, -, rfl⟩ := List.mem_map.mp hl
        exact hbar slot)
      (by simpa using hne)
  cases hmore : w.more with
  | nil =>
    -- The end of the payload is the end of the last slot.
    obtain ⟨last, hparts, htrim⟩ := exists_payloadParts_last (hbar .id) hlast hblanks w.isTerminated
    have hchars : w.chars = [Slot.bar].intercalate (Slot.all.dropLast.map w.slots) ++ Slot.bar ::
        (w.slots .id ++ (if w.isTerminated then [Slot.hash] else []) ++ w.blanks) := by
      rw [chars, hmore, List.append_nil, ← Slot.payload, Slot.payload_eq_append]
      simp
    refine ⟨fun slot => if slot = .id then last else w.slots slot, [], ?_, fun slot => ?_⟩
    · rw [hchars, payloadParts_append, hsplit (by decide), hparts]
      rfl
    · dsimp only
      split
      · rename_i hid
        rw [hid, htrim]
      · rfl
  | cons m more =>
    -- The end of the payload is behind the bar that ends the last slot, which keeps all it has.
    have hchars : w.chars = [Slot.bar].intercalate (Slot.all.map w.slots) ++ Slot.bar ::
        ([Slot.bar].intercalate (m :: more) ++ (if w.isTerminated then [Slot.hash] else []) ++
          w.blanks) := by
      rw [chars, hmore]
      simp [Slot.all, List.intercalate_cons_cons]
    have hparts := payloadParts_append ([Slot.bar].intercalate (Slot.all.map w.slots))
      ([Slot.bar].intercalate (m :: more) ++ (if w.isTerminated then [Slot.hash] else []) ++
        w.blanks)
    rw [← hchars, hsplit (by decide)] at hparts
    exact ⟨w.slots, _, hparts, fun _ => rfl⟩

/-- A spelling is read slot by slot. -/
theorem ofPayload_eq (hbar : ∀ slot, Slot.bar ∉ w.slots slot)
    (hlast : (Text.trim (w.slots .id)).getLast? ≠ some Slot.hash)
    (hblanks : ∀ c ∈ w.blanks, Text.isBlank c = true) :
    Decoded.ofPayload w.payload = Decoded.ofSlots fun slot => Text.trim (w.slots slot) := by
  obtain ⟨texts, rest, hparts, htrim⟩ := exists_payloadParts hbar hlast hblanks
  have hchars : w.payload.toList = w.chars := String.toList_ofList
  rw [← hchars] at hparts
  rw [Decoded.ofPayload_of_payloadParts hparts]
  exact congrArg Decoded.ofSlots (funext htrim)

/-- All spellings of a command are read alike: as the same command, or with the same error. The
text of the last slot must not end in a terminator of its own. -/
theorem readsAlike (hbar : ∀ slot, Slot.bar ∉ texts slot)
    (hlast : (Text.trim (texts .id)).getLast? ≠ some Slot.hash) (h : w.Spells texts) :
    Decoded.ofPayload w.payload = Decoded.ofPayload (String.ofList (Slot.payload texts)) := by
  let plain : Spelling := ⟨texts, [], false, []⟩
  have hplain : plain.payload = String.ofList (Slot.payload texts) := by
    simp [plain, payload, chars, Slot.payload]
  have hid : (Text.trim (w.slots .id)).getLast? ≠ some Slot.hash := by
    rw [(h.slots .id).trim_eq (by decide)]
    exact hlast
  calc Decoded.ofPayload w.payload
      = Decoded.ofSlots fun slot => Text.trim (w.slots slot) :=
        ofPayload_eq (h.bar_not_mem hbar) hid h.blanks
    _ = Decoded.ofSlots fun slot => Text.trim (texts slot) := h.ofSlots_eq
    _ = Decoded.ofPayload plain.payload :=
        (ofPayload_eq (w := plain) hbar hlast (List.forall_mem_nil _)).symm
    _ = Decoded.ofPayload (String.ofList (Slot.payload texts)) := by rw [hplain]

/-- A motion with blanks around its slots and its components, and with slots behind it that end in
terminators themselves. -/
theorem readsAlike_of_spaced_motion :
    let texts : Slot → List Char := fun
      | .action => ['2']
      | .pointCount => ['1']
      | .points => "1;2;3;4;5;6".toList
      | .tool => ['t']
      | .id => ['i', 'd']
      | _ => []
    let w : Spelling :=
      { slots := fun
          | .action => [' ', '2']
          | .points => " 1; 2 ;3;4;\t5;6 ".toList
          | .id => ['i', 'd', ' ']
          | slot => texts slot
        more := [['x', '#'], []], isTerminated := true, blanks := ['\n'] }
    (∀ slot, Slot.bar ∉ texts slot) ∧ (Text.trim (texts .id)).getLast? ≠ some Slot.hash ∧
      w.Spells texts ∧ w.payload = " 2|1| 1; 2 ;3;4;\t5;6 ||||t|||id |x#|#\n" ∧
      Decoded.ofPayload w.payload = Decoded.ofPayload (String.ofList (Slot.payload texts)) := by
  intro texts w
  have hbar (slot : Slot) : Slot.bar ∉ texts slot := by cases slot <;> decide +kernel
  have hlast : (Text.trim (texts .id)).getLast? ≠ some Slot.hash := by decide
  have hpadded (pad pad' s : List Char) (h : pad.all Text.isBlank = true)
      (h' : pad'.all Text.isBlank = true) : Text.IsPadded s (pad ++ s ++ pad') :=
    ⟨pad, pad', List.all_eq_true.mp h, List.all_eq_true.mp h', rfl⟩
  have hsame (s : List Char) : Text.IsPadded s s := ⟨[], [], by simp, by simp, by simp⟩
  have hspaced : AreSpaced (texts .points) (w.slots .points) := by
    have hpoint : (texts .points).splitOn Slot.comma = ["1;2;3;4;5;6".toList] := by decide +kernel
    have hpoint' : (w.slots .points).splitOn Slot.comma = [" 1; 2 ;3;4;\t5;6 ".toList] := by
      decide +kernel
    have hcomponents : "1;2;3;4;5;6".toList.splitOn Slot.semicolon =
        [['1'], ['2'], ['3'], ['4'], ['5'], ['6']] := by decide +kernel
    have hcomponents' : " 1; 2 ;3;4;\t5;6 ".toList.splitOn Slot.semicolon =
        [[' ', '1'], [' ', '2', ' '], ['3'], ['4'], ['\t', '5'], ['6', ' ']] := by decide +kernel
    rw [AreSpaced, hpoint, hpoint', List.forall₂_cons, hcomponents, hcomponents']
    refine ⟨?_, .nil⟩
    exact .cons (hpadded [' '] [] _ rfl rfl) <| .cons (hpadded [' '] [' '] _ rfl rfl) <|
      .cons (hsame _) <| .cons (hsame _) <| .cons (hpadded ['\t'] [] _ rfl rfl) <|
      .cons (hpadded [] [' '] _ rfl rfl) .nil
  have hspells : w.Spells texts := by
    refine ⟨fun slot => ?_, List.all_eq_true.mp (by decide)⟩
    cases slot with
    | action => exact .padded (hpadded [' '] [] ['2'] rfl rfl)
    | points =>
      refine .spaced (fun action haction => ?_) hspaced (hsame _)
      obtain rfl := Except.ok.inj ((readAction_naturalChars .ptpFrame).symm.trans haction)
      decide
    | id => exact .padded (hpadded [] [' '] ['i', 'd'] rfl rfl)
    | _ => exact .padded (hsame _)
  exact ⟨hbar, hlast, hspells, by decide +kernel, readsAlike hbar hlast hspells⟩

end Spelling

end MotionLink
