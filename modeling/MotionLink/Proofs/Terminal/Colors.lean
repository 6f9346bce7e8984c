import MotionLink.Proofs.Terminal.Visible
import MotionLink.Proofs.Text.Search

/-!
# Color is only added

In color a log shows the same text as without color: colors stand around texts, each ended by the
code that ends a color before anything else is shown. So a reader that leaves the codes out sees
what is written without color, as long as no text holds an escape of its own.

## Main definitions

* `Stroke` — a byte that is shown, or a whole color code
* `Stroke.withoutCodes`, `Stroke.codes` — an output with its codes left out, and these codes
* `Stroke.ArePaired` — every color is ended before the next one begins
* `Painted` — texts with and without colors around them
* `Event.texts` — the texts that are handed over to be shown

## Main results

* `Painted.withoutCodes`, `Painted.arePaired` — what is left without codes, and what they are
* `Styled.painted_chars` — an event is written with colors around its texts
* `Terminal.addsColors` — so is all that is shown for whatever a router is given
-/

namespace MotionLink

/-- A byte that is shown, or a whole color code. -/
inductive Stroke where
  | byte (octet : UInt8)
  | code (octets : Bytes)

namespace Stroke

/-- A digit or a semicolon. -/
def isAttribute (octet : UInt8) : Bool := (0x30 ≤ octet && octet ≤ 0x39) || octet == 0x3B

/-- The length of the color code at the front: an escape and a bracket, digits and semicolons, and
the letter `m`. -/
def codeLength? : Bytes → Option Nat
  | 0x1B :: 0x5B :: s =>
    match s.dropWhile isAttribute with
    | 0x6D :: _ => some ((s.takeWhile isAttribute).length + 3)
    | _ => none
  | _ => none

/-- The strokes of an output whose first bytes are passed over. -/
def ofBytesFrom : (passed : Nat) → Bytes → List Stroke
  | _, [] => []
  | passed + 1, _ :: s => ofBytesFrom passed s
  | 0, b :: s =>
    match codeLength? (b :: s) with
    | some n => .code ((b :: s).take n) :: ofBytesFrom (n - 1) s
    | none => .byte b :: ofBytesFrom 0 s

/-- The strokes of an output. -/
def ofBytes (s : Bytes) : List Stroke := ofBytesFrom 0 s

/-- The byte that is shown. -/
def byte? : Stroke → Option UInt8
  | byte octet => some octet
  | code _ => none

/-- The color code. -/
def code? : Stroke → Option Bytes
  | byte _ => none
  | code octets => some octets

/-- An output with its color codes left out. -/
def withoutCodes (s : Bytes) : Bytes := (ofBytes s).filterMap byte?

/-- The color codes of an output. -/
def codes (s : Bytes) : List Bytes := (ofBytes s).filterMap code?

/-- The code that ends a color. -/
def reset : Bytes := Utf8.encode Styled.reset

/-- Every color is ended before the next one begins, and at the end. -/
inductive ArePaired : List Bytes → Prop where
  | nil : ArePaired []
  | cons {color : Bytes} {codes : List Bytes} (hcolor : color ≠ reset) (rest : ArePaired codes) :
      ArePaired (color :: reset :: codes)

variable {text color : Bytes}

theorem codeLength?_append {n : Nat} (h : codeLength? text = some n) (s : Bytes) :
    codeLength? (text ++ s) = some n := by
  unfold codeLength? at h
  split at h
  · rename_i attributes
    split at h
    · rename_i hdrop
      have htake : (attributes ++ s).takeWhile isAttribute = attributes.takeWhile isAttribute :=
        Text.takeWhile_append_of_dropWhile (by simp [hdrop]) s
      simp [codeLength?, List.dropWhile_append, hdrop, htake, ← h]
    · cases h
  · cases h

theorem codeLength?_of_ne {b : UInt8} (h : b ≠ 0x1B) (s : Bytes) : codeLength? (b :: s) = none := by
  unfold codeLength?
  split
  · rename_i heq
    exact absurd (List.cons.inj heq).1 h
  · rfl

theorem ofBytesFrom_append (passed s : Bytes) :
    ofBytesFrom passed.length (passed ++ s) = ofBytes s := by
  induction passed with
  | nil => rfl
  | cons b passed ih => exact ih

/-- A color code is a stroke. -/
theorem ofBytes_code (h : codeLength? color = some color.length) (s : Bytes) :
    ofBytes (color ++ s) = .code color :: ofBytes s := by
  cases color with
  | nil => cases h
  | cons b color =>
    have hlength := codeLength?_append h s
    rw [List.cons_append] at hlength ⊢
    rw [ofBytes, ofBytesFrom, hlength]
    simp [ofBytesFrom_append]

theorem codeLength?_reset : codeLength? reset = some reset.length := by
  decide

/-- A text without escapes is shown byte by byte. -/
theorem ofBytes_text (h : 0x1B ∉ text) (s : Bytes) :
    ofBytes (text ++ s) = text.map .byte ++ ofBytes s := by
  induction text with
  | nil => rfl
  | cons b text ih =>
    obtain ⟨hb, htext⟩ := not_or.mp (mt List.mem_cons.mpr h)
    rw [List.cons_append, ofBytes, ofBytesFrom, codeLength?_of_ne (Ne.symm hb), ← ofBytes, ih htext]
    rfl

theorem withoutCodes_code (h : codeLength? color = some color.length) (s : Bytes) :
    withoutCodes (color ++ s) = withoutCodes s := by
  rw [withoutCodes, ofBytes_code h]
  rfl

theorem withoutCodes_text (h : 0x1B ∉ text) (s : Bytes) :
    withoutCodes (text ++ s) = text ++ withoutCodes s := by
  have htext : (text.map byte).filterMap byte? = text := by
    rw [List.filterMap_map]
    exact List.filterMap_some
  rw [withoutCodes, ofBytes_text h, List.filterMap_append, htext, withoutCodes]

theorem codes_code (h : codeLength? color = some color.length) (s : Bytes) :
    codes (color ++ s) = color :: codes s := by
  rw [codes, ofBytes_code h]
  rfl

theorem codes_text (h : 0x1B ∉ text) (s : Bytes) : codes (text ++ s) = codes s := by
  have htext : (text.map byte).filterMap code? = [] := by
    rw [List.filterMap_map]
    exact List.filterMap_none text
  rw [codes, ofBytes_text h, List.filterMap_append, htext, List.nil_append, codes]

end Stroke

open Stroke (ArePaired codes withoutCodes codeLength?)

/-- Texts with colors around some of them, and without. -/
inductive Painted : (colored plain : Bytes) → Prop where
  | nil : Painted [] []
  | text {text colored plain : Bytes} (htext : 0x1B ∉ text) (rest : Painted colored plain) :
      Painted (text ++ colored) (text ++ plain)
  | color {color text colored plain : Bytes} (hcode : codeLength? color = some color.length)
      (hcolor : color ≠ Stroke.reset) (htext : 0x1B ∉ text) (rest : Painted colored plain) :
      Painted (color ++ (text ++ (Stroke.reset ++ colored))) (text ++ plain)

namespace Painted

variable {colored plain colored' plain' : Bytes}

theorem append (h : Painted colored plain) (h' : Painted colored' plain') :
    Painted (colored ++ colored') (plain ++ plain') := by
  induction h with
  | nil => exact h'
  | text htext _ ih => simpa using ih.text htext
  | color hcode hcolor htext _ ih => simpa using ih.color hcode hcolor htext

/-- Without codes the texts are left. -/
theorem withoutCodes (h : Painted colored plain) : withoutCodes colored = plain := by
  induction h with
  | nil => rfl
  | text htext _ ih => rw [Stroke.withoutCodes_text htext, ih]
  | color hcode _ htext _ ih =>
    rw [Stroke.withoutCodes_code hcode, Stroke.withoutCodes_text htext,
      Stroke.withoutCodes_code Stroke.codeLength?_reset, ih]

example : Stroke.withoutCodes (Utf8.octets "\x1b[1;35mID\x1b[0m: \x1b[m7\x1b[x") =
    Utf8.octets "ID: 7\x1b[x" := by decide

/-- Every color is ended. -/
theorem arePaired (h : Painted colored plain) : ArePaired (codes colored) := by
  induction h with
  | nil => exact .nil
  | text htext _ ih => rwa [Stroke.codes_text htext]
  | color hcode hcolor htext _ ih =>
    rw [Stroke.codes_code hcode, Stroke.codes_text htext,
      Stroke.codes_code Stroke.codeLength?_reset]
    exact ih.cons hcolor

end Painted

/-! ### Events -/

/-- The texts that are handed over to be shown. -/
def Event.texts : Event → List (List Char)
  | .line text _ => [text]
  | .header text => [text]
  | .field f _ => [f.name, f.value.chars]
  | .literal text => [text]
  | .inlineField f _ => [f.name, f.value.chars]
  | .endLine => []
  | .endRecord => []

namespace Styled

variable {text : List Char}

/-- The text is a color code, and does not end a color. -/
def IsColor (color : List Char) : Prop :=
  codeLength? (Utf8.encode color) = some (Utf8.encode color).length ∧
    Utf8.encode color ≠ Stroke.reset

instance (color : List Char) : Decidable (IsColor color) := inferInstanceAs (Decidable (_ ∧ _))

theorem escape_not_mem_encode (h : '\x1b' ∉ text) : 0x1B ∉ Utf8.encode text :=
  fun hmem => h (Utf8.mem_of_mem_encode hmem (by decide))

theorem painted_text (h : '\x1b' ∉ text) : Painted (Utf8.encode text) (Utf8.encode text) := by
  simpa using Painted.text (escape_not_mem_encode h) .nil

/-- A text is written with a color around it, or as it is. -/
theorem painted_paint {color : Option (List Char)} (hcolor : ∀ c ∈ color, IsColor c)
    (h : '\x1b' ∉ text) :
    Painted (Utf8.encode (paint true color text)) (Utf8.encode (paint false color text)) := by
  cases color with
  | none => exact painted_text h
  | some color =>
    obtain ⟨hcode, hne⟩ := hcolor color rfl
    rw [paint]
    split
    · have hpainted := Painted.color hcode hne (escape_not_mem_encode h) .nil
      simpa [paint, Utf8.encode, Stroke.reset] using hpainted
    · exact painted_text h

theorem isColor_inTurn {palette : List (List Char)} (hpalette : ∀ color ∈ palette, IsColor color)
    (hne : palette ≠ []) (slot : Nat) : IsColor (inTurn palette slot) := by
  have hslot : slot % palette.length < palette.length :=
    Nat.mod_lt _ (List.length_pos_iff.mpr hne)
  rw [inTurn, List.getElem?_eq_getElem hslot, Option.getD_some]
  exact hpalette _ (List.getElem_mem hslot)

theorem isColor_ofHighlight (highlight : Highlight) : IsColor (ofHighlight highlight) := by
  cases highlight with
  | identity => decide
  | axis slot => exact isColor_inTurn (by decide) (by decide) slot
  | parameter slot => exact isColor_inTurn (by decide) (by decide) slot
  | text => decide
  | scalar => decide

theorem isColor_highlight (highlight : Option Highlight) :
    ∀ color ∈ highlight.map ofHighlight, IsColor color := by
  intro color hcolor
  obtain ⟨h, -, rfl⟩ := Option.mem_map.mp hcolor
  exact isColor_ofHighlight h

theorem isColor_ofKind (kind : LineKind) : ∀ color ∈ ofKind kind, IsColor color := by
  cases kind <;> decide

theorem painted_append {colored plain colored' plain' : List Char}
    (h : Painted (Utf8.encode colored) (Utf8.encode plain))
    (h' : Painted (Utf8.encode colored') (Utf8.encode plain')) :
    Painted (Utf8.encode (colored ++ colored')) (Utf8.encode (plain ++ plain')) := by
  rw [Utf8.encode_append, Utf8.encode_append]
  exact h.append h'

theorem painted_fieldChars {f : Field} (hname : '\x1b' ∉ f.name) (hvalue : '\x1b' ∉ f.value.chars)
    (highlight : Option Highlight) :
    Painted (Utf8.encode (fieldChars true f highlight))
      (Utf8.encode (fieldChars false f highlight)) := by
  have hindent : '\x1b' ∉ indent f.depth := fun h => by simp [indent] at h
  rw [fieldChars, fieldChars]
  split
  · refine painted_append (painted_text hindent) (painted_paint ?_ ?_)
    · rintro color ⟨⟩
      decide
    · simpa using hname
  · refine painted_append (painted_text ?_) (painted_paint ?_ hvalue)
    · simpa using ⟨hindent, hname⟩
    · exact isColor_highlight highlight

/-- An event is written with colors around its texts. -/
theorem painted_chars {e : Event} (h : ∀ text ∈ e.texts, '\x1b' ∉ text) :
    Painted (Utf8.encode (chars true e)) (Utf8.encode (chars false e)) := by
  have hbreak : Painted (Utf8.encode ['\n']) (Utf8.encode ['\n']) := painted_text (by decide)
  cases e with
  | line text kind =>
    obtain ⟨htext, -⟩ := List.forall_mem_cons.mp h
    exact painted_append (painted_paint (isColor_ofKind kind) htext) hbreak
  | header text =>
    obtain ⟨htext, -⟩ := List.forall_mem_cons.mp h
    exact painted_append (painted_paint (by rintro color ⟨⟩; decide) htext) hbreak
  | field f highlight =>
    obtain ⟨hname, hrest⟩ := List.forall_mem_cons.mp h
    obtain ⟨hvalue, -⟩ := List.forall_mem_cons.mp hrest
    exact painted_append (painted_fieldChars hname hvalue highlight) hbreak
  | literal text =>
    obtain ⟨htext, -⟩ := List.forall_mem_cons.mp h
    exact painted_text htext
  | inlineField f highlight =>
    obtain ⟨-, hrest⟩ := List.forall_mem_cons.mp h
    obtain ⟨hvalue, -⟩ := List.forall_mem_cons.mp hrest
    exact painted_paint (isColor_highlight highlight) hvalue
  | endLine => exact hbreak
  | endRecord => exact .nil

theorem painted_flatMap {events : List Event} (h : ∀ e ∈ events, ∀ text ∈ e.texts, '\x1b' ∉ text) :
    Painted (Utf8.encode (events.flatMap (chars true)))
      (Utf8.encode (events.flatMap (chars false))) := by
  induction events with
  | nil => exact .nil
  | cons e rest ih =>
    obtain ⟨hfirst, hrest⟩ := List.forall_mem_cons.mp h
    exact painted_append (painted_chars hfirst) (ih hrest)

end Styled

/-! ### The output -/

namespace Terminal

variable {events before behind : List Event} {e : Event}

theorem failed_showAll {terminal : Terminal} {more : List Event}
    (h : (showAll terminal (events ++ more)).outlet.failed = false) :
    (showAll terminal events).outlet.failed = false := by
  rw [showAll, List.foldl_append, foldl_showEvent _ more] at h
  exact (Outlet.written_put h).1

/-- What color adds to what is shown for some events. -/
structure AddsColors (colored plain : Terminal) (events : List Event) : Prop where
  /-- without its codes, the output is the one without color -/
  withoutCodes : withoutCodes (showAll colored events).outlet.written.toList =
    (showAll plain events).outlet.written.toList
  /-- every color is ended before the next one begins -/
  arePaired : ArePaired (codes (showAll colored events).outlet.written.toList)
  /-- and before any event is shown but the one that it is written for -/
  each : ∀ before e behind, events = before ++ e :: behind →
    ∃ piece,
      (showAll colored (before ++ [e])).outlet.written.toList =
        (showAll colored before).outlet.written.toList ++ piece ∧
      (showAll plain (before ++ [e])).outlet.written.toList =
        (showAll plain before).outlet.written.toList ++ Stroke.withoutCodes piece ∧
      ArePaired (codes piece)

/-- What is written for one event more. -/
theorem written_concat {inColor : Bool} {capacity : Option Nat} {refusal : Fault}
    (h : (showAll ⟨.styled inColor, .ofCapacity capacity refusal⟩
      (before ++ e :: behind)).outlet.failed = false) :
    (showAll ⟨.styled inColor, .ofCapacity capacity refusal⟩
        (before ++ [e])).outlet.written.toList =
      (showAll ⟨.styled inColor, .ofCapacity capacity refusal⟩ before).outlet.written.toList ++
        Utf8.encode (Styled.chars inColor e) := by
  have hfirst : (showAll ⟨.styled inColor, .ofCapacity capacity refusal⟩
      (before ++ [e])).outlet.failed = false := by
    rw [List.append_cons] at h
    exact failed_showAll h
  rw [written_styled hfirst, written_styled (failed_showAll hfirst), List.flatMap_append,
    List.flatMap_singleton, Utf8.encode_append]

/-- Shown on outputs that do not fail, events whose texts hold no escape only gain colors. -/
theorem addsColors {capacity capacity' : Option Nat} {refusal refusal' : Fault}
    (htexts : ∀ e ∈ events, ∀ text ∈ e.texts, '\x1b' ∉ text)
    (hcolored : (showAll ⟨.styled true, .ofCapacity capacity refusal⟩ events).outlet.failed = false)
    (hplain : (showAll ⟨.styled false, .ofCapacity capacity' refusal'⟩ events).outlet.failed =
      false) :
    AddsColors ⟨.styled true, .ofCapacity capacity refusal⟩
      ⟨.styled false, .ofCapacity capacity' refusal'⟩ events := by
  have hpainted := Styled.painted_flatMap htexts
  constructor
  case withoutCodes => rw [written_styled hcolored, written_styled hplain, hpainted.withoutCodes]
  case arePaired =>
    rw [written_styled hcolored]
    exact hpainted.arePaired
  case each =>
    rintro before e behind rfl
    have he := Styled.painted_chars (htexts e (List.mem_append_right before List.mem_cons_self))
    exact ⟨_, written_concat hcolored, by rw [written_concat hplain, he.withoutCodes], he.arePaired⟩

/-- Whatever a router is given, if no text that it hands over holds an escape, color only adds to
what is shown for it. -/
theorem addsColors_run (inputs : List Router.Input) (capacity capacity' : Option Nat)
    (refusal refusal' : Fault)
    (htexts : ∀ e ∈ (Router.start.run inputs).1, ∀ text ∈ e.texts, '\x1b' ∉ text)
    (hcolored : (showAll ⟨.styled true, .ofCapacity capacity refusal⟩
      (Router.start.run inputs).1).outlet.failed = false)
    (hplain : (showAll ⟨.styled false, .ofCapacity capacity' refusal'⟩
      (Router.start.run inputs).1).outlet.failed = false) :
    AddsColors ⟨.styled true, .ofCapacity capacity refusal⟩
      ⟨.styled false, .ofCapacity capacity' refusal'⟩ (Router.start.run inputs).1 :=
  addsColors htexts hcolored hplain

/-- An error, a block with a value in it, and an object with a container. -/
theorem addsColors_run_of_block :
    let inputs : List Router.Input := [.line "ERROR".toList, .line "ParsedCommand \x7b".toList,
      .chunk (Utf8.octets ", J1=\x1a0.5\x1b\n\x7d\n"),
      .line "Successfully parsed command: \x7b\"a\":[\"\",1]\x7d".toList, .flush]
    let events := (Router.start.run inputs).1
    (∀ e ∈ events, ∀ text ∈ e.texts, '\x1b' ∉ text) ∧
      AddsColors ⟨.styled true, .unlimited⟩ ⟨.styled false, .unlimited⟩ events := by
  intro inputs events
  have htexts : ∀ e ∈ events, ∀ text ∈ e.texts, '\x1b' ∉ text := by decide +kernel
  exact ⟨htexts, addsColors_run inputs none none _ _ htexts (by decide +kernel) (by decide +kernel)⟩

end Terminal

end MotionLink
