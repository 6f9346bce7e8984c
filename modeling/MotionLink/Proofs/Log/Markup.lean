import Mathlib.Data.List.TakeWhile
import Mathlib.Logic.Function.Basic
import MotionLink.Log.Segment
import MotionLink.Proofs.Text.Search
import MotionLink.Proofs.Text.Trim

/-!
# Lines as values and their labels

Every line is put together in exactly one way from values between markers, each with its label
before it, and a tail in which no value is opened and then closed. Markers at other places are text:
one that closes may stand in a label, one that opens in a value. The pieces of the line are the
labels and values in order, and the tail without its markers.

A label names its value by the text behind its last separator and before the sign that joins the
two. Where there is no such text, the value has the name of the one before it.

## Main definitions

* `NamedLabel` — a label as the name in it and what stands around that
* `MarkedValue`, `Markup` — a line as values with their labels, and a tail
* `FieldOf`, `FieldsOf` — the fields that such values are read as
* `Markup.pieces` — the pieces of such a line

## Main results

* `Segment.labelName?_eq_some_iff` — the name that a label gives
* `Markup.chars_injective`, `Markup.exists_chars_eq` — a line is put together in exactly one way
* `Markup.comesApart` — its pieces are those that it was put together from
-/

namespace MotionLink

open Text (EndsIn isAllBlank)

/-! ### Names in labels -/

/-- A label as the name in it and what stands around that. -/
structure NamedLabel where
  /-- the text before the name; it is empty or ends in a separator -/
  before : List Char
  pad : List Char
  name : List Char
  pad' : List Char
  /-- joins the label to its value; it may be missing -/
  sign : List Char
  blanks : List Char
  endsIn_before : EndsIn Segment.isSeparator before
  isAllBlank_pad : isAllBlank pad = true
  name_ne_nil : name ≠ []
  trim_name : Text.trim name = name
  not_isSeparator : ∀ c ∈ name, Segment.isSeparator c = false
  isAllBlank_pad' : isAllBlank pad' = true
  sign_eq : sign = [] ∨ sign = ['='] ∨ sign = [':']
  isAllBlank_blanks : isAllBlank blanks = true

/-- The text of a label. -/
def NamedLabel.chars (label : NamedLabel) : List Char :=
  label.before ++ (label.pad ++ label.name ++ label.pad') ++ label.sign ++ label.blanks

namespace Segment

variable {label body blanks : List Char} {c : Char}

theorem forall_of_isAllBlank (h : isAllBlank blanks = true) :
    ∀ c ∈ blanks, Text.isBlank c = true :=
  List.all_eq_true.mp h

theorem not_isBlank_of_isSeparator (h : isSeparator c = true) : Text.isBlank c = false := by
  simp only [isSeparator, Bool.or_eq_true, beq_iff_eq] at h
  rcases h with (((rfl | rfl) | rfl) | rfl) | rfl <;> decide

theorem not_isSeparator_of_isBlank (h : Text.isBlank c = true) : isSeparator c = false :=
  Bool.eq_false_iff.mpr fun hc => by simp [not_isBlank_of_isSeparator hc] at h

/-- A label with a sign is what stands before that. -/
theorem labelBody_of_sign {sign : Char} (hsign : sign = '=' ∨ sign = ':') (body : List Char)
    (hblanks : isAllBlank blanks = true) : labelBody (body ++ sign :: blanks) = body := by
  have hblank : Text.isBlank sign = false :=
    not_isBlank_of_isSeparator (by rcases hsign with rfl | rfl <;> decide)
  have hend : Text.trimEnd (body ++ sign :: blanks) = body ++ [sign] := by
    have hsolid : Text.trimEndBy Text.isBlank (sign :: blanks) = [sign] := by
      rw [Text.trimEndBy_cons hblank,
        Text.trimEndBy_eq_nil_iff.mpr (forall_of_isAllBlank hblanks)]
    rw [Text.trimEnd, Text.trimEndBy_append body (by rw [hsolid]; exact List.cons_ne_nil _ _),
      hsolid]
  rw [labelBody, hend]
  rcases hsign with rfl | rfl <;> simp [Text.dropLastChar?]

/-- A label without a sign is all of it but the blanks at its end. -/
theorem labelBody_of_no_sign (h : ∀ c ∈ (Text.trimEnd label).getLast?, c ≠ '=' ∧ c ≠ ':') :
    labelBody label = Text.trimEnd label := by
  have hequals : (Text.trimEnd label).getLast? ≠ some '=' := fun hlast => (h _ hlast).1 rfl
  have hcolon : (Text.trimEnd label).getLast? ≠ some ':' := fun hlast => (h _ hlast).2 rfl
  rw [labelBody, Text.dropLastChar?, Text.dropLastChar?, if_neg hequals, if_neg hcolon]
  rfl

/-- A label is what its name is looked for in, perhaps a sign, and blanks. -/
theorem exists_eq_append_labelBody (label : List Char) :
    ∃ sign blanks, label = labelBody label ++ sign ++ blanks ∧
      (sign = [] ∨ sign = ['='] ∨ sign = [':']) ∧ isAllBlank blanks = true := by
  obtain ⟨blanks, hlabel, hblanks⟩ := Text.exists_eq_append_trimEndBy Text.isBlank label
  have hblanks : isAllBlank blanks = true := List.all_eq_true.mpr hblanks
  rcases List.eq_nil_or_concat' (Text.trimEnd label) with hnil | ⟨body, last, hend⟩
  · refine ⟨[], blanks, ?_, .inl rfl, hblanks⟩
    rw [labelBody_of_no_sign (by rw [hnil]; nofun), List.append_nil]
    exact hlabel
  · -- A sign at the end is taken off; anything else belongs to the body.
    rw [Text.trimEnd] at hend
    by_cases hsign : last = '=' ∨ last = ':'
    · have hcut : label = body ++ last :: blanks := by
        rw [hlabel, hend, List.append_assoc, List.singleton_append]
      refine ⟨[last], blanks, ?_, by simpa using hsign, hblanks⟩
      rw [hcut, labelBody_of_sign hsign body hblanks, List.append_assoc, List.singleton_append]
    · refine ⟨[], blanks, ?_, .inl rfl, hblanks⟩
      rw [labelBody_of_no_sign (by simpa [Text.trimEnd, hend] using hsign), List.append_nil]
      exact hlabel

end Segment

namespace NamedLabel

open Segment

variable (label : NamedLabel)

/-- Without a sign, the name is looked for in all of the label up to the blanks behind the name. -/
theorem labelBody_chars (hsign : label.sign = []) :
    labelBody label.chars = label.before ++ (label.pad ++ label.name) := by
  have hname : Text.trimEndBy Text.isBlank label.name = label.name :=
    Text.trimEndBy_eq_self label.trim_name
  have hrest : ∀ c ∈ label.pad' ++ label.blanks, Text.isBlank c = true :=
    List.forall_mem_append.mpr ⟨forall_of_isAllBlank label.isAllBlank_pad',
      forall_of_isAllBlank label.isAllBlank_blanks⟩
  have hend : Text.trimEnd label.chars = label.before ++ (label.pad ++ label.name) := by
    have hchars : label.chars =
        label.before ++ label.pad ++ label.name ++ (label.pad' ++ label.blanks) := by
      simp [chars, hsign]
    rw [hchars, Text.trimEnd, Text.trimEndBy_append_of_forall _ hrest,
      Text.trimEndBy_append _ (by rw [hname]; exact label.name_ne_nil), hname, List.append_assoc]
  rw [labelBody_of_no_sign, hend]
  -- The last character belongs to the name, and signs are separators.
  intro c hc
  rw [hend, ← List.append_assoc, List.getLast?_append_of_ne_nil _ label.name_ne_nil] at hc
  have hsep := label.not_isSeparator c (List.mem_of_getLast? hc)
  constructor
  · rintro rfl
    exact absurd hsep (by decide)
  · rintro rfl
    exact absurd hsep (by decide)

/-- Behind the text before it, the name stands between blanks. -/
theorem exists_labelBody_chars : ∃ behind, isAllBlank behind = true ∧
    labelBody label.chars = label.before ++ (label.pad ++ label.name ++ behind) := by
  have hsigned {sign : Char} (hchar : sign = '=' ∨ sign = ':') (hsign : label.sign = [sign]) :
      labelBody label.chars = label.before ++ (label.pad ++ label.name ++ label.pad') := by
    rw [chars, hsign, List.append_assoc, List.singleton_append]
    exact labelBody_of_sign hchar _ label.isAllBlank_blanks
  rcases label.sign_eq with hsign | hsign | hsign
  · refine ⟨[], rfl, ?_⟩
    rw [List.append_nil]
    exact label.labelBody_chars hsign
  · exact ⟨label.pad', label.isAllBlank_pad', hsigned (.inl rfl) hsign⟩
  · exact ⟨label.pad', label.isAllBlank_pad', hsigned (.inr rfl) hsign⟩

/-- The name in a label is the one that it gives. -/
theorem labelName?_chars : labelName? label.chars = some label.name := by
  obtain ⟨behind, hbehind, hbody⟩ := label.exists_labelBody_chars
  have hpad := forall_of_isAllBlank label.isAllBlank_pad
  have hblank := forall_of_isAllBlank hbehind
  have hsep : ∀ c ∈ label.pad ++ label.name ++ behind, isSeparator c = false := by
    intro c hc
    rw [List.mem_append, List.mem_append] at hc
    rcases hc with (hc | hc) | hc
    · exact not_isSeparator_of_isBlank (hpad c hc)
    · exact label.not_isSeparator c hc
    · exact not_isSeparator_of_isBlank (hblank c hc)
  have htrim : Text.trim (label.pad ++ label.name ++ behind) = label.name :=
    (Text.trimBy_append label.name hpad hblank).trans label.trim_name
  rw [labelName?, hbody, Text.afterLast_append label.endsIn_before hsep, htrim]
  simp [label.name_ne_nil]

end NamedLabel

/-- A label gives a name exactly if it can be written with that name in it. -/
theorem Segment.labelName?_eq_some_iff {label name : List Char} :
    labelName? label = some name ↔
      ∃ named : NamedLabel, named.chars = label ∧ named.name = name := by
  constructor
  · intro h
    obtain ⟨sign, blanks, hlabel, hsign, hblanks⟩ := exists_eq_append_labelBody label
    obtain ⟨before, hbody, hbefore, hsep⟩ :=
      Text.exists_eq_append_afterLast isSeparator (labelBody label)
    rw [labelName?] at h
    -- The name is trimmed out of the text behind the last separator.
    generalize Text.afterLast isSeparator (labelBody label) = behind at h hbody hsep
    obtain ⟨pad, pad', hbehind, hpad, hpad'⟩ := Text.exists_eq_append_trimBy Text.isBlank behind
    split at h
    · cases h
    · rename_i hne
      cases h
      have hmem {c : Char} (hc : c ∈ Text.trim behind) : c ∈ behind := Text.mem_of_mem_trimBy hc
      refine ⟨⟨before, pad, Text.trim behind, pad', sign, blanks, hbefore,
        List.all_eq_true.mpr hpad, by simpa using hne, Text.trimBy_trimBy _ _,
        fun c hc => hsep c (hmem hc), List.all_eq_true.mpr hpad', hsign, hblanks⟩, ?_, rfl⟩
      rw [NamedLabel.chars, hlabel, hbody]
      dsimp only
      rw [Text.trim, ← hbehind]
  · rintro ⟨named, rfl, rfl⟩
    exact named.labelName?_chars

/-! ### Lines -/

/-- A value and the label before it. -/
@[ext]
structure MarkedValue where
  label : List Char
  value : List Char
  opening_not_mem : Segment.opening ∉ label
  closing_not_mem : Segment.closing ∉ value

/-- No value is opened in the text and then closed. -/
def IsTail (chars : List Char) : Prop :=
  ∀ before behind, chars = before ++ Segment.opening :: behind → Segment.closing ∉ behind

/-- A line as values with their labels, and a tail. -/
@[ext]
structure Markup where
  values : List MarkedValue
  tail : List Char
  isTail : IsTail tail

/-- The text of a value, with its label and its markers. -/
def MarkedValue.chars (v : MarkedValue) : List Char :=
  v.label ++ Segment.opening :: (v.value ++ [Segment.closing])

/-- The text of a line. -/
def Markup.chars (m : Markup) : List Char := m.values.flatMap MarkedValue.chars ++ m.tail

theorem MarkedValue.chars_append (v : MarkedValue) (rest : List Char) :
    v.chars ++ rest = v.label ++ Segment.opening :: (v.value ++ Segment.closing :: rest) := by
  simp [chars]

/-- A tail has no value in it. -/
theorem MarkedValue.not_isTail (v : MarkedValue) (rest : List Char) :
    ¬IsTail (v.chars ++ rest) := fun h =>
  h v.label _ (v.chars_append rest) (List.mem_append_right v.value List.mem_cons_self)

/-- A value and what follows it can be told apart. -/
theorem MarkedValue.append_inj {v w : MarkedValue} {rest more : List Char}
    (h : v.chars ++ rest = w.chars ++ more) : v = w ∧ rest = more := by
  rw [chars_append, chars_append] at h
  have hopen := Text.cutAtChar_append v.opening_not_mem (v.value ++ Segment.closing :: rest)
  rw [h, Text.cutAtChar_append w.opening_not_mem] at hopen
  obtain ⟨hlabel, hbehind⟩ := Prod.mk.inj (Option.some.inj hopen)
  have hclose := Text.cutAtChar_append v.closing_not_mem rest
  rw [← hbehind, Text.cutAtChar_append w.closing_not_mem] at hclose
  obtain ⟨hvalue, hrest⟩ := Prod.mk.inj (Option.some.inj hclose)
  exact ⟨MarkedValue.ext hlabel.symm hvalue.symm, hrest.symm⟩

namespace Markup

/-- Values and the tail behind them can be told apart. -/
theorem append_inj {values others : List MarkedValue} {tail more : List Char}
    (htail : IsTail tail) (hmore : IsTail more)
    (h : values.flatMap MarkedValue.chars ++ tail = others.flatMap MarkedValue.chars ++ more) :
    values = others ∧ tail = more := by
  induction values generalizing others with
  | nil =>
    cases others with
    | nil => exact ⟨rfl, h⟩
    | cons w others =>
      rw [List.flatMap_nil, List.nil_append, List.flatMap_cons, List.append_assoc] at h
      exact absurd (h ▸ htail) (w.not_isTail _)
  | cons v values ih =>
    rw [List.flatMap_cons, List.append_assoc] at h
    cases others with
    | nil =>
      rw [List.flatMap_nil, List.nil_append] at h
      exact absurd (h ▸ hmore) (v.not_isTail _)
    | cons w others =>
      rw [List.flatMap_cons, List.append_assoc] at h
      obtain ⟨rfl, hrest⟩ := MarkedValue.append_inj h
      obtain ⟨rfl, rfl⟩ := ih hrest
      exact ⟨rfl, rfl⟩

theorem chars_injective : Function.Injective chars := fun m n h =>
  let ⟨hvalues, htail⟩ := append_inj m.isTail n.isTail h
  Markup.ext hvalues htail

end Markup

/-- Where nothing closes behind the first opening marker, no value is opened and closed. -/
theorem isTail_of_cutAtChar {line label opened : List Char}
    (hopen : Text.cutAtChar Segment.opening line = some (label, opened))
    (hclose : Text.cutAtChar Segment.closing opened = none) : IsTail line := by
  rintro before behind rfl hmem
  exact Text.cutAtChar_eq_none_iff.mp hclose ((Text.suffix_of_cutAtChar hopen).mem hmem)

theorem isTail_of_not_mem {line : List Char} (h : Segment.opening ∉ line) : IsTail line := by
  rintro before behind rfl
  exact absurd (List.mem_append_right before List.mem_cons_self) h

/-- Every line is put together from values and a tail. -/
theorem Markup.exists_chars_eq (line : List Char) : ∃ m : Markup, m.chars = line := by
  rcases hopen : Text.cutAtChar Segment.opening line with _ | ⟨label, opened⟩
  · exact ⟨⟨[], line, isTail_of_not_mem (Text.cutAtChar_eq_none_iff.mp hopen)⟩, rfl⟩
  rcases hclose : Text.cutAtChar Segment.closing opened with _ | ⟨value, rest⟩
  · exact ⟨⟨[], line, isTail_of_cutAtChar hopen hclose⟩, rfl⟩
  obtain ⟨m, hm⟩ := exists_chars_eq rest
  let v : MarkedValue :=
    ⟨label, value, Text.not_mem_of_cutAtChar hopen, Text.not_mem_of_cutAtChar hclose⟩
  refine ⟨⟨v :: m.values, m.tail, m.isTail⟩, ?_⟩
  have hrest : m.values.flatMap MarkedValue.chars ++ m.tail = rest := hm
  rw [chars, List.flatMap_cons, List.append_assoc, hrest, v.chars_append,
    Text.eq_append_of_cutAtChar hopen, Text.eq_append_of_cutAtChar hclose]
termination_by line.length
decreasing_by
  exact Nat.lt_trans (Text.length_lt_of_cutAtChar hclose) (Text.length_lt_of_cutAtChar hopen)

/-! ### Pieces -/

/-- A value is printed as it was read. -/
theorem Segment.chars_ofText (text : List Char) : (FieldValue.ofText text).chars = text := by
  rw [FieldValue.ofText]
  split <;> rfl

/-- The field that a value is read as, behind a field of the name `previous`. -/
structure FieldOf (previous : List Char) (v : MarkedValue) (f : Field) : Prop where
  depth : f.depth = 0
  chars : f.value.chars = v.value
  /-- the field has the name that the label gives -/
  named : ∀ label : NamedLabel, label.chars = v.label → f.name = label.name
  /-- where the label gives no name, the field has the name before it -/
  unnamed : (∀ label : NamedLabel, label.chars ≠ v.label) → f.name = previous

/-- The fields that some values are read as, behind a field of the name `previous`. -/
inductive FieldsOf : List Char → List MarkedValue → List Field → Prop
  | nil (previous) : FieldsOf previous [] []
  | cons {previous v values f fields} (head : FieldOf previous v f)
      (rest : FieldsOf f.name values fields) : FieldsOf previous (v :: values) (f :: fields)

/-- A text as a piece; an empty one is none. -/
def Segment.pieceOf : List Char → List Segment
  | [] => []
  | c :: rest => [.literal (c :: rest)]

/-- The label, if it has any text, and the field of a value. -/
def MarkedValue.pieces (v : MarkedValue) (f : Field) : List Segment :=
  Segment.pieceOf v.label ++ [.field f]

/-- The pieces of a line whose values are read as some fields. -/
def Markup.pieces (m : Markup) (fields : List Field) : List Segment :=
  (List.zipWith MarkedValue.pieces m.values fields).flatten ++
    Segment.pieceOf (m.tail.filter fun c => c ≠ Segment.opening ∧ c ≠ Segment.closing)

namespace Segment

theorem literal?_eq_pieceOf (chars : List Char) : literal? chars = pieceOf chars := by
  cases chars <;> rfl

theorem not_field_mem_literal? {f : Field} {text : List Char} : field f ∉ literal? text := by
  rw [literal?]
  split <;> simp

theorem filter_not_isMarker (chars : List Char) :
    chars.filter (fun c => !isMarker c) = chars.filter fun c => c ≠ opening ∧ c ≠ closing := by
  refine List.filter_congr fun c _ => Bool.eq_iff_iff.mpr ?_
  simp [isMarker]

theorem ofLineNamed_of_isTail {line : List Char} (h : IsTail line) (name : List Char) :
    ofLineNamed name line = pieceOf (line.filter fun c => c ≠ opening ∧ c ≠ closing) := by
  rw [ofLineNamed, ← filter_not_isMarker, ← literal?_eq_pieceOf]
  split
  · rfl
  · rename_i label opened hopen
    split
    · rfl
    · rename_i value rest hclose
      refine absurd ?_ (h label opened (Text.eq_append_of_cutAtChar hopen))
      rw [Text.eq_append_of_cutAtChar hclose]
      exact List.mem_append_right value List.mem_cons_self

/-- The first value of a line is read behind a field of a name, and the rest behind it. -/
theorem ofLineNamed_chars (name : List Char) (v : MarkedValue) (rest : List Char) :
    ∃ f, FieldOf name v f ∧ ofLineNamed name (v.chars ++ rest) =
      v.pieces f ++ ofLineNamed f.name rest := by
  refine ⟨⟨(labelName? v.label).getD name, .ofText v.value, 0⟩, ?_, ?_⟩
  · constructor
    case depth => rfl
    case chars => exact chars_ofText v.value
    case named =>
      intro label hlabel
      rw [← hlabel, label.labelName?_chars]
      rfl
    case unnamed =>
      intro hnone
      rcases hname : labelName? v.label with _ | given
      · rfl
      · obtain ⟨label, hlabel, -⟩ := labelName?_eq_some_iff.mp hname
        exact absurd hlabel (hnone label)
  · have hopen := Text.cutAtChar_append v.opening_not_mem (v.value ++ closing :: rest)
    have hclose := Text.cutAtChar_append v.closing_not_mem rest
    rw [v.chars_append, ofLineNamed]
    split
    · rename_i hnone
      rw [hopen] at hnone
      cases hnone
    rename_i label opened hlabel
    obtain ⟨rfl, rfl⟩ := Prod.mk.inj (Option.some.inj (hopen.symm.trans hlabel))
    split
    · rename_i hnone
      rw [hclose] at hnone
      cases hnone
    rename_i value behind hvalue
    obtain ⟨rfl, rfl⟩ := Prod.mk.inj (Option.some.inj (hclose.symm.trans hvalue))
    rw [MarkedValue.pieces, ← literal?_eq_pieceOf, List.append_assoc]
    rfl

end Segment

namespace Markup

/-- The pieces of a line are those that it was put together from, whatever name comes before. -/
theorem exists_pieces (m : Markup) (previous : List Char) :
    ∃ fields, FieldsOf previous m.values fields ∧
      Segment.ofLineNamed previous m.chars = m.pieces fields := by
  obtain ⟨values, tail, htail⟩ := m
  induction values generalizing previous with
  | nil => exact ⟨[], .nil previous, Segment.ofLineNamed_of_isTail htail previous⟩
  | cons v values ih =>
    obtain ⟨f, hf, hline⟩ := Segment.ofLineNamed_chars previous v
      (Markup.chars ⟨values, tail, htail⟩)
    obtain ⟨fields, hfields, hrest⟩ := ih f.name
    refine ⟨f :: fields, .cons hf hfields, ?_⟩
    rw [chars, List.flatMap_cons, List.append_assoc]
    refine hline.trans ?_
    rw [hrest, pieces, pieces, List.zipWith_cons_cons, List.flatten_cons, List.append_assoc]

/-- Every line is put together in exactly one way, and its pieces are those that it was put together
from: the labels and values in order, and what is left of the tail without markers. -/
theorem comesApart :
    Function.Bijective chars ∧
      ∀ m : Markup, ∃ fields, FieldsOf [] m.values fields ∧
        Segment.ofLine m.chars = m.pieces fields :=
  ⟨⟨chars_injective, exists_chars_eq⟩, fun m => m.exists_pieces []⟩

-- A value without a label, an opening marker in a value, and a closing one in the tail.
example :
    Segment.ofLine "Point 1: J 1 = 5- x".toList =
      [.literal "Point 1: J 1 =".toList, .field ⟨"J 1".toList, .scalar " 5".toList, 0⟩,
        .field ⟨"J 1".toList, .text "-".toList, 0⟩, .literal " x".toList] := by
  decide +kernel

end Markup

end MotionLink
