import MotionLink.Number.Decimal
import MotionLink.Number.Shortest
import MotionLink.Proofs.Number.Rounding

/-!
# Numbers on the wire read back

A number is written with digits that were tried before: they read back as its magnitude, or they
are all digits that the magnitude has. What is left to show is that the tail of zeros can be cut
off, and that the reader finds the digits and the point where the writer has put them.

## Main results

* `Magnitude.ofDecimal?_shortest` — the digits chosen for a magnitude read back as it
* `readDecimal_plain` — a decimal without an exponent is read as it was meant
* `Binary64.read_wireChars` — a number on the wire reads back as the number itself, sign included
* `Binary64.isWireChar_of_mem_wireChars` — a finite number shows digits, a minus sign and a point
-/

namespace MotionLink

namespace Magnitude

variable {m : Magnitude}

/-! ### The digits chosen -/

theorem ofDecimal?_stripZeros (d : Decimal) :
    ofDecimal? d.stripZeros.digits d.stripZeros.exponent = ofDecimal? d.digits d.exponent := by
  fun_induction Decimal.stripZeros d with
  | case1 d h ih =>
    rw [ih, ← ofDecimal?_mul_ten, Nat.div_mul_cancel (Nat.dvd_of_mod_eq_zero h.2)]
  | case2 d h => rfl

-- The number of places stays hidden: a power as large as this one is not to be computed.
private theorem exists_expansion (m : Magnitude) :
    ∃ places : Nat, unitsPerOne = Nat.pow 2 places ∧
      m.expansion = ⟨m.units * Nat.pow 5 places, -(places : Int)⟩ :=
  ⟨1074, rfl, rfl⟩

/-- All digits of a magnitude read back as it. -/
theorem ofDecimal?_expansion (m : Magnitude) :
    ofDecimal? m.expansion.digits m.expansion.exponent = some m := by
  obtain ⟨places, hunits, hexpansion⟩ := exists_expansion m
  have hpos : 0 < Nat.pow 5 places := Nat.pow_pos (by decide)
  have hden : 10 ^ places = unitsPerOne * Nat.pow 5 places := hunits ▸ Nat.mul_pow 2 5 places
  rw [hexpansion, ofDecimal?_eq_ofRatio?, show (-(places : Int)).toNat = 0 by omega,
    show (- -(places : Int)).toNat = places by omega, Nat.pow_zero, Nat.mul_one, hden,
    ofRatio?_mul_right _ _ hpos]
  exact ofRatio?_units m

/-- A row of fewer digits is taken only after it was tried. -/
theorem ofDecimal?_of_withDigits? {tie : Tie} {count : Nat} {d : Decimal}
    (h : m.withDigits? tie count = some d) : ofDecimal? d.digits d.exponent = some m := by
  have hreads : m.readsBack d = true := Decimal.passes_of_pick? h
  exact eq_of_beq hreads

theorem eq_zero_of_significand (h : m.significand = 0) : m = zero := by
  obtain ⟨significand, scale, hlt, hle, hnormal⟩ := m
  obtain rfl : significand = 0 := h
  have hscale : scale = 0 := hnormal.resolve_right (by decide)
  subst hscale
  rfl

/-- The digits chosen for a magnitude read back as it. -/
theorem ofDecimal?_shortest (tie : Tie) (m : Magnitude) :
    ofDecimal? (m.shortest tie).digits (m.shortest tie).exponent = some m := by
  rw [shortest]
  split
  · rename_i hzero
    rw [eq_zero_of_significand hzero]
    rfl
  · rw [ofDecimal?_stripZeros]
    cases hfound : (List.range 17).findSome? fun n => m.withDigits? tie (n + 1) with
    | none => exact ofDecimal?_expansion m
    | some d =>
      obtain ⟨n, -, hn⟩ := List.exists_of_findSome?_eq_some hfound
      exact ofDecimal?_of_withDigits? hn

end Magnitude

/-! ### Rows of digits -/

theorem rowValue_toDigits (n : Nat) : rowValue (Nat.toDigits 10 n) = n :=
  Nat.ofDigitChars_ten_toDigits

theorem rowValue_replicate_zero (count : Nat) : rowValue (List.replicate count '0') = 0 :=
  Nat.ofDigitChars_replicate_zero

/-- Every character of a row is a decimal digit. -/
def IsRow (s : List Char) : Prop := ∀ c ∈ s, c.isDigit = true

theorem isRow_toDigits (n : Nat) : IsRow (Nat.toDigits 10 n) :=
  fun _ hc => Nat.isDigit_of_mem_toDigits (by decide) (by decide) hc

theorem isRow_replicate_zero (count : Nat) : IsRow (List.replicate count '0') := by
  intro c hc
  rw [List.eq_of_mem_replicate hc]
  rfl

theorem IsRow.append {a b : List Char} (ha : IsRow a) (hb : IsRow b) : IsRow (a ++ b) :=
  fun c hc => (List.mem_append.mp hc).elim (ha c) (hb c)

theorem IsRow.take {s : List Char} (h : IsRow s) (n : Nat) : IsRow (s.take n) :=
  fun c hc => h c (List.mem_of_mem_take hc)

theorem IsRow.drop {s : List Char} (h : IsRow s) (n : Nat) : IsRow (s.drop n) :=
  fun c hc => h c (List.mem_of_mem_drop hc)

theorem IsRow.takeWhile {s : List Char} (h : IsRow s) : s.takeWhile Char.isDigit = s := by
  rw [← List.append_nil s, List.takeWhile_append_of_pos h, List.takeWhile_nil]

theorem IsRow.dropWhile {s : List Char} (h : IsRow s) : s.dropWhile Char.isDigit = [] := by
  rw [← List.append_nil s, List.dropWhile_append_of_pos h, List.dropWhile_nil]

/-! ### Reading what was laid out -/

/-- Digits without a point are read as a whole number. -/
theorem readDecimal_row {s : List Char} (h : IsRow s) (hne : s ≠ []) :
    readDecimal s = some (rowValue s, 0) := by
  simp [readDecimal, h.takeWhile, h.dropWhile, hne, readExponent, numeral_eq_rowValue]

/-- Digits around a point are read as if they stood in one row, and count the powers of ten
behind the point. -/
theorem readDecimal_point {whole fraction : List Char} (hwhole : IsRow whole)
    (hfraction : IsRow fraction) (hne : whole ≠ []) :
    readDecimal (whole ++ '.' :: fraction) =
      some (rowValue (whole ++ fraction), -(fraction.length : Int)) := by
  have htake : (whole ++ '.' :: fraction).takeWhile Char.isDigit = whole := by
    rw [List.takeWhile_append_of_pos hwhole]
    simp
  have hdrop : (whole ++ '.' :: fraction).dropWhile Char.isDigit = '.' :: fraction := by
    rw [List.dropWhile_append_of_pos hwhole]
    simp
  simp [readDecimal, htake, hdrop, hfraction.takeWhile, hfraction.dropWhile, hne, readExponent,
    numeral_eq_rowValue]

variable {d : Decimal}

/-- A decimal laid out without an exponent shows its digits, with zeros behind them, with a point
among them, or behind a point. -/
theorem plain_cases (d : Decimal) :
    (∃ k : Nat, d.exponent = k ∧
      wireLayout.plain d = Nat.toDigits 10 d.digits ++ List.replicate k '0') ∨
    ∃ whole fraction, IsRow whole ∧ IsRow fraction ∧ whole ≠ [] ∧
      wireLayout.plain d = whole ++ '.' :: fraction ∧ d.exponent = -(fraction.length : Int) ∧
      rowValue (whole ++ fraction) = d.digits := by
  have hdigits := isRow_toDigits d.digits
  cases hexponent : d.exponent with
  | ofNat k =>
    refine Or.inl ⟨k, rfl, ?_⟩
    simp [Layout.plain, hexponent, wireLayout]
  | negSucc k =>
    refine Or.inr ?_
    simp only [Layout.plain, hexponent]
    split
    · -- The point stands among the digits.
      rename_i hlt
      refine ⟨_, _, hdigits.take _, hdigits.drop _, ?_, rfl, ?_, ?_⟩
      · rw [Ne, List.take_eq_nil_iff]
        rintro (hzero | hnil)
        · omega
        · exact Nat.toDigits_ne_nil hnil
      · rw [List.length_drop, Int.negSucc_eq]
        omega
      · rw [List.take_append_drop, rowValue_toDigits]
    · -- All digits stand behind the point.
      refine ⟨['0'], _, isRow_replicate_zero 1, (isRow_replicate_zero _).append hdigits,
        List.cons_ne_nil _ _, rfl, ?_, ?_⟩
      · rw [List.length_append, List.length_replicate, Int.negSucc_eq]
        omega
      · rw [rowValue_append, rowValue_append, rowValue_replicate_zero, rowValue_toDigits]
        simp [rowValue, digitValue]

/-- A decimal laid out without an exponent is read as one that stands for the same number. -/
theorem readDecimal_plain (d : Decimal) :
    ∃ digits exponent, readDecimal (wireLayout.plain d) = some (digits, exponent) ∧
      Magnitude.ofDecimal? digits exponent = Magnitude.ofDecimal? d.digits d.exponent := by
  rcases plain_cases d with ⟨k, hexponent, hplain⟩ |
    ⟨whole, fraction, hwhole, hfraction, hne, hplain, hexponent, hvalue⟩
  · refine ⟨rowValue (Nat.toDigits 10 d.digits ++ List.replicate k '0'), 0, ?_, ?_⟩
    · rw [hplain]
      refine readDecimal_row ((isRow_toDigits _).append (isRow_replicate_zero k)) ?_
      simp [Nat.toDigits_ne_nil]
    · rw [rowValue_append, rowValue_toDigits, rowValue_replicate_zero, List.length_replicate,
        Nat.add_zero, hexponent]
      simpa using Magnitude.ofDecimal?_mul_pow d.digits k 0
  · refine ⟨rowValue (whole ++ fraction), -(fraction.length : Int), ?_, ?_⟩
    · rw [hplain]
      exact readDecimal_point hwhole hfraction hne
    · rw [hvalue, hexponent]

/-- A decimal laid out without an exponent begins with a digit. -/
theorem plain_eq_cons (d : Decimal) :
    ∃ c rest, wireLayout.plain d = c :: rest ∧ c.isDigit = true := by
  have first {s rest : List Char} (hs : IsRow s) (hne : s ≠ []) :
      ∃ c tail, s ++ rest = c :: tail ∧ c.isDigit = true := by
    obtain ⟨c, tail, rfl⟩ := List.exists_cons_of_ne_nil hne
    exact ⟨c, tail ++ rest, rfl, hs c List.mem_cons_self⟩
  rcases plain_cases d with ⟨k, -, hplain⟩ | ⟨whole, fraction, hwhole, -, hne, hplain, -, -⟩
  · rw [hplain]
    exact first (isRow_toDigits _) Nat.toDigits_ne_nil
  · rw [hplain]
    exact first hwhole hne

/-! ### Whole numbers with their sign -/

/-- A digit begins neither a word nor a sign. -/
theorem digit_ne {c : Char} (h : c.isDigit = true) :
    c ≠ '-' ∧ c ≠ '+' ∧ Text.lowerChar c ≠ 'n' ∧ Text.lowerChar c ≠ 'i' := by
  have hle : c ≤ '9' := by
    simp only [Char.isDigit, Bool.and_eq_true, decide_eq_true_eq] at h
    exact h.2
  have hge : '0' ≤ c := by
    simp only [Char.isDigit, Bool.and_eq_true, decide_eq_true_eq] at h
    exact h.1
  have hlower : Text.lowerChar c = c := by
    rw [Text.lowerChar, if_neg]
    rintro ⟨hA, -⟩
    exact absurd (Char.le_trans hA hle) (by decide)
  rw [hlower]
  refine ⟨?_, ?_, ?_, ?_⟩ <;> rintro rfl <;> revert hle hge <;> decide

namespace Binary64

/-- A magnitude without its sign reads back with the sign read before it. -/
theorem readUnsigned_plain (negative : Bool) (m : Magnitude) :
    readUnsigned negative (wireLayout.plain (m.shortest .up)) = some (finite negative m) := by
  obtain ⟨c, rest, hcons, hc⟩ := plain_eq_cons (m.shortest .up)
  obtain ⟨-, -, hn, hi⟩ := digit_ne hc
  obtain ⟨digits, exponent, hread, hvalue⟩ := readDecimal_plain (m.shortest .up)
  rw [readUnsigned, hread, hcons]
  simp only [Text.lower, List.map_cons, List.cons.injEq, hn, hi, false_and, or_self, if_false,
    Option.map_some]
  rw [ofDecimal, hvalue, Magnitude.ofDecimal?_shortest]
  rfl

/-- A number on the wire reads back as the number itself. -/
theorem read_wireChars (x : Binary64) : read x.wireChars = some x := by
  cases x with
  | nan => rfl
  | infinite negative => cases negative <;> rfl
  | finite negative m =>
    have hread := readUnsigned_plain negative m
    cases negative with
    | true => exact hread
    | false =>
      change read (wireLayout.plain (m.shortest .up)) = _
      obtain ⟨c, rest, hcons, hc⟩ := plain_eq_cons (m.shortest .up)
      obtain ⟨hminus, hplus, -, -⟩ := digit_ne hc
      rw [hcons] at hread ⊢
      rw [read]
      · exact hread
      · rintro s ⟨⟩
        exact hminus rfl
      · rintro s ⟨⟩
        exact hplus rfl

/-- The characters that a finite number shows on the wire. -/
def isWireChar (c : Char) : Bool := c.isDigit || c == '-' || c == '.'

theorem isWireChar_of_mem_wireChars {x : Binary64} (hx : x.isFinite = true) {c : Char}
    (hc : c ∈ x.wireChars) : isWireChar c = true := by
  cases x with
  | nan => cases hx
  | infinite negative => cases hx
  | finite negative m =>
    have hplain : ∀ c ∈ wireLayout.plain (m.shortest .up), isWireChar c = true := by
      intro c hc
      have row {s : List Char} (hs : IsRow s) (hc : c ∈ s) : isWireChar c = true := by
        simp [isWireChar, hs c hc]
      rcases plain_cases (m.shortest .up) with
        ⟨k, -, hplain⟩ | ⟨whole, fraction, hwhole, hfraction, -, hplain, -, -⟩
      · rw [hplain] at hc
        exact row ((isRow_toDigits _).append (isRow_replicate_zero k)) hc
      · rw [hplain, List.mem_append, List.mem_cons] at hc
        rcases hc with hc | rfl | hc
        · exact row hwhole hc
        · rfl
        · exact row hfraction hc
    rcases List.mem_append.mp hc with hsign | hdigits
    · cases negative with
      | true =>
        obtain rfl := List.mem_singleton.mp hsign
        rfl
      | false => cases hsign
    · exact hplain c hdigits

theorem wireChars_ne_nil (x : Binary64) : x.wireChars ≠ [] := by
  intro h
  have := read_wireChars x
  rw [h] at this
  cases this

end Binary64

end MotionLink
