import Mathlib.Tactic.Positivity
import Mathlib.Tactic.Ring
import MotionLink.Number.Binary64

/-!
# Rounding depends on the ratio alone

The magnitude nearest to a ratio is computed from the quotient and the remainder of a division.
Scaling both terms changes neither, so decimals that stand for one number are rounded to one
magnitude, and the tests by which huge and tiny decimals are told apart beforehand are only
shortcuts.

## Main results

* `Magnitude.ofRatio?_mul_right` — scaling both terms of a ratio changes nothing
* `Magnitude.ofRatio?_units` — a magnitude is nearest to itself
* `Magnitude.isSome_ofRatio?` — a ratio below the greatest magnitude is rounded to one
* `Magnitude.ofDecimal?_eq_ofRatio?` — a decimal is rounded as the ratio that it stands for
* `Binary64.isFinite_mul` — a factor not above one leads to no infinity
-/

namespace MotionLink

namespace Magnitude

theorem unitsPerOne_pos : 0 < unitsPerOne := by decide +kernel

/-! ### Rounding a quotient -/

theorem roundQuotient_mul_right (num den : Nat) {k : Nat} (hk : 0 < k) :
    roundQuotient (num * k) (den * k) = roundQuotient num den := by
  have hlt : 2 * (num % den * k) < den * k ↔ 2 * (num % den) < den := by
    rw [← Nat.mul_assoc, Nat.mul_lt_mul_right hk]
  have heq : 2 * (num % den * k) = den * k ↔ 2 * (num % den) = den := by
    rw [← Nat.mul_assoc, Nat.mul_left_inj hk.ne']
  simp only [roundQuotient, Nat.mul_div_mul_right _ _ hk, Nat.mul_mod_mul_right, hlt, heq]

@[simp] theorem roundQuotient_one (n : Nat) : roundQuotient n 1 = n := by
  simp [roundQuotient, Nat.mod_one]

/-- What is less than half of the unit is rounded away. -/
theorem roundQuotient_eq_zero {num den : Nat} (h : 2 * num < den) : roundQuotient num den = 0 := by
  have hnum : num < den := by omega
  simp [roundQuotient, Nat.div_eq_of_lt hnum, Nat.mod_eq_of_lt hnum, h]

theorem div_le_roundQuotient (num den : Nat) : num / den ≤ roundQuotient num den := by
  simp only [roundQuotient]
  split <;> omega

/-- Rounding does not pass a natural that the ratio does not pass. -/
theorem roundQuotient_le {num den n : Nat} (hden : 0 < den) (h : num ≤ n * den) :
    roundQuotient num den ≤ n := by
  have hdivision := Nat.div_add_mod num den
  have hquotient : num / den ≤ n := Nat.div_le_of_le_mul (by rwa [Nat.mul_comm])
  simp only [roundQuotient]
  split
  · exact hquotient
  · -- The quotient is rounded up, so it left a remainder.
    rename_i hup
    rcases Nat.lt_or_ge (num / den) n with hlt | hge
    · exact hlt
    · exfalso
      have hmul : n * den ≤ den * (num / den) := by
        rw [Nat.mul_comm]
        exact Nat.mul_le_mul_left den hge
      omega

/-! ### The scale of a quotient -/

theorem scaleFor_of_lt {q : Nat} (h : q < significandBound) : scaleFor q = 0 := by
  simp [scaleFor, h]

/-- A number with 53 bits and some zeros behind them is scaled by the number of zeros. -/
theorem scaleFor_mul_pow {significand : Nat} (hlt : significand < significandBound)
    (hle : fullSignificand ≤ significand) (scale : Nat) :
    scaleFor (significand * 2 ^ scale) = scale := by
  have hpos : significand ≠ 0 := by
    rintro rfl
    exact absurd hle (by decide)
  have hlog : (significand * 2 ^ scale).log2 = 52 + scale := by
    rw [Nat.log2_eq_iff (Nat.mul_ne_zero hpos (by positivity))]
    refine ⟨?_, ?_⟩
    · rw [Nat.pow_add]
      exact Nat.mul_le_mul_right _ hle
    · rw [Nat.add_right_comm, Nat.pow_add]
      exact Nat.mul_lt_mul_of_pos_right hlt (by positivity)
  simp only [scaleFor]
  split
  · rename_i hsmall
    have hbits : 2 ^ (52 + scale) < 2 ^ 53 :=
      lt_of_le_of_lt (by rw [← hlog]; exact Nat.log2_self_le (by positivity)) hsmall
    have := (Nat.pow_lt_pow_iff_right (by decide)).mp hbits
    omega
  · omega

theorem scaleFor_units (m : Magnitude) : scaleFor m.units = m.scale := by
  rcases m.normal with hscale | hfull
  · rw [units, hscale]
    exact scaleFor_of_lt (by simpa using m.significand_lt)
  · exact scaleFor_mul_pow m.significand_lt hfull m.scale

/-- Scaled, a number has no more than 53 bits. -/
theorem lt_mul_pow_scaleFor (q : Nat) : q < significandBound * 2 ^ scaleFor q := by
  simp only [scaleFor]
  split
  · simpa
  · have hpow : 2 ^ (q.log2 + 1) ≤ significandBound * 2 ^ (q.log2 - 52) := by
      rw [show significandBound = 2 ^ 53 from rfl, ← Nat.pow_add]
      exact Nat.pow_le_pow_right (by decide) (by omega)
    exact lt_of_lt_of_le Nat.lt_log2_self hpow

theorem scaleFor_le_scaleFor {q r : Nat} (h : q ≤ r) : scaleFor q ≤ scaleFor r := by
  by_cases hq : q < significandBound
  · rw [scaleFor_of_lt hq]
    exact Nat.zero_le _
  · have hpos : q ≠ 0 := by
      rintro rfl
      exact hq (by decide)
    have hlog : q.log2 ≤ r.log2 :=
      (Nat.le_log2 (by omega)).mpr (le_trans (Nat.log2_self_le hpos) h)
    rw [scaleFor, if_neg hq, scaleFor, if_neg (by omega)]
    omega

/-- Scaled at all, a number has no less than 53 bits. -/
theorem mul_pow_scaleFor_le {q : Nat} (h : scaleFor q ≠ 0) :
    fullSignificand * 2 ^ scaleFor q ≤ q := by
  simp only [scaleFor] at h ⊢
  split at h
  · exact absurd rfl h
  · rename_i hq
    have hpos : q ≠ 0 := by
      rintro rfl
      exact hq (by decide)
    rw [if_neg hq, show fullSignificand = 2 ^ 52 from rfl, ← Nat.pow_add,
      Nat.add_sub_of_le (by omega)]
    exact Nat.log2_self_le hpos

/-! ### Ratios -/

theorem ofParts?_self (m : Magnitude) : ofParts? m.significand m.scale = some m := by
  rw [ofParts?, dif_pos ⟨m.significand_lt, m.scale_le, m.normal⟩]

theorem ofParts?_eq_none {significand scale : Nat} (h : 2045 < scale) :
    ofParts? significand scale = none := by
  rw [ofParts?, dif_neg]
  rintro ⟨-, hscale, -⟩
  omega

/-- Scaling both terms of a ratio does not change the magnitude nearest to it. -/
theorem ofRatio?_mul_right (num den : Nat) {k : Nat} (hk : 0 < k) :
    ofRatio? (num * k) (den * k) = ofRatio? num den := by
  have hscaled : num * k * unitsPerOne = num * unitsPerOne * k := Nat.mul_right_comm ..
  have hden (n : Nat) : den * k * n = den * n * k := Nat.mul_right_comm ..
  simp only [ofRatio?, hscaled, hden, Nat.mul_div_mul_right _ _ hk, roundQuotient_mul_right _ _ hk]

/-- A magnitude is the one nearest to itself. -/
theorem ofRatio?_units (m : Magnitude) : ofRatio? m.units unitsPerOne = some m := by
  have hround : roundQuotient (m.units * unitsPerOne) (unitsPerOne * Nat.pow 2 m.scale) =
      m.significand := by
    have hpos : 0 < Nat.pow 2 m.scale * unitsPerOne :=
      Nat.mul_pos (Nat.pow_pos (by decide)) unitsPerOne_pos
    rw [units, Nat.mul_assoc, Nat.mul_comm unitsPerOne]
    simpa only [Nat.one_mul, roundQuotient_one] using roundQuotient_mul_right m.significand 1 hpos
  simp only [ofRatio?, Nat.mul_div_cancel _ unitsPerOne_pos, scaleFor_units, hround]
  rw [if_neg m.significand_lt.ne, ofParts?_self]

/-- A ratio below half of the smallest magnitude is rounded to zero. -/
theorem ofRatio?_eq_zero {num den : Nat} (h : 2 * (num * unitsPerOne) < den) :
    ofRatio? num den = some zero := by
  have hquotient : num * unitsPerOne / den = 0 := Nat.div_eq_of_lt (by omega)
  have hround : roundQuotient (num * unitsPerOne) (den * Nat.pow 2 0) = 0 :=
    roundQuotient_eq_zero (by simpa using h)
  simp only [ofRatio?, hquotient, scaleFor_of_lt (by decide : 0 < significandBound), hround]
  exact ofParts?_self zero

/-- A ratio with more than 2098 bits before the point, in units, is beyond the greatest
magnitude. -/
theorem ofRatio?_eq_none {num den : Nat} (h : 2045 < scaleFor (num * unitsPerOne / den)) :
    ofRatio? num den = none := by
  simp only [ofRatio?]
  split
  · exact ofParts?_eq_none (by omega)
  · exact ofParts?_eq_none h

theorem scaleFor_le_of_le_units {m : Magnitude} {q : Nat} (h : q ≤ m.units) :
    scaleFor q ≤ m.scale := by
  by_contra hscale
  have hfull : fullSignificand * 2 ^ scaleFor q ≤ q := mul_pow_scaleFor_le (by omega)
  have hpow : 2 ^ (m.scale + 1) ≤ 2 ^ scaleFor q := Nat.pow_le_pow_right (by decide) (by omega)
  have hunits : m.units < fullSignificand * 2 ^ (m.scale + 1) := by
    rw [Nat.pow_succ', ← Nat.mul_assoc]
    exact Nat.mul_lt_mul_of_pos_right m.significand_lt (Nat.pow_pos (by decide))
  have := Nat.mul_le_mul_left fullSignificand hpow
  omega

/-- A ratio that some magnitude is not below of is rounded to a magnitude. -/
theorem isSome_ofRatio? {num den : Nat} (m : Magnitude) (hden : 0 < den)
    (h : num * unitsPerOne ≤ m.units * den) : (ofRatio? num den).isSome := by
  obtain ⟨scaled, hscaled⟩ : ∃ scaled, scaled = num * unitsPerOne := ⟨_, rfl⟩
  obtain ⟨scale, hscale⟩ : ∃ scale, scale = scaleFor (scaled / den) := ⟨_, rfl⟩
  rw [← hscaled] at h
  have hscale_le : scale ≤ m.scale := by
    rw [hscale]
    exact scaleFor_le_of_le_units (Nat.div_le_of_le_mul (by rwa [Nat.mul_comm]))
  have htop := m.scale_le
  have hbits : roundQuotient scaled (den * 2 ^ scale) ≤ significandBound := by
    refine roundQuotient_le (by positivity) ?_
    have hlt : scaled / den < significandBound * 2 ^ scale := hscale ▸ lt_mul_pow_scaleFor _
    calc scaled ≤ significandBound * 2 ^ scale * den := ((Nat.div_lt_iff_lt_mul hden).mp hlt).le
      _ = significandBound * (den * 2 ^ scale) := by ring
  have hparts : ofRatio? num den =
      if roundQuotient scaled (den * 2 ^ scale) = significandBound then
        ofParts? fullSignificand (scale + 1)
      else ofParts? (roundQuotient scaled (den * 2 ^ scale)) scale := by
    rw [ofRatio?, hscale, hscaled]
    rfl
  rw [hparts]
  split
  · -- A carry at the scale of `m` itself would pass `m`.
    rename_i hcarry
    have hbelow : scale ≠ m.scale := by
      intro hsame
      have hle : roundQuotient scaled (den * 2 ^ scale) ≤ m.significand := by
        refine roundQuotient_le (by positivity) (le_trans h (le_of_eq ?_))
        rw [hsame, units, Nat.mul_assoc, Nat.mul_comm den]
        rfl
      have := m.significand_lt
      omega
    rw [ofParts?, dif_pos ⟨by decide, by omega, Or.inr (le_refl _)⟩]
    rfl
  · rename_i hcarry
    have hnormal : scale = 0 ∨ fullSignificand ≤ roundQuotient scaled (den * 2 ^ scale) := by
      by_cases hzero : scale = 0
      · exact Or.inl hzero
      · refine Or.inr (le_trans ?_ (div_le_roundQuotient _ _))
        rw [← Nat.div_div_eq_div_mul, Nat.le_div_iff_mul_le (by positivity), hscale]
        exact mul_pow_scaleFor_le (hscale ▸ hzero)
    rw [ofParts?, dif_pos ⟨by omega, by omega, hnormal⟩]
    rfl

/-! ### Decimals -/

-- The bound stays hidden: a power as large as this one is not to be computed in a proof.
private theorem exists_exponent : ∃ exponent ≤ 400,
    2045 < scaleFor (Nat.pow 10 exponent * unitsPerOne) ∧ 2 * unitsPerOne ≤ Nat.pow 10 exponent :=
  ⟨400, by decide +kernel⟩

/-- From `10 ^ 400` on nothing is rounded to a magnitude. -/
theorem ofRatio?_of_huge {digits places : Nat} (hdigits : digits ≠ 0) (hplaces : 400 ≤ places) :
    ofRatio? (digits * 10 ^ places) 1 = none := by
  obtain ⟨exponent, hle, hbound, -⟩ := exists_exponent
  have hpow : Nat.pow 10 exponent ≤ 10 ^ places := Nat.pow_le_pow_right (by decide) (by omega)
  refine ofRatio?_eq_none (lt_of_lt_of_le hbound (scaleFor_le_scaleFor ?_))
  rw [Nat.div_one]
  exact Nat.mul_le_mul_right _
    (hpow.trans (Nat.le_mul_of_pos_left _ (Nat.pos_of_ne_zero hdigits)))

/-- Below `10 ^ (-400)` everything is rounded to zero. -/
theorem ofRatio?_of_tiny {digits places : Nat} (h : digits.log2 + 1 + 400 ≤ places) :
    ofRatio? digits (10 ^ places) = some zero := by
  obtain ⟨exponent, hle, -, hbound⟩ := exists_exponent
  have hdigits : digits < 10 ^ (digits.log2 + 1) :=
    lt_of_lt_of_le Nat.lt_log2_self (Nat.pow_le_pow_left (by decide) _)
  refine ofRatio?_eq_zero ?_
  calc 2 * (digits * unitsPerOne) = digits * (2 * unitsPerOne) := by ring
    _ < 10 ^ (digits.log2 + 1) * (2 * unitsPerOne) :=
      Nat.mul_lt_mul_of_pos_right hdigits (Nat.mul_pos (by decide) unitsPerOne_pos)
    _ ≤ 10 ^ (digits.log2 + 1) * 10 ^ exponent := Nat.mul_le_mul_left _ hbound
    _ = 10 ^ (digits.log2 + 1 + exponent) := (Nat.pow_add ..).symm
    _ ≤ 10 ^ places := Nat.pow_le_pow_right (by decide) (by omega)

/-- A decimal is rounded as the ratio that it stands for: the tests made beforehand on its
exponent are shortcuts. -/
theorem ofDecimal?_eq_ofRatio? (digits : Nat) (exponent : Int) :
    ofDecimal? digits exponent =
      ofRatio? (digits * 10 ^ exponent.toNat) (10 ^ (-exponent).toNat) := by
  rw [ofDecimal?.eq_def]
  by_cases hzero : digits = 0
  · rw [if_pos hzero, hzero, ofRatio?_eq_zero]
    simp
  rw [if_neg hzero]
  by_cases hhuge : 400 ≤ exponent
  · rw [if_pos hhuge, show (-exponent).toNat = 0 by omega, Nat.pow_zero,
      ofRatio?_of_huge hzero (by omega)]
  rw [if_neg hhuge]
  by_cases htiny : exponent + (digits.log2 + 1) ≤ -400
  · rw [if_pos htiny, show exponent.toNat = 0 by omega, Nat.pow_zero, Nat.mul_one,
      ofRatio?_of_tiny (by omega)]
  rw [if_neg htiny]
  cases exponent with
  | ofNat k => simp
  | negSucc k => simp

/-- A zero at the end of the digits counts as one more power of ten. -/
theorem ofDecimal?_mul_ten (digits : Nat) (exponent : Int) :
    ofDecimal? (digits * 10) exponent = ofDecimal? digits (exponent + 1) := by
  rw [ofDecimal?_eq_ofRatio?, ofDecimal?_eq_ofRatio?]
  rcases Int.lt_or_le exponent 0 with hfraction | hwhole
  · rw [show (exponent + 1).toNat = exponent.toNat by omega,
      show (-exponent).toNat = (-(exponent + 1)).toNat + 1 by omega, Nat.pow_succ,
      Nat.mul_right_comm, ofRatio?_mul_right _ _ (by decide)]
  · rw [show (exponent + 1).toNat = exponent.toNat + 1 by omega,
      show (-(exponent + 1)).toNat = (-exponent).toNat by omega, Nat.pow_succ', Nat.mul_assoc]

/-- The same for any number of zeros. -/
theorem ofDecimal?_mul_pow (digits count : Nat) (exponent : Int) :
    ofDecimal? (digits * 10 ^ count) exponent = ofDecimal? digits (exponent + count) := by
  induction count generalizing exponent with
  | zero => simp
  | succ count ih =>
    rw [Nat.pow_succ, ← Nat.mul_assoc, ofDecimal?_mul_ten, ih]
    congr 1
    omega

end Magnitude

/-! ### Products -/

/-- A finite number stays finite when it is multiplied by a number not above one. -/
theorem Binary64.isFinite_mul {x : Binary64} (hx : x.isFinite = true) {negative : Bool}
    {n : Magnitude} (hn : n.units ≤ Magnitude.unitsPerOne) :
    (x * finite negative n).isFinite = true := by
  cases x with
  | nan => cases hx
  | infinite s => cases hx
  | finite s m =>
    have hden : 0 < Magnitude.unitsPerOne * Magnitude.unitsPerOne :=
      Nat.mul_pos Magnitude.unitsPerOne_pos Magnitude.unitsPerOne_pos
    have hle : m.units * n.units * Magnitude.unitsPerOne ≤
        m.units * (Magnitude.unitsPerOne * Magnitude.unitsPerOne) := by
      generalize Magnitude.unitsPerOne = unit at hn ⊢
      calc m.units * n.units * unit ≤ m.units * unit * unit :=
            Nat.mul_le_mul_right _ (Nat.mul_le_mul_left _ hn)
        _ = m.units * (unit * unit) := Nat.mul_assoc ..
    obtain ⟨product, hproduct⟩ :=
      Option.isSome_iff_exists.mp (Magnitude.isSome_ofRatio? m hden hle)
    change (mul (finite s m) (finite negative n)).isFinite = true
    rw [mul, hproduct]
    rfl

end MotionLink
