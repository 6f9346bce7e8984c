/-!
# Double-precision numbers

Coordinates and speeds are double-precision binary numbers. They are kept exactly, as a sign and
a whole number of units of `2 ^ (-1074)`, the distance between the smallest ones; every operation
is computed exactly and rounded once, to the nearest number and on a tie to the even one.

## Main definitions

* `Magnitude` — a finite number without its sign
* `Magnitude.ofRatio?` — the magnitude nearest to a ratio of naturals
* `Magnitude.ofDecimal?` — the magnitude nearest to a decimal
* `Binary64` — a number, an infinity, or no number at all
-/

namespace MotionLink

/-- Significands are below this number: they have 53 bits. -/
def significandBound : Nat := 9007199254740992

/-- The least significand that fills its 53 bits. -/
def fullSignificand : Nat := 4503599627370496

/-- A finite magnitude, `significand * 2 ^ scale` units of `2 ^ (-1074)`. The significand fills
its 53 bits unless the scale is as small as it can be, so every magnitude has one form. -/
structure Magnitude where
  significand : Nat
  scale : Nat
  significand_lt : significand < significandBound
  scale_le : scale ≤ 2045
  normal : scale = 0 ∨ fullSignificand ≤ significand
deriving DecidableEq

namespace Magnitude

/-- The number of units in one. -/
def unitsPerOne : Nat := Nat.pow 2 1074

/-- The magnitude as a number of units. -/
def units (m : Magnitude) : Nat := m.significand * Nat.pow 2 m.scale

/-- No units. -/
def zero : Magnitude := ⟨0, 0, by decide, by decide, by decide⟩

/-- The magnitude with these parts, if they are in range. -/
def ofParts? (significand scale : Nat) : Option Magnitude :=
  if h : significand < significandBound ∧ scale ≤ 2045 ∧
      (scale = 0 ∨ fullSignificand ≤ significand) then
    some ⟨significand, scale, h.1, h.2.1, h.2.2⟩
  else none

/-- The natural nearest to `num / den`, of two the even one. -/
def roundQuotient (num den : Nat) : Nat :=
  let q := num / den
  let r := num % den
  if 2 * r < den ∨ (2 * r = den ∧ q % 2 = 0) then q else q + 1

/-- The least scale at which `q` units need no more than 53 bits before the point. -/
def scaleFor (q : Nat) : Nat := if q < significandBound then 0 else q.log2 - 52

/-- The magnitude nearest to `num / den`; nothing when that lies beyond the greatest one. A
significand that is rounded up to 54 bits is halved. -/
def ofRatio? (num den : Nat) : Option Magnitude :=
  let scaled := num * unitsPerOne
  let scale := scaleFor (scaled / den)
  let significand := roundQuotient scaled (den * Nat.pow 2 scale)
  -- Rounding up may carry into a 54th bit, which is then the only one that is set.
  if significand = significandBound then ofParts? fullSignificand (scale + 1)
  else ofParts? significand scale

/-- The magnitude nearest to `digits * 10 ^ exponent`; nothing when that lies beyond the greatest
one. Exponents that decide the outcome alone are told apart first, so that no huge power is
computed. -/
def ofDecimal? (digits : Nat) (exponent : Int) : Option Magnitude :=
  if digits = 0 then some zero
  -- The greatest magnitude is below 10 ^ 309, the smallest one above 10 ^ (-324).
  else if 400 ≤ exponent then none
  else if exponent + (digits.log2 + 1) ≤ -400 then some zero
  else match exponent with
    | .ofNat k => ofRatio? (digits * Nat.pow 10 k) 1
    | .negSucc k => ofRatio? digits (Nat.pow 10 (k + 1))

end Magnitude

/-- A double-precision number. -/
inductive Binary64 where
  /-- no number -/
  | nan
  | infinite (negative : Bool)
  /-- zero has a sign like any other magnitude -/
  | finite (negative : Bool) (magnitude : Magnitude)
deriving DecidableEq

namespace Binary64

/-- A sign with a magnitude that may lie beyond the greatest one. -/
def ofMagnitude? (negative : Bool) : Option Magnitude → Binary64
  | some m => finite negative m
  | none => infinite negative

/-- The number nearest to `± digits * 10 ^ exponent`. -/
def ofDecimal (negative : Bool) (digits : Nat) (exponent : Int) : Binary64 :=
  ofMagnitude? negative (Magnitude.ofDecimal? digits exponent)

/-- The number nearest to a natural. -/
def ofNat (n : Nat) : Binary64 := ofMagnitude? false (Magnitude.ofRatio? n 1)

/-- Positive zero. -/
def zero : Binary64 := finite false .zero

/-- Neither an infinity nor no number. -/
def isFinite : Binary64 → Bool
  | finite .. => true
  | _ => false

/-- The number is infinite. -/
def isInfinite : Binary64 → Bool
  | infinite _ => true
  | _ => false

/-- The number is zero, of either sign. -/
def isZero : Binary64 → Bool
  | finite _ m => m.significand = 0
  | _ => false

/-- The number with the other sign. -/
def neg : Binary64 → Binary64
  | nan => nan
  | infinite s => infinite !s
  | finite s m => finite (!s) m

/-- The product, rounded once. -/
def mul : Binary64 → Binary64 → Binary64
  | nan, _ => nan
  | _, nan => nan
  | infinite s, infinite t => infinite (s != t)
  | infinite s, finite t m => if m.significand = 0 then nan else infinite (s != t)
  | finite s m, infinite t => if m.significand = 0 then nan else infinite (s != t)
  | finite s m, finite t n =>
    ofMagnitude? (s != t)
      (Magnitude.ofRatio? (m.units * n.units) (Magnitude.unitsPerOne * Magnitude.unitsPerOne))

/-- The quotient, rounded once. -/
def div : Binary64 → Binary64 → Binary64
  | nan, _ => nan
  | _, nan => nan
  | infinite _, infinite _ => nan
  | infinite s, finite t _ => infinite (s != t)
  | finite s _, infinite t => finite (s != t) .zero
  | finite s m, finite t n =>
    -- The unit cancels, so the ratio of the units is the ratio of the magnitudes.
    if n.significand = 0 then (if m.significand = 0 then nan else infinite (s != t))
    else ofMagnitude? (s != t) (Magnitude.ofRatio? m.units n.units)

instance : Neg Binary64 := ⟨neg⟩
instance : Mul Binary64 := ⟨mul⟩
instance : Div Binary64 := ⟨div⟩

/-- A finite number as a signed number of units. -/
def units? : Binary64 → Option Int
  | finite true m => some (-(m.units : Int))
  | finite false m => some (m.units : Int)
  | _ => none

/-- The number lies between zero and one, the ends included. -/
def isFraction (x : Binary64) : Bool :=
  match x.units? with
  | some u => decide (0 ≤ u) && decide (u ≤ (Magnitude.unitsPerOne : Int))
  | none => false

end Binary64

end MotionLink
