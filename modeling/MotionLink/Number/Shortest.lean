import MotionLink.Number.Binary64

/-!
# Writing numbers

A number is written with the fewest digits that read back as the same number; of two such rows of
digits the nearer one is taken. How the digits are laid out is a choice of the place that writes
them, a `Layout`.

## Main definitions

* `Decimal` — digits and the power of ten they count
* `Magnitude.shortest` — the fewest digits that read back
* `Layout` — where exponents are used, and whether a whole number shows a point
* `Layout.write` — the text of a number
-/

namespace MotionLink

/-- The decimal `digits * 10 ^ exponent`. -/
structure Decimal where
  digits : Nat
  exponent : Int
deriving DecidableEq

/-- The number of digits in which a natural is written. -/
def digitCount (n : Nat) : Nat :=
  -- The binary logarithm times log10 2 is short by less than two.
  let guess := n.log2 * 30103 / 100000
  if n < Nat.pow 10 guess then guess
  else if n < Nat.pow 10 (guess + 1) then guess + 1
  else guess + 2

namespace Decimal

/-- The same decimal without zeros at the end of its digits. -/
def stripZeros (d : Decimal) : Decimal :=
  if h : d.digits ≠ 0 ∧ d.digits % 10 = 0 then
    stripZeros ⟨d.digits / 10, d.exponent + 1⟩
  else d
termination_by d.digits
decreasing_by exact Nat.div_lt_self (Nat.pos_of_ne_zero h.1) (by decide)

/-- The one of two decimals that passes a test; if both do, the first one or the second one. -/
def pick? (passes : Decimal → Bool) (prefersFirst : Bool) (first second : Decimal) :
    Option Decimal :=
  match passes first, passes second with
  | false, false => none
  | true, false => some first
  | false, true => some second
  | true, true => some (if prefersFirst then first else second)

theorem passes_of_pick? {passes : Decimal → Bool} {prefersFirst : Bool} {first second d : Decimal}
    (h : pick? passes prefersFirst first second = some d) : passes d = true := by
  simp only [pick?] at h
  split at h
  case h_1 => cases h
  case h_2 hfirst hsecond =>
    obtain rfl := Option.some.inj h
    exact hfirst
  case h_3 hfirst hsecond =>
    obtain rfl := Option.some.inj h
    exact hsecond
  case h_4 hfirst hsecond =>
    obtain rfl := Option.some.inj h
    cases prefersFirst
    · exact hsecond
    · exact hfirst

end Decimal

/-- Which of two equally near rows of digits is taken. -/
inductive Tie where
  /-- the one whose last digit is even -/
  | toEven
  /-- the greater one -/
  | up
deriving DecidableEq

namespace Magnitude

/-- The decimal is read as this magnitude. -/
def readsBack (m : Magnitude) (d : Decimal) : Bool :=
  ofDecimal? d.digits d.exponent == some m

/-- All digits of the magnitude: `units / 2 ^ 1074` is `units * 5 ^ 1074 / 10 ^ 1074`. -/
def expansion (m : Magnitude) : Decimal := ⟨m.units * Nat.pow 5 1074, -1074⟩

/-- The decimal of `count` digits that reads back, if there is one: the expansion cut after that
many digits, or the next greater decimal. -/
def withDigits? (tie : Tie) (m : Magnitude) (count : Nat) : Option Decimal :=
  let all := m.expansion.digits
  let dropped := digitCount all - count
  let unit := Nat.pow 10 dropped
  let cut := all / unit
  let rest := all % unit
  let exponent : Int := dropped - 1074
  -- If any row of this many digits reads back, one of these two does.
  let below : Decimal := ⟨cut, exponent⟩
  let above : Decimal := ⟨cut + 1, exponent⟩
  let nearer := 2 * rest < unit ∨ (2 * rest = unit ∧ tie = .toEven ∧ cut % 2 = 0)
  Decimal.pick? m.readsBack nearer below above

/-- The fewest digits that read back; seventeen always suffice, and all digits read back too. -/
def shortest (tie : Tie) (m : Magnitude) : Decimal :=
  if m.significand = 0 then ⟨0, 0⟩
  else
    (((List.range 17).findSome? fun n => m.withDigits? tie (n + 1)).getD m.expansion).stripZeros

end Magnitude

/-- How digits are laid out. -/
structure Layout where
  /-- the powers of ten of the first digit, from the first number up to and without the second,
  that are written without an exponent; all of them when nothing is given -/
  positional : Option (Int × Int)
  /-- a whole number is followed by `.0` -/
  pointZero : Bool
  /-- which of two equally near rows of digits is taken -/
  tie : Tie

namespace Layout

/-- The decimal without an exponent. -/
def plain (layout : Layout) (d : Decimal) : List Char :=
  let digits := Nat.toDigits 10 d.digits
  match d.exponent with
  | .ofNat k =>
    digits ++ List.replicate k '0' ++ (if layout.pointZero then ['.', '0'] else [])
  | .negSucc k =>
    let places := k + 1
    if places < digits.length then
      digits.take (digits.length - places) ++ '.' :: digits.drop (digits.length - places)
    else '0' :: '.' :: List.replicate (places - digits.length) '0' ++ digits

/-- The decimal with one digit before the point and an exponent with its sign. -/
def scientific (d : Decimal) : List Char :=
  let digits := Nat.toDigits 10 d.digits
  let lead := d.exponent + (digits.length : Int) - 1
  let mantissa := match digits with
    | first :: second :: more => first :: '.' :: second :: more
    | _ => digits
  mantissa ++ 'e' :: (if lead < 0 then '-' else '+') :: Nat.toDigits 10 lead.natAbs

/-- The decimal with or without an exponent, as the layout says. -/
def decimal (layout : Layout) (d : Decimal) : List Char :=
  match layout.positional with
  | none => layout.plain d
  | some (low, high) =>
    let lead := d.exponent + ((Nat.toDigits 10 d.digits).length : Int) - 1
    if d.digits = 0 ∨ (low ≤ lead ∧ lead < high) then layout.plain d else scientific d

/-- The text of a number. -/
def write (layout : Layout) : Binary64 → List Char
  | .nan => ['N', 'a', 'N']
  | .infinite false => ['i', 'n', 'f']
  | .infinite true => ['-', 'i', 'n', 'f']
  | .finite negative m =>
    (if negative then ['-'] else []) ++ layout.decimal (m.shortest layout.tie)

end Layout

/-- Numbers on the wire and in messages never have an exponent, and a whole number has no
point. -/
def wireLayout : Layout := ⟨none, false, .up⟩

/-- The text of a number on the wire. -/
def Binary64.wireChars (x : Binary64) : List Char := wireLayout.write x

/-- The text of a number on the wire, as a string. -/
def Binary64.wireText (x : Binary64) : String := String.ofList x.wireChars

end MotionLink
