import MotionLink.Json.Value
import MotionLink.Number.Decimal

/-!
# JSON numbers

A number without a point or an exponent that fits a word of 64 bits is whole. Any other is a
double, computed in stages: as many digits as fit 64 bits are collected, converted, and multiplied
or divided by one power of ten. The last bit may therefore differ from the nearest double.

## Main definitions

* `NumberText` — the parts of a number as written
* `NumberText.scan` — those parts and the text behind them
* `NumberText.value?` — the number; nothing when it lies beyond the greatest double
-/

namespace MotionLink.Json

/-- The parts of a number as written. -/
structure NumberText where
  negative : Bool
  /-- the digits before the point, at least one -/
  whole : List Char
  /-- the digits behind the point, at least one if there is a point -/
  fraction : Option (List Char)
  /-- whether the exponent is negative, and its digits -/
  exponent : Option (Bool × List Char)

namespace NumberText

/-- A row of at least one digit and the text behind it. -/
def scanDigits (s : List Char) : Option (List Char × List Char) :=
  let digits := s.takeWhile Char.isDigit
  if digits.isEmpty then none else some (digits, s.dropWhile Char.isDigit)

/-- The digits before the point: a zero stands alone. -/
def scanWhole (s : List Char) : Option (List Char × List Char) :=
  (scanDigits s).filter fun d => d.1 = ['0'] ∨ d.1.head? ≠ some '0'

/-- The point and the digits behind it. -/
def scanFraction : List Char → Option (Option (List Char) × List Char)
  | '.' :: s => (scanDigits s).map fun d => (some d.1, d.2)
  | s => some (none, s)

/-- The exponent: a letter, an optional sign, digits. -/
def scanExponent : List Char → Option (Option (Bool × List Char) × List Char)
  | [] => some (none, [])
  | c :: s =>
    if c = 'e' ∨ c = 'E' then
      match s with
      | '-' :: r => (scanDigits r).map fun d => (some (true, d.1), d.2)
      | '+' :: r => (scanDigits r).map fun d => (some (false, d.1), d.2)
      | _ => (scanDigits s).map fun d => (some (false, d.1), d.2)
    else some (none, c :: s)

/-- A number and the text behind it. -/
def scan (s : List Char) : Option (NumberText × List Char) := do
  let negative := s.head? == some '-'
  let (whole, s) ← scanWhole (if negative then s.drop 1 else s)
  let (fraction, s) ← scanFraction s
  let (exponent, s) ← scanExponent s
  pure (⟨negative, whole, fraction, exponent⟩, s)

/-- The least number that a word of 64 bits cannot hold. -/
def wordLimit : Nat := 18446744073709551616

/-- Collect the digits before the point: those that fit, and a count of those that do not. Once a
digit does not fit, no later one is looked at. -/
def collectWhole (digits : List Char) : Nat × Nat :=
  digits.foldl (fun (n, extra) c =>
    let next := 10 * n + digitValue c
    if extra = 0 ∧ next < wordLimit then (next, 0) else (n, extra + 1)) (0, 0)

/-- Collect the digits behind the point onto those before it: the number, how many digits were
added to it, and whether one has been refused. -/
def collectFraction (start : Nat) (digits : List Char) : Nat × Nat × Bool :=
  digits.foldl (fun (n, added, full) c =>
    let next := 10 * n + digitValue c
    if !full && next < wordLimit then (next, added + 1, false) else (n, added, true))
    (start, 0, false)

/-- The double ten to a power. -/
def tenTo (k : Nat) : Binary64 := .ofNat (Nat.pow 10 k)

/-- Divide by ten to a power, in steps of at most 308. -/
def divideByTenTo (x : Binary64) (k : Nat) : Binary64 :=
  if k ≤ 308 then x / tenTo k
  else if x.isZero then x
  -- Ten to the power of 308 is the greatest power of ten that is a double.
  else divideByTenTo (x / tenTo 308) (k - 308)
termination_by k
decreasing_by omega

/-- The double of collected digits and a power of ten; nothing beyond the greatest one. -/
def scaled? (digits : Nat) (exponent : Int) : Option Binary64 :=
  let x := Binary64.ofNat digits
  match exponent with
  | .ofNat k =>
    if k ≤ 308 then
      let y := x * tenTo k
      if y.isInfinite then none else some y
    else if x.isZero then some x else none
  | .negSucc k => some (divideByTenTo x (k + 1))

/-- The least exponent that a word of 32 bits cannot hold. -/
def exponentLimit : Nat := 2147483648

/-- The greatest distance of a whole number below zero. -/
def negativeLimit : Nat := 9223372036854775808

/-- The double without its sign. -/
def double? (t : NumberText) : Option Binary64 :=
  let (whole, extra) := collectWhole t.whole
  let (digits, added, _) := collectFraction whole (t.fraction.getD [])
  let start : Int := (extra : Int) - added
  match t.exponent with
  | none => scaled? digits start
  | some (negative, written) =>
    let e := numeral written
    -- Such an exponent decides alone, unless all digits are zero.
    if exponentLimit ≤ e then
      if digits = 0 ∨ negative then some .zero else none
    else scaled? digits (if negative then start - e else start + e)

/-- The number. Zero with a minus sign is a double, since no whole number is negative zero. -/
def value? (t : NumberText) : Option Json :=
  let (whole, extra) := collectWhole t.whole
  let isWhole := t.fraction.isNone && t.exponent.isNone && extra == 0
  if isWhole && !t.negative then some (.integer whole)
  else if isWhole && 0 < whole && whole ≤ negativeLimit then some (.integer (-(whole : Int)))
  else t.double?.map fun x => .double (if t.negative then -x else x)

end NumberText

end MotionLink.Json
