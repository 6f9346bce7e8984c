import MotionLink.Number.Binary64
import MotionLink.Text.Search

/-!
# Reading numbers

## Main definitions

* `numeral` — the natural that a row of digits stands for
* `readNatural` — an unsigned number below a bound
* `Binary64.read` — a double: an optional sign, then `inf`, `infinity` or `nan` in either case, or
  digits with an optional point and an optional exponent

## Main statement

* `numeral_eq_rowValue` — the digits count from the left, however long the row is
-/

namespace MotionLink

/-- The value of a decimal digit. -/
def digitValue (c : Char) : Nat := c.toNat - 0x30

/-- The natural that a row of decimal digits stands for, taken digit by digit from the left. -/
def rowValue (digits : List Char) : Nat :=
  digits.foldl (fun n c => 10 * n + digitValue c) 0

/-- The same natural, put together from the two halves of a long row. Both factors of the product
are then of one size, which keeps the cost of a long row low. At most `depth` times is a row cut. -/
def byHalves : Nat → List Char → Nat
  | 0, digits => rowValue digits
  | depth + 1, digits =>
    if digits.length < 64 then rowValue digits
    else
      byHalves depth (digits.take (digits.length / 2)) *
          Nat.pow 10 (digits.length - digits.length / 2) +
        byHalves depth (digits.drop (digits.length / 2))

/-- The natural that a row of decimal digits stands for. -/
def numeral (digits : List Char) : Nat := byHalves digits.length.log2 digits

/-- A number before a row of digits counts once for each place of the row. -/
theorem foldl_rowValue (n : Nat) (digits : List Char) :
    digits.foldl (fun n c => 10 * n + digitValue c) n =
      n * Nat.pow 10 digits.length + rowValue digits := by
  induction digits generalizing n with
  | nil => simp [rowValue]
  | cons c r ih =>
    have h : rowValue (c :: r) = digitValue c * Nat.pow 10 r.length + rowValue r := by
      simpa [rowValue] using ih (digitValue c)
    have hp : Nat.pow 10 (c :: r).length = Nat.pow 10 r.length * 10 := rfl
    rw [List.foldl_cons, ih, h, hp, Nat.add_mul, Nat.add_assoc, Nat.mul_comm 10 n, Nat.mul_assoc,
      Nat.mul_comm 10 (Nat.pow 10 r.length)]

theorem rowValue_append (a b : List Char) :
    rowValue (a ++ b) = rowValue a * Nat.pow 10 b.length + rowValue b := by
  rw [rowValue, List.foldl_append, foldl_rowValue]
  rfl

theorem byHalves_eq_rowValue (depth : Nat) (digits : List Char) :
    byHalves depth digits = rowValue digits := by
  induction depth generalizing digits with
  | zero => rfl
  | succ depth ih =>
    rw [byHalves]
    split
    · rfl
    · rw [ih, ih, ← List.length_drop, ← rowValue_append, List.take_append_drop]

/-- A row is worth what its digits are worth from the left. -/
theorem numeral_eq_rowValue (digits : List Char) : numeral digits = rowValue digits :=
  byHalves_eq_rowValue _ _

/-- A row of one or more digits. -/
def readDigits (s : List Char) : Option Nat :=
  if !s.isEmpty && s.all Char.isDigit then some (numeral s) else none

/-- An unsigned number below the bound; a plus sign may stand before it. -/
def readNatural (bound : Nat) (s : List Char) : Option Nat :=
  let digits := match s with
    | '+' :: r => r
    | _ => s
  (readDigits digits).filter (· < bound)

/-- A signed number in a closed range; a plus sign may stand before it. -/
def readInteger (low high : Int) (s : List Char) : Option Int :=
  let value := match s with
    | '-' :: r => (readDigits r).map fun n => -(n : Int)
    | '+' :: r => (readDigits r).map fun n => (n : Int)
    | _ => (readDigits s).map fun n => (n : Int)
  value.filter fun n => decide (low ≤ n) && decide (n ≤ high)

/-- From here on the further digits of an exponent are left out of account. -/
def exponentBound : Nat := 65536

/-- The number that a row of digits stands for, if it is below the bound. Of a longer one only the
digits up to the one that reaches the bound count. -/
def boundedNumeral (digits : List Char) : Nat :=
  digits.foldl (fun n c => if n < exponentBound then 10 * n + digitValue c else n) 0

/-- The size of an exponent: one or more digits. -/
def readExponentSize (s : List Char) : Option Nat :=
  if !s.isEmpty && s.all Char.isDigit then some (boundedNumeral s) else none

/-- The exponent behind the digits of a decimal: nothing at all, or `e` and a signed number. -/
def readExponent : List Char → Option Int
  | [] => some 0
  | c :: s =>
    if c = 'e' ∨ c = 'E' then
      match s with
      | '-' :: r => (readExponentSize r).map fun n => -(n : Int)
      | '+' :: r => (readExponentSize r).map fun n => (n : Int)
      | _ => (readExponentSize s).map fun n => (n : Int)
    else none

/-- A decimal without a sign, as its digits and the power of ten they count. At least one digit
stands before or behind the point. -/
def readDecimal (s : List Char) : Option (Nat × Int) :=
  let whole := s.takeWhile Char.isDigit
  let rest := s.dropWhile Char.isDigit
  let fraction := match rest with
    | '.' :: r => r.takeWhile Char.isDigit
    | _ => []
  let rest := match rest with
    | '.' :: r => r.dropWhile Char.isDigit
    | _ => rest
  if whole.isEmpty && fraction.isEmpty then none
  else (readExponent rest).map fun e => (numeral (whole ++ fraction), e - fraction.length)

namespace Binary64

/-- A number without a sign, given the sign read before it. -/
def readUnsigned (negative : Bool) (s : List Char) : Option Binary64 :=
  let word := Text.lower s
  if word = ['n', 'a', 'n'] then some nan
  else if word = ['i', 'n', 'f'] ∨ word = ['i', 'n', 'f', 'i', 'n', 'i', 't', 'y'] then
    some (infinite negative)
  else (readDecimal s).map fun d => ofDecimal negative d.1 d.2

/-- The number that a text stands for, correctly rounded. No blanks are allowed around it. -/
def read : List Char → Option Binary64
  | '-' :: s => readUnsigned true s
  | '+' :: s => readUnsigned false s
  | s => readUnsigned false s

end Binary64

end MotionLink
