import MotionLink.Number.Decimal
import MotionLink.Text.Blank

/-!
# Durations

## Main definitions

* `Duration` — a span of time, to the nanosecond
* `Duration.text` — the span as shown in messages
* `Duration.read` — a span as given by the operator
-/

namespace MotionLink

/-- A span of time. -/
structure Duration where
  nanoseconds : Nat
deriving DecidableEq

/-- Why a text is no span of time. -/
inductive DurationError where
  | empty
  | invalid (text : String)
  | zero
deriving DecidableEq

/-- The wording shown to the operator. -/
def DurationError.message : DurationError → String
  | empty => "duration must not be empty"
  | invalid text => "invalid duration value: " ++ text
  | zero => "duration must be greater than zero"

namespace Duration

/-- No time at all. -/
def zero : Duration := ⟨0⟩

/-- A number of seconds. -/
def ofSeconds (n : Nat) : Duration := ⟨n * 1000000000⟩

/-- A number of milliseconds. -/
def ofMilliseconds (n : Nat) : Duration := ⟨n * 1000000⟩

/-- A number of microseconds. -/
def ofMicroseconds (n : Nat) : Duration := ⟨n * 1000⟩

/-- The whole seconds. -/
def wholeSeconds (d : Duration) : Nat := d.nanoseconds / 1000000000

/-- What is left over a whole number of seconds. -/
def subsecond (d : Duration) : Nat := d.nanoseconds % 1000000000

/-- A natural in at least `places` digits. -/
def padded (places n : Nat) : List Char :=
  let digits := Nat.toDigits 10 n
  List.replicate (places - digits.length) '0' ++ digits

/-- The span in a unit of `10 ^ places` nanoseconds, with the decimals it needs. -/
def inUnit (places : Nat) (unit : String) (d : Duration) : String :=
  let whole := Nat.toDigits 10 (d.nanoseconds / Nat.pow 10 places)
  let decimals := Text.trimEndBy (· == '0') (padded places (d.nanoseconds % Nat.pow 10 places))
  let point := if decimals.isEmpty then [] else '.' :: decimals
  String.ofList (whole ++ point) ++ unit

/-- The span in the largest unit of which it holds at least one. -/
def text (d : Duration) : String :=
  if 1000000000 ≤ d.nanoseconds then d.inUnit 9 "s"
  else if 1000000 ≤ d.nanoseconds then d.inUnit 6 "ms"
  else if 1000 ≤ d.nanoseconds then d.inUnit 3 "µs"
  else d.inUnit 0 "ns"

/-- The bound of the numbers in durations. -/
def bound : Nat := 18446744073709551616

/-- A number and its unit: `ms`, `s`, or none for seconds. -/
def splitUnit (s : List Char) : List Char × (Nat → Duration) :=
  match Text.dropLastChar? 's' s with
  | none => (s, ofSeconds)
  | some rest =>
    match Text.dropLastChar? 'm' rest with
    | some number => (number, ofMilliseconds)
    | none => (rest, ofSeconds)

/-- A span as given by the operator: a positive whole number, with a unit or in seconds. -/
def read (s : String) : Except DurationError Duration :=
  let word := Text.trim s.toList
  if word.isEmpty then .error .empty
  else
    let (number, ofNumber) := splitUnit word
    match readNatural bound number with
    | none => .error (.invalid (String.ofList word))
    | some n => if n = 0 then .error .zero else .ok (ofNumber n)

end Duration

end MotionLink
