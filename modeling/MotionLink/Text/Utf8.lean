/-!
# UTF-8

Text travels as octets. Writing gives every character its one to four octets. Reading never
fails: each longest run of octets that begins a character without completing one is replaced by
a single `U+FFFD`, and so is an octet that can begin none.

## Main definitions

* `Utf8.encode`, `Utf8.octets` — the octets of a text
* `Utf8.Reader` — what a reader remembers between two octets
* `Utf8.decode` — the text of any octets
* `Utf8.isValid` — no octet had to be replaced
-/

namespace MotionLink

/-- Octets in transmission order. -/
abbrev Bytes := List UInt8

namespace Utf8

/-- The octets of one character. -/
def encodeChar (c : Char) : Bytes :=
  let n := c.toNat
  if n < 0x80 then [UInt8.ofNat n]
  else if n < 0x800 then [UInt8.ofNat (0xC0 + n / 0x40), UInt8.ofNat (0x80 + n % 0x40)]
  else if n < 0x10000 then
    [UInt8.ofNat (0xE0 + n / 0x1000), UInt8.ofNat (0x80 + n / 0x40 % 0x40),
     UInt8.ofNat (0x80 + n % 0x40)]
  else
    [UInt8.ofNat (0xF0 + n / 0x40000), UInt8.ofNat (0x80 + n / 0x1000 % 0x40),
     UInt8.ofNat (0x80 + n / 0x40 % 0x40), UInt8.ofNat (0x80 + n % 0x40)]

/-- The octets of a text. -/
def encode (s : List Char) : Bytes := s.flatMap encodeChar

/-- The octets of a string. -/
def octets (s : String) : Bytes := encode s.toList

/-- A character begun and not yet completed. -/
structure Pending where
  /-- the bits read so far -/
  value : Nat
  /-- the least octet that may follow -/
  low : Nat
  /-- the greatest octet that may follow -/
  high : Nat
  /-- octets still owed after the next one -/
  owed : Nat

/-- A reader between two octets: the replacements made are counted, the characters read are
collected in order. -/
structure Reader where
  pending : Option Pending
  replaced : Nat
  chars : Array Char

/-- The character that stands for octets that are no text. -/
def replacement : Char := '\ufffd'

/-- A reader at the start of a text. -/
def Reader.start : Reader := ⟨none, 0, #[]⟩

/-- Note that octets could not be read. -/
def Reader.replace (r : Reader) : Reader := ⟨none, r.replaced + 1, r.chars.push replacement⟩

/-- Read an octet that has to begin a character. The ranges for the octet after it exclude
overlong forms, surrogates and values above `U+10FFFF`. -/
def Reader.begin (r : Reader) (b : Nat) : Reader :=
  if b < 0x80 then { r with chars := r.chars.push (Char.ofNat b) }
  else if 0xC2 ≤ b ∧ b ≤ 0xDF then { r with pending := some ⟨b - 0xC0, 0x80, 0xBF, 0⟩ }
  else if b = 0xE0 then { r with pending := some ⟨0, 0xA0, 0xBF, 1⟩ }
  else if b = 0xED then { r with pending := some ⟨0xD, 0x80, 0x9F, 1⟩ }
  else if 0xE1 ≤ b ∧ b ≤ 0xEF then { r with pending := some ⟨b - 0xE0, 0x80, 0xBF, 1⟩ }
  else if b = 0xF0 then { r with pending := some ⟨0, 0x90, 0xBF, 2⟩ }
  else if 0xF1 ≤ b ∧ b ≤ 0xF3 then { r with pending := some ⟨b - 0xF0, 0x80, 0xBF, 2⟩ }
  else if b = 0xF4 then { r with pending := some ⟨4, 0x80, 0x8F, 2⟩ }
  else r.replace

/-- Read one octet. An octet that cannot continue the character begun replaces what was begun
and then begins a character itself. -/
def Reader.read (r : Reader) (octet : UInt8) : Reader :=
  let b := octet.toNat
  match r.pending with
  | none => r.begin b
  | some p =>
    if p.low ≤ b ∧ b ≤ p.high then
      -- Only the octet behind the first one has a narrower range.
      let value := p.value * 0x40 + (b - 0x80)
      match p.owed with
      | 0 => { r with pending := none, chars := r.chars.push (Char.ofNat value) }
      | owed + 1 => { r with pending := some ⟨value, 0x80, 0xBF, owed⟩ }
    else
      -- What was begun is lost, the octet itself is not.
      (r.replace).begin b

/-- End of the octets: a character begun and not completed is replaced. -/
def Reader.finish (r : Reader) : Reader :=
  match r.pending with
  | none => r
  | some _ => r.replace

/-- A reader that has read all the octets. -/
def Reader.ofBytes (bytes : Bytes) : Reader := (bytes.foldl Reader.read .start).finish

/-- The text of any octets. -/
def decode (bytes : Bytes) : List Char := (Reader.ofBytes bytes).chars.toList

/-- The string of any octets. -/
def text (bytes : Bytes) : String := String.ofList (decode bytes)

/-- The octets are the octets of a text: none had to be replaced. -/
def isValid (bytes : Bytes) : Bool := (Reader.ofBytes bytes).replaced == 0

end Utf8

end MotionLink
