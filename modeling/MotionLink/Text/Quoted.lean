import MotionLink.Text.Unprintable
import MotionLink.Text.Combining

/-!
# Quoted text

A value shown in a message stands between double quotes, so that its blanks and invisible
characters can be seen.

## Main definitions

* `escaped` — how one character is written between the quotes
* `quoted` — a text between double quotes
-/

namespace MotionLink.Text

/-- The number in lower-case hexadecimal, without leading zeros. -/
def hex (n : Nat) : List Char := Nat.toDigits 16 n

/-- How a character is written between double quotes: a quote or a backslash after a backslash,
the common controls by their letter, and any other character that could not be told apart on
sight by its code point in braces. -/
def escaped (c : Char) : List Char :=
  match c with
  | '"' => ['\\', '"']
  | '\\' => ['\\', '\\']
  | '\n' => ['\\', 'n']
  | '\r' => ['\\', 'r']
  | '\t' => ['\\', 't']
  | '\x00' => ['\\', '0']
  | c =>
    -- A combining character would attach to the quote before it.
    if isCombining c || isUnprintable c then
      ['\\', 'u', '\x7b'] ++ hex c.toNat ++ ['\x7d']
    else [c]

/-- The text between double quotes. -/
def quoted (s : String) : String :=
  String.ofList ('"' :: s.toList.flatMap escaped ++ ['"'])

end MotionLink.Text
