/-!
# Blank characters and trimming

Slots, replies and labels may be surrounded by blanks that do not belong to them. A blank is a
character with the Unicode property White_Space.

## Main definitions

* `isBlank` — membership in the property
* `trimBy` — a text without the leading and trailing characters of a class
* `trim` — a text without the blanks around it
-/

namespace MotionLink.Text

/-- The code points with the property White_Space, as closed ranges in ascending order. -/
def blankRanges : List (Nat × Nat) :=
  [(0x09, 0x0D), (0x20, 0x20), (0x85, 0x85), (0xA0, 0xA0), (0x1680, 0x1680), (0x2000, 0x200A),
   (0x2028, 0x2029), (0x202F, 0x202F), (0x205F, 0x205F), (0x3000, 0x3000)]

/-- Membership of a number in a list of closed ranges. -/
def inRanges (ranges : List (Nat × Nat)) (n : Nat) : Bool :=
  ranges.any fun r => decide (r.1 ≤ n) && decide (n ≤ r.2)

/-- A blank: a space, a line break, or another character that only separates. -/
def isBlank (c : Char) : Bool := inRanges blankRanges c.toNat

/-- The text from its first character outside the class on. -/
def trimStartBy (p : Char → Bool) (s : List Char) : List Char := s.dropWhile p

/-- The text up to its last character outside the class. -/
def trimEndBy (p : Char → Bool) (s : List Char) : List Char := (s.reverse.dropWhile p).reverse

/-- The text from its first to its last character outside the class. -/
def trimBy (p : Char → Bool) (s : List Char) : List Char := trimEndBy p (trimStartBy p s)

/-- The text without trailing blanks. -/
def trimEnd (s : List Char) : List Char := trimEndBy isBlank s

/-- The text without the blanks around it. -/
def trim (s : List Char) : List Char := trimBy isBlank s

/-- A text of blanks only; the empty text is one. -/
def isAllBlank (s : List Char) : Bool := s.all isBlank

/-- The string without the blanks around it. -/
def trimmed (s : String) : String := String.ofList (trim s.toList)

end MotionLink.Text
