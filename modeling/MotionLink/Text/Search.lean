/-!
# Searching, cutting and joining text

## Main definitions

* `occurs` — whether a pattern stands anywhere in a text
* `cutAt` — the text before and after the first occurrence of a pattern
* `cutAtChar` — the same for a single character
* `joined` — pieces with a separator between them
* `lower` — the text with the letters `A` to `Z` in lower case
-/

namespace MotionLink.Text

/-- The pattern stands somewhere in the text. -/
def occurs (pattern : List Char) : List Char → Bool
  | [] => pattern.isEmpty
  | c :: s => pattern.isPrefixOf (c :: s) || occurs pattern s

/-- What stands before and after the first occurrence of the pattern; `before` holds the
characters already passed, last first. -/
def cutAtFrom (pattern before : List Char) : List Char → Option (List Char × List Char)
  | [] => if pattern.isEmpty then some (before.reverse, []) else none
  | c :: s =>
    match pattern.isPrefixOf? (c :: s) with
    | some rest => some (before.reverse, rest)
    | none => cutAtFrom pattern (c :: before) s

/-- What stands before and after the first occurrence of the pattern. -/
def cutAt (pattern s : List Char) : Option (List Char × List Char) := cutAtFrom pattern [] s

/-- What stands before and after the first occurrence of the character. -/
def cutAtChar (sep : Char) (s : List Char) : Option (List Char × List Char) :=
  match s.dropWhile (· != sep) with
  | [] => none
  | _ :: rest => some (s.takeWhile (· != sep), rest)

/-- The part of the text behind the last character of the class, or all of it. -/
def afterLast (p : Char → Bool) (s : List Char) : List Char :=
  (s.reverse.takeWhile fun c => !p c).reverse

/-- The pieces in order, with the separator between neighbours. -/
def joined (sep : String) (pieces : List String) : String := sep.intercalate pieces

/-- A letter `A` to `Z` in lower case; any other character as it is. -/
def lowerChar (c : Char) : Char :=
  if 'A' ≤ c ∧ c ≤ 'Z' then Char.ofNat (c.toNat + 32) else c

/-- The text with the letters `A` to `Z` in lower case. -/
def lower (s : List Char) : List Char := s.map lowerChar

/-- The text without one final character `c`, if it has one. -/
def dropLastChar? (c : Char) (s : List Char) : Option (List Char) :=
  if s.getLast? = some c then some s.dropLast else none

end MotionLink.Text
