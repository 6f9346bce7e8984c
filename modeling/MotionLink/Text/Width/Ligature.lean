import MotionLink.Text.Width.Cell

/-!
# Letters that join

In some scripts two letters that meet are written as one sign, which fills the columns of one
letter. Each rule is told from the letter on the right, to what stands before it.

## Main definitions

* `JoiningLetter` — the letter on the right of such a pair
* `JoiningLetter.joins` — what a character before it comes to
-/

namespace MotionLink.Text

/-- A letter that may join with the letter before it. -/
inductive JoiningLetter where
  | alef
  | lamed
  | buginYa
  /-- the vowel sign i and the letter ya, with a joiner between them -/
  | buginIYa
  | tifinagh
  /-- a Tifinagh letter behind its own joiner -/
  | tifinaghJoined
  | lisuTone
  | orkhonI
  /-- a Khmer letter that can be written below another one -/
  | khmer
deriving DecidableEq

/-- The zero width joiner. -/
def zeroWidthJoiner : Char := '\u200D'

/-- Tifinagh consonants. -/
def isTifinagh (c : Char) : Bool := inRanges [(0x2D31, 0x2D65), (0x2D6F, 0x2D6F)] c.toNat

/-- The Arabic letters of the joining group Alef. -/
def isAlef (c : Char) : Bool :=
  inRanges [(0x622, 0x623), (0x625, 0x625), (0x627, 0x627), (0x671, 0x673), (0x675, 0x675),
    (0x773, 0x774), (0x870, 0x882)] c.toNat

/-- The Arabic letters of the joining group Lam. -/
def isLam (c : Char) : Bool :=
  inRanges [(0x644, 0x644), (0x6B5, 0x6B8), (0x76A, 0x76A), (0x8A6, 0x8A6), (0x8C7, 0x8C7)] c.toNat

/-- The Khmer letters that have a form written below another letter. -/
def isKhmerSubscript (c : Char) : Bool :=
  inRanges [(0x1780, 0x1782), (0x1784, 0x1787), (0x1789, 0x178C), (0x178E, 0x1793),
    (0x1795, 0x1798), (0x179B, 0x179D), (0x17A0, 0x17A0), (0x17A2, 0x17A2), (0x17A7, 0x17A7),
    (0x17AB, 0x17AC), (0x17AF, 0x17AF)] c.toNat

/-- The Lisu tone letters that begin a pair. -/
def isLisuFirstTone (c : Char) : Bool := inRanges [(0xA4F8, 0xA4FB)] c.toNat

/-- The Lisu tone letters that end a pair. -/
def isLisuLastTone (c : Char) : Bool := inRanges [(0xA4FC, 0xA4FD)] c.toNat

/-- Joiners and invisible marks, which do not keep joining letters apart. -/
def isInvisibleMark (c : Char) : Bool :=
  inRanges [(0x34F, 0x34F), (0x17B4, 0x17B5), (0x180B, 0x180D), (0x180F, 0x180F), (0x200D, 0x200D),
    (0xFE00, 0xFE0F), (0xE0100, 0xE01EF)] c.toNat

/-- The letter as the right one of a pair. -/
def JoiningLetter.ofChar? (c : Char) : Option JoiningLetter :=
  if isAlef c then some .alef
  else if c = '\u05DC' then some .lamed
  else if c = '\u1A10' then some .buginYa
  else if isTifinagh c then some .tifinagh
  else if isLisuLastTone c then some .lisuTone
  else if c = Char.ofNat 0x10C03 then some .orkhonI
  else if isKhmerSubscript c then some .khmer
  else none

namespace JoiningLetter

/-- What a character comes to before a joining letter: the columns it adds, and the letter that is
still to be joined. `joined` tells that a zero width joiner stands between them. -/
def joins (c : Char) (joined : Bool) : JoiningLetter → Option (Int × Option JoiningLetter)
  | alef =>
    if isLam c then some (0, none)
    else if isTransparent c then some (0, some alef)
    else none
  | lamed => if joined ∧ c = '\u05D0' then some (0, none) else none
  | buginYa => if joined ∧ c = '\u1A17' then some (0, some buginIYa) else none
  | buginIYa => if c = '\u1A15' then some (0, none) else none
  | tifinagh =>
    if c = '\u2D7F' then some (1, some tifinaghJoined)
    else if joined ∧ isTifinagh c then some (0, none)
    else none
  -- The joiner was counted as a sign of its own before the letter to join was met.
  | tifinaghJoined => if isTifinagh c then some (-1, none) else none
  | lisuTone => if isLisuFirstTone c then some (0, none) else none
  | orkhonI => if joined ∧ c = Char.ofNat 0x10C32 then some (0, none) else none
  -- The letter goes below the one before and gives its column back.
  | khmer => if c = '\u17D2' then some (-1, none) else none

/-- An invisible mark between two letters does not keep them apart. Before alef, other marks
count. -/
def passes (c : Char) (letter : JoiningLetter) : Bool := letter != alef && isInvisibleMark c

end JoiningLetter

end MotionLink.Text
