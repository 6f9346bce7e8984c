import MotionLink.Text.Width.Emoji
import MotionLink.Text.Width.Ligature

/-!
# Display width

The number of terminal columns that a line fills. Most characters fill their own columns, whatever
stands around them. The others are settled from the right: what a character adds depends on what
follows it.

## Main definitions

* `Sequel` — what follows a character, as far as it bears on the character's width
* `Sequel.before` — the columns that a character adds, and what it is to the one before it
* `width` — the columns of a line
-/

namespace MotionLink.Text

/-- A variation selector: how the character before it is to look. -/
inductive Selector where
  /-- as a quotation mark of full width -/
  | fullwidth
  /-- as text -/
  | text
  /-- as a picture -/
  | picture
deriving DecidableEq

/-- The letters of flags at the start of a picture that goes on behind a joiner. Two and two are a
flag; only the last flag belongs to the picture. -/
inductive FlagLetters where
  | one
  | even
  | odd
deriving DecidableEq

/-- What a line goes on with, but for a variation selector. -/
inductive Continuation where
  /-- nothing that matters -/
  | other
  | letter (letter : JoiningLetter) (joined : Bool)
  /-- the Kirat Rai vowel sign e -/
  | vowelE
  /-- the Kirat Rai vowel sign ai, or two signs e -/
  | vowelAi
  | skinTone
  /-- one letter of a flag -/
  | flagLetter
  /-- letters of flags -/
  | flagLetters
  | picture
  /-- a joiner, and a picture behind it -/
  | joinedPicture
  /-- the frame of a key, before a joiner and a picture -/
  | joinedKey
  | joinedFlag (letters : FlagLetters)
  /-- the end of a region's name, before a joiner and a picture -/
  | joinedRegion (letters digits : Nat)
deriving DecidableEq

/-- What follows a character, as far as it bears on the character's width. -/
structure Sequel where
  selector : Option Selector
  rest : Continuation
deriving DecidableEq

namespace Continuation

/-- A letter, which no selector in between keeps from joining. -/
def isLetter : Continuation → Bool
  | letter .. => true
  | _ => false

/-- A picture behind a joiner, whose left neighbour may ask for its own picture. -/
def isJoined : Continuation → Bool
  | joinedPicture => true
  | joinedKey => true
  | _ => false

/-- What is left to join after a selector. -/
def keptBy (selector : Selector) (rest : Continuation) : Continuation :=
  if rest.isLetter || (selector == .picture && rest.isJoined) then rest else other

/-- What a character is to the one before it when it joins nothing. -/
def ofChar (c : Char) : Continuation :=
  if isSkinTone c then skinTone
  else if isFlagLetter c then flagLetter
  else if isPicture c then picture
  else if c = Char.ofNat 0x16D67 then vowelE
  else if c = Char.ofNat 0x16D68 then vowelAi
  else
    match JoiningLetter.ofChar? c with
    | some l => letter l false
    | none => other

/-- A joiner is told of the picture behind it. -/
def takesJoiner : Continuation → Bool
  | skinTone => true
  | flagLetters => true
  | picture => true
  | joinedFlag .even => true
  | joinedFlag .odd => true
  | _ => false

/-- A character before a joiner and a picture: it becomes the first part of that picture. -/
def beforeJoined (c : Char) : Option (Int × Continuation) :=
  if c = '\u20E3' then some (0, joinedKey)
  else if isFlagLetter c then some (1, joinedFlag .one)
  else if isSkinTone c then some (0, skinTone)
  else if c = Char.ofNat 0xE007F then some (0, joinedRegion 0 0)
  else if isPicture c then some (0, picture)
  else none

/-- A letter of a flag before others, of which the last two melt with the picture behind them. -/
def beforeFlag (c : Char) (letters : FlagLetters) : Option (Int × Continuation) :=
  if isFlagLetter c then
    match letters with
    | .even => some (3, joinedFlag .odd)
    | _ => some (-1, joinedFlag .even)
  else none

/-- A character before the end of a region's name. The name is three to six letters, or three
digits and up to four letters, and stands behind a black flag. -/
def beforeRegion (c : Char) (letters digits : Nat) : Option (Int × Continuation) :=
  if isTagLetter c && digits == 0 && letters < 6 then some (0, joinedRegion (letters + 1) digits)
  else if isTagDigit c && letters ≤ 4 && digits < 3 then some (0, joinedRegion letters (digits + 1))
  else if c = Char.ofNat 0x1F3F4 ∧ (digits = 3 ∨ digits = 0 ∧ 3 ≤ letters) then some (0, picture)
  else none

/-- A character that melts with what follows: the columns it adds, and what both are to the
character before them. -/
def melts (c : Char) : Continuation → Option (Int × Continuation)
  | other => none
  | letter l joined =>
    if l.passes c then some (0, letter l (joined || c == zeroWidthJoiner))
    else
      (l.joins c joined).map fun r =>
        match r.2 with
        | some l => (r.1, letter l false)
        | none => (r.1, other)
  | vowelE =>
    if c = Char.ofNat 0x16D63 ∨ c = Char.ofNat 0x16D69 then some (0, other)
    else if c = Char.ofNat 0x16D67 then some (0, vowelAi)
    else if c = Char.ofNat 0x16D68 then some (1, vowelE)
    else none
  | vowelAi => if c = Char.ofNat 0x16D63 then some (0, other) else none
  | joinedPicture => beforeJoined c
  | joinedKey => none
  | joinedRegion letters digits => beforeRegion c letters digits
  | rest =>
    if c = zeroWidthJoiner ∧ rest.takesJoiner then some (0, joinedPicture)
    else
      match rest with
      | skinTone => if takesSkinTone c then some (0, picture) else none
      | flagLetter => if isFlagLetter c then some (1, flagLetters) else none
      | flagLetters => if isFlagLetter c then some (1, flagLetters) else none
      | joinedFlag letters => beforeFlag c letters
      | _ => none

end Continuation

namespace Sequel

/-- The end of the line, or what is like it. -/
def plain : Sequel := ⟨none, .other⟩

/-- Drop a selector that the character before it takes no notice of. A picture that was asked for in
vain joins nothing. -/
def settled (next : Sequel) : Sequel :=
  if next.selector = some .picture ∧ !next.rest.isLetter then plain else ⟨none, next.rest⟩

/-- A quotation mark that has a form of full width. -/
def isQuotationMark (c : Char) : Bool :=
  c == '\u2018' || c == '\u2019' || c == '\u201C' || c == '\u201D'

/-- The variation selector that a character is. -/
def selector? (c : Char) : Option Selector :=
  if c = '\uFE01' then some .fullwidth
  else if c = '\uFE0E' then some .text
  else if c = '\uFE0F' then some .picture
  else none

/-- A character that looks as the selector after it asks. -/
def chosen (c : Char) (next : Sequel) : Option (Int × Sequel) :=
  match next.selector with
  | some .picture =>
    if hasVariants c then some (if next.rest.isJoined then 0 else 2, ⟨none, .picture⟩) else none
  | some .text => if hasNarrowVariant c then some (1, plain) else none
  | some .fullwidth => if isQuotationMark c then some (2, plain) else none
  | none => none

/-- What a character adds to what follows it when no selector bears on its look. -/
def beforeRest (c : Char) (rest : Continuation) : Int × Sequel :=
  match selector? c with
  | some s => (0, ⟨some s, rest.keptBy s⟩)
  | none =>
    match rest.melts c with
    | some (columns, rest) => (columns, ⟨none, rest⟩)
    | none => (charWidth c, ⟨none, .ofChar c⟩)

/-- The columns that a character adds to those of what follows it, and what it is to the character
before it. -/
def before (c : Char) (next : Sequel) : Int × Sequel :=
  match chosen c next with
  | some r => r
  -- Basic Latin and the controls join nothing.
  | none => if c.toNat ≤ 0xA0 then (1, plain) else beforeRest c next.settled.rest

end Sequel

/-- The columns that a line fills, and what it is to a character put before it. -/
def measure (line : List Char) : Int × Sequel :=
  line.foldr
    (fun c done =>
      let (columns, next) := Sequel.before c done.2
      (columns + done.1, next))
    (0, .plain)

/-- The columns that a line fills. -/
def width (line : List Char) : Nat := (measure line).1.toNat

end MotionLink.Text
