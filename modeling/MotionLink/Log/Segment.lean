import MotionLink.Log.Field
import MotionLink.Text.Search

/-!
# Values between markers

A line of a block shows its values between two control characters, and the text before a value is
its label: `J3=` names it `J3`, and `Speed Override: ` names it `Speed Override`.

## Main definitions

* `Segment` — a piece of a line
* `Segment.ofLine` — a line as its pieces
-/

namespace MotionLink

/-- A piece of a line. -/
inductive Segment where
  /-- a label, or other text -/
  | literal (chars : List Char)
  /-- a value, named by its label -/
  | field (field : Field)
deriving DecidableEq

namespace Text

theorem length_lt_of_cutAtChar {sep : Char} {s before after : List Char}
    (h : cutAtChar sep s = some (before, after)) : after.length < s.length := by
  unfold cutAtChar at h
  split at h
  · simp at h
  · rename_i c rest heq
    have hle := (List.dropWhile_suffix (l := s) (· != sep)).length_le
    rw [heq] at hle
    simp only [Option.some.injEq, Prod.mk.injEq] at h
    obtain ⟨-, rfl⟩ := h
    simp only [List.length_cons] at hle
    omega

end Text

namespace Segment

/-- Stands before a value. -/
def opening : Char := '\x1a'

/-- Stands behind a value. -/
def closing : Char := '\x1b'

/-- One of the two markers. -/
def isMarker (c : Char) : Bool := c == opening || c == closing

/-- Ends a label, or the text before one. -/
def isSeparator (c : Char) : Bool :=
  c == ',' || c == ':' || c == '=' || c == '(' || c == '\x7b'

/-- A label without the sign that joins it to its value. -/
def labelBody (label : List Char) : List Char :=
  let label := Text.trimEnd label
  (Text.dropLastChar? '=' label).getD ((Text.dropLastChar? ':' label).getD label)

/-- The name in a label: what follows its last separator. -/
def labelName? (label : List Char) : Option (List Char) :=
  let name := Text.trim (Text.afterLast isSeparator (labelBody label))
  if name.isEmpty then none else some name

/-- A piece of text, if there is any. -/
def literal? (chars : List Char) : List Segment := if chars.isEmpty then [] else [literal chars]

/-- The pieces of a line; a value without a label of its own takes the name before it. A value
that is not closed is text like any other, without its marker. -/
def ofLineNamed (name : List Char) (line : List Char) : List Segment :=
  match _hopen : Text.cutAtChar opening line with
  | none => literal? (line.filter fun c => !isMarker c)
  | some (label, opened) =>
    match _hclose : Text.cutAtChar closing opened with
    | none => literal? (line.filter fun c => !isMarker c)
    | some (value, rest) =>
      -- Two values back to back share the label before the first.
      let name := (labelName? label).getD name
      literal? label ++ field ⟨name, .ofText value, 0⟩ :: ofLineNamed name rest
termination_by line.length
decreasing_by
  exact Nat.lt_trans (Text.length_lt_of_cutAtChar _hclose) (Text.length_lt_of_cutAtChar _hopen)

/-- The pieces of a line. -/
def ofLine (line : List Char) : List Segment := ofLineNamed [] line

end Segment

end MotionLink
