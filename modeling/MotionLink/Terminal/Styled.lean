import MotionLink.Log.Router

/-!
# Showing the log as text

The log is shown as it came, with the markers around values left out. In color, the kind of a line
and the class of a field each have a color of their own.

## Main definitions

* `Styled.paint` — a text in a color
* `Styled.chars` — what is written for an event
-/

namespace MotionLink.Styled

/-- The code that begins a color. -/
def code (attributes : String) : List Char := "\x1b[".toList ++ attributes.toList ++ ['m']

/-- The code that ends a color. -/
def reset : List Char := code "0"

/-- Headers and lines that show a command are bold. -/
def bold : List Char := code "1"

/-- The names of containers are dim. -/
def dim : List Char := code "2"

/-- The color of a kind of line. -/
def ofKind : LineKind → Option (List Char)
  | .error => some (code "31")
  | .warning => some (code "33")
  | .info => some (code "36")
  | .command => some bold
  | .plain => none

/-- The colors of coordinates, in turn. -/
def axisPalette : List (List Char) :=
  [code "91", code "92", code "93", code "94", code "95", code "96", code "97"]

/-- The colors of parameters, in turn. -/
def parameterPalette : List (List Char) :=
  [code "32", code "33", code "34", code "35", code "36"]

/-- The color of a turn. -/
def inTurn (palette : List (List Char)) (slot : Nat) : List Char :=
  (palette[slot % palette.length]?).getD []

/-- The color of a class. -/
def ofHighlight : Highlight → List Char
  | .identity => code "1;35"
  | .axis slot => inTurn axisPalette slot
  | .parameter slot => inTurn parameterPalette slot
  | .text => code "32"
  | .scalar => code "37"

/-- A text in a color. Without color, and for no text at all, only the text. -/
def paint (inColor : Bool) (color : Option (List Char)) (chars : List Char) : List Char :=
  match color with
  | some color => if inColor && !chars.isEmpty then color ++ chars ++ reset else chars
  | none => chars

/-- The blanks before a field. -/
def indent (depth : Nat) : List Char := List.replicate (2 * (depth + 1)) ' '

/-- A field on a line of its own. -/
def fieldChars (inColor : Bool) (f : Field) (highlight : Option Highlight) : List Char :=
  if f.value.isContainer then indent f.depth ++ paint inColor (some dim) (f.name ++ [':'])
  else
    indent f.depth ++ f.name ++ [':', ' '] ++
      paint inColor (highlight.map ofHighlight) f.value.chars

/-- What is written for an event. -/
def chars (inColor : Bool) : Event → List Char
  | .line text kind => paint inColor (ofKind kind) text ++ ['\n']
  | .header text => paint inColor (some bold) text ++ ['\n']
  | .field f highlight => fieldChars inColor f highlight ++ ['\n']
  | .literal text => text
  | .inlineField f highlight => paint inColor (highlight.map ofHighlight) f.value.chars
  | .endLine => ['\n']
  | .endRecord => []

/-- Colors are used on a terminal, unless they are not wanted. -/
def colorsWanted (noColor terminal : Bool) : Bool := !noColor && terminal

end MotionLink.Styled
