import MotionLink.Number.Decimal
import MotionLink.Text.Blank

/-!
# Fields

A log line may show a command as named values. A container is a field of its own, and what it
holds follows it one level deeper.

## Main definitions

* `FieldValue`, `Field` — a named value
* `FieldValue.ofText` — the value that a text shows
-/

namespace MotionLink

/-- What a container holds. -/
inductive ContainerKind where
  /-- named values -/
  | object
  /-- values in a row -/
  | array
deriving DecidableEq

/-- The name of a kind of container. -/
def ContainerKind.name : ContainerKind → String
  | object => "object"
  | array => "array"

/-- The value of a field. -/
inductive FieldValue where
  | text (chars : List Char)
  /-- a number, a truth value or nothing, as printed -/
  | scalar (chars : List Char)
  /-- what it holds follows one level deeper -/
  | container (kind : ContainerKind)
deriving DecidableEq

namespace FieldValue

/-- The words that stand for a value without being a number. -/
def scalarWords : List (List Char) :=
  [['t', 'r', 'u', 'e'], ['f', 'a', 'l', 's', 'e'], ['n', 'u', 'l', 'l']]

/-- The text shows a scalar: one of the words, or a number. -/
def showsScalar (chars : List Char) : Bool :=
  let word := Text.trim chars
  scalarWords.contains word || (Binary64.read word).isSome

/-- The value that a text shows; the blanks around it are kept. -/
def ofText (chars : List Char) : FieldValue :=
  if showsScalar chars then scalar chars else text chars

/-- The name of the type of a value. -/
def typeName : FieldValue → String
  | text _ => "text"
  | scalar _ => "scalar"
  | container _ => "nested"

/-- A container. -/
def isContainer : FieldValue → Bool
  | container _ => true
  | _ => false

/-- The value as printed; nothing for a container. -/
def chars : FieldValue → List Char
  | text chars => chars
  | scalar chars => chars
  | container _ => []

end FieldValue

/-- A named value. -/
structure Field where
  name : List Char
  value : FieldValue
  /-- the number of containers around it -/
  depth : Nat
deriving DecidableEq

end MotionLink
