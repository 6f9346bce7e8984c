import MotionLink.Json.Reader
import MotionLink.Log.Field
import MotionLink.Log.LineKind

/-!
# Commands shown as JSON

## Main definitions

* `Field.ofValue`, `Field.ofMembers`, `Field.ofItems` — a JSON value as a row of fields
* `Payload.ofLine` — the command that a line shows
-/

namespace MotionLink

namespace Field

/-- The name of the item at a place of an array. -/
def itemName (index : Nat) : List Char := '[' :: Nat.toDigits 10 index ++ [']']

mutual

/-- A value and what it holds, in the order in which they are written. -/
def ofValue (name : List Char) (depth : Nat) : Json → List Field
  | .object members => ⟨name, .container .object, depth⟩ :: ofMembers (depth + 1) members
  | .array items => ⟨name, .container .array, depth⟩ :: ofItems (depth + 1) 0 items
  | .string s => [⟨name, .text s.toList, depth⟩]
  | v => [⟨name, .scalar v.chars, depth⟩]

/-- The members of an object. -/
def ofMembers (depth : Nat) : List (String × Json) → List Field
  | [] => []
  | (name, v) :: rest => ofValue name.toList depth v ++ ofMembers depth rest

/-- The items of an array from a place on, named by their places. -/
def ofItems (depth index : Nat) : List Json → List Field
  | [] => []
  | v :: rest => ofValue (itemName index) depth v ++ ofItems depth (index + 1) rest

end

end Field

/-- A command shown as JSON. -/
structure Payload where
  /-- the line up to the payload -/
  header : List Char
  fields : List Field

/-- Why a line shows no command although it says so. -/
inductive PayloadError where
  /-- nothing follows the phrase -/
  | missing
  /-- what follows is no JSON -/
  | malformed
deriving DecidableEq

/-- The wording of an error; the line itself is shown instead. That of `malformed` tells what is
wrong with the text, and is left out. -/
def PayloadError.message : PayloadError → String
  | missing => "structured header without payload"
  | malformed => ""

namespace Payload

/-- The fields of an object. -/
def fieldsOf : Json → List Field
  | .object members => Field.ofMembers 0 members
  | _ => []

/-- The header and the text from the opening brace on. -/
def split? (line : List Char) : Option (List Char × List Char) := do
  let (before, after) ← Text.cutAt Embedding.serializedPhrase line
  let (between, payload) ← Text.cutAtChar '\x7b' after
  pure (Text.trimEnd (before ++ Embedding.serializedPhrase ++ between), '\x7b' :: payload)

/-- The command that a line shows; what follows the closing brace does not count. -/
def ofLine (line : List Char) : Except PayloadError Payload :=
  match split? line with
  | none => .error .missing
  | some (header, payload) =>
    match Json.readFirst payload with
    | none => .error .malformed
    | some (value, _) => .ok ⟨header, fieldsOf value⟩

end Payload

end MotionLink
