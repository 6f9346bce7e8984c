import MotionLink.Json.Value
import MotionLink.Log.Router

/-!
# Showing the log as JSON

Every line that belongs to no record, and every record, is written as one JSON object on a line of
its own.

## Main definitions

* `OpenRecord` — a record not yet complete
* `JsonLines.step` — what is written for an event, and the record behind it
-/

namespace MotionLink

/-- A record not yet complete. -/
structure OpenRecord where
  header : List Char
  /-- its fields with their classes, latest first -/
  fields : List (Field × Option Highlight)

namespace JsonLines

/-- A text as a JSON string. -/
def textJson (chars : List Char) : Json := .string (String.ofList chars)

/-- A turn, where there is one. -/
def slotMember (slot : Option Nat) : List (String × Json) :=
  Json.optional "slot" (slot.map fun n => .integer n)

/-- The printed value of a field; the kind of a container. -/
def valueJson : FieldValue → Json
  | .text chars => textJson chars
  | .scalar chars => textJson chars
  | .container kind => .string kind.name

/-- The members for the class of a field. -/
def highlightMembers (h : Highlight) : List (String × Json) :=
  let group := Grouping.ofHighlight h
  [("class", .string h.name)] ++ slotMember h.slot? ++
    [("group", .object ([("role", .string group.name)] ++ slotMember group.slot?))]

/-- A field with its class. -/
def fieldJson (entry : Field × Option Highlight) : Json :=
  let (f, highlight) := entry
  .object <|
    [("name", textJson f.name), ("type", .string f.value.typeName), ("value", valueJson f.value),
     ("depth", .integer f.depth)] ++
    (highlight.map highlightMembers).getD []

/-- A record. -/
def recordJson (r : OpenRecord) : Json :=
  .object
    [("kind", .string LineKind.command.name), ("header", textJson r.header),
     ("fields", .array (r.fields.reverse.map fieldJson))]

/-- A line that belongs to no record. -/
def lineJson (text : List Char) (kind : LineKind) : Json :=
  .object [("kind", .string kind.name), ("line", textJson text)]

/-- A value on a line of its own. -/
def lineOf (value : Json) : List Char := value.chars ++ ['\n']

/-- A record with one more field. -/
def addField (open? : Option OpenRecord) (entry : Field × Option Highlight) : Option OpenRecord :=
  open?.map fun r => { r with fields := entry :: r.fields }

/-- What is written for an event, and the record behind it. -/
def step (open? : Option OpenRecord) : Event → List Char × Option OpenRecord
  | .line text kind => (lineOf (lineJson text kind), open?)
  | .header text => ([], some ⟨Text.trim text, []⟩)
  | .field f highlight => ([], addField open? (f, highlight))
  | .inlineField f highlight => ([], addField open? (f, highlight))
  | .literal _ => ([], open?)
  | .endLine => ([], open?)
  | .endRecord =>
    match open? with
    | some r => (lineOf (recordJson r), none)
    | none => ([], none)

end JsonLines

end MotionLink
