import MotionLink.Json.Value
import MotionLink.Text.Blank
import MotionLink.Text.Search

/-!
# Replies of the controller

## Main definitions

* `Reply` — a reply, classified by its first word
* `Reply.ofText` — classify a reply
-/

namespace MotionLink

/-- The outcome that a reply reports. -/
inductive ReplyStatus where
  /-- the controller is ready for a command -/
  | free
  /-- the controller refused the command -/
  | error
  | other
deriving DecidableEq

namespace ReplyStatus

/-- The name of an outcome. -/
def name : ReplyStatus → String
  | free => "free"
  | error => "error"
  | other => "other"

/-- The outcome that a word names, in either case. -/
def ofWord (word : List Char) : ReplyStatus :=
  let word := Text.lower word
  if word = ['f', 'r', 'e', 'e'] then free
  else if word = ['e', 'r', 'r', 'o', 'r'] then error
  else other

end ReplyStatus

/-- A reply of the controller. -/
structure Reply where
  status : ReplyStatus
  /-- the reply without blanks and terminators around it -/
  text : String
  /-- what follows the first bar -/
  detail : Option String
deriving DecidableEq

namespace Reply

/-- A reply without blanks around it, then without terminators, then without blanks again: the
terminator has been seen before and behind a reply. -/
def strip (raw : List Char) : List Char :=
  Text.trim (Text.trimBy (· == '#') (Text.trim raw))

/-- Classify a reply by the word before its first bar. -/
def ofText (raw : String) : Reply :=
  let text := strip raw.toList
  match Text.cutAtChar '|' text with
  | some (head, rest) =>
    ⟨.ofWord (Text.trim head), String.ofList text, some (String.ofList (Text.trim rest))⟩
  | none => ⟨.ofWord text, String.ofList text, none⟩

/-- The controller is ready for a command. -/
def isFree (r : Reply) : Bool := r.status == .free

/-- The controller refused the command. -/
def isError (r : Reply) : Bool := r.status == .error

/-- The JSON form. -/
def toJson (r : Reply) : Json :=
  .object ([("status", .string r.status.name), ("text", .string r.text)] ++
    Json.optional "detail" (r.detail.map .string))

end Reply

end MotionLink
