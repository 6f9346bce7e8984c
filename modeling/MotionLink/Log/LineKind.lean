import MotionLink.Text.Search

/-!
# Kinds of log lines

A line is told by the phrases in it. A line with several of them is of the first kind.

## Main definitions

* `Embedding`, `Embedding.ofLine?` — how a line shows a command
* `LineKind`, `LineKind.ofLine` — the kind of a line
-/

namespace MotionLink

/-- How a line shows a command. -/
inductive Embedding where
  /-- as a JSON object -/
  | serialized
  /-- as the first line of a block whose values stand between markers -/
  | delimited
deriving DecidableEq

namespace Embedding

/-- Stands before a JSON object. -/
def serializedPhrase : List Char := "Successfully parsed command:".toList

/-- Opens a block. -/
def delimitedPhrase : List Char := "ParsedCommand \x7b".toList

/-- How a line shows a command, if it does. -/
def ofLine? (line : List Char) : Option Embedding :=
  if Text.occurs serializedPhrase line then some serialized
  else if Text.occurs delimitedPhrase line then some delimited
  else none

end Embedding

/-- The kind of a line. -/
inductive LineKind where
  /-- shows a command -/
  | command
  | error
  | warning
  /-- tells of a connection, or of something sent or received -/
  | info
  | plain
deriving DecidableEq

namespace LineKind

/-- The name of a kind. -/
def name : LineKind → String
  | command => "structured_command"
  | error => "error"
  | warning => "warning"
  | info => "info"
  | plain => "plain"

/-- The phrases of an error. -/
def errorPhrases : List (List Char) := ["Error:".toList, "ERROR".toList]

/-- The phrases of a warning. -/
def warningPhrases : List (List Char) := ["Warning:".toList, "WARN".toList]

/-- The phrases of a notice. -/
def infoPhrases : List (List Char) :=
  ["Sent".toList, "Received".toList, "Connected".toList, "connected".toList]

/-- One of the phrases stands in the line. -/
def mentions (phrases : List (List Char)) (line : List Char) : Bool :=
  phrases.any fun phrase => Text.occurs phrase line

/-- The kind of a line that shows no command. -/
def ofPhrases (line : List Char) : LineKind :=
  if mentions errorPhrases line then error
  else if mentions warningPhrases line then warning
  else if mentions infoPhrases line then info
  else plain

/-- The kind of a line. -/
def ofLine (line : List Char) : LineKind :=
  match Embedding.ofLine? line with
  | some _ => command
  | none => ofPhrases line

end LineKind

end MotionLink
