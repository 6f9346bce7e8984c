import MotionLink.Number.Decimal
import MotionLink.Text.Blank
import MotionLink.Text.Quoted
import MotionLink.Command.Intent
import MotionLink.CommandLine.Exit

/-!
# Values on the command line

## Main definitions

* `SwitchWord.read` — the position of a switch
* `Point.read` — the components of a point
-/

namespace MotionLink

namespace SwitchWord

/-- The words for a closed switch. -/
def onWords : List (List Char) := ["on".toList, "true".toList, "1".toList, "high".toList]

/-- The words for an open switch. -/
def offWords : List (List Char) := ["off".toList, "false".toList, "0".toList, "low".toList]

/-- The position of a switch, in either case; or what is said about another word. -/
def read (s : String) : Except String Bool :=
  let word := Text.lower (Text.trim s.toList)
  if onWords.contains word then .ok true
  else if offWords.contains word then .ok false
  else .error ("expected on or off, got " ++ Text.quoted (String.ofList word))

end SwitchWord

namespace Point

/-- Stands between the components of a point on the command line. -/
def isSeparator (c : Char) : Bool := c == ',' || c == ';'

/-- One component. -/
def readNumber (whole : String) (part : List Char) : Except Failure Binary64 :=
  match Binary64.read part with
  | some x => .ok x
  | none =>
    let shown := Text.quoted (String.ofList part)
    .error ⟨ExitCode.usage, s!"invalid point value {shown} in {Text.quoted whole}"⟩

/-- The components of a point; a component of blanks only does not count. -/
def read (whole : String) : Except Failure Point := do
  let parts := (whole.toList.splitOnP isSeparator).map Text.trim
  let components ← (parts.filter fun part => !part.isEmpty).mapM (readNumber whole)
  pure ⟨components⟩

end Point

end MotionLink
