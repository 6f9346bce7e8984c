import MotionLink.Command.Decode
import MotionLink.Command.Reply
import MotionLink.CommandLine.Invocation
import MotionLink.Terminal.Table

/-!
# What is printed

## Main definitions

* `SentReport` — a command with the reply to it, if it was sent
* `Decoded.report` — a command read back
* `Build.report` — the version
-/

namespace MotionLink

/-- A command with the reply to it, if it was sent. -/
structure SentReport where
  id : String
  payload : String
  reply : Option Reply

namespace SentReport

/-- The word for an outcome. -/
def statusWord : ReplyStatus → String
  | .free => "FREE"
  | .error => "ERROR"
  | .other => "OTHER"

/-- The report as JSON. -/
def toJson (r : SentReport) : Json :=
  .object <|
    [("id", .string r.id), ("payload", .string r.payload)] ++
    Json.optional "response" (r.reply.map Reply.toJson) ++
    [("sent", .bool r.reply.isSome)]

/-- The report as a table. -/
def toTable (r : SentReport) : Table :=
  let status := match r.reply with
    | some reply => statusWord reply.status
    | none => "not sent"
  let text := match r.reply with
    | some reply => reply.text
    | none => ""
  ⟨["ID", "PAYLOAD", "STATUS", "REPLY"], [[r.id, r.payload, status, text]]⟩

/-- The report on one line. -/
def toLine (r : SentReport) : String :=
  match r.reply with
  | some reply =>
    s!"id={r.id} status={statusWord reply.status} reply={reply.text} payload={r.payload}"
  | none => s!"id={r.id} payload={r.payload}"

/-- The bare reply; what would be sent, when nothing was. -/
def toRaw (r : SentReport) : String :=
  match r.reply with
  | some reply => reply.text
  | none => r.payload ++ "#"

/-- The report in a form, with the line end behind it. -/
def write (form : OutputForm) (r : SentReport) : String :=
  match form with
  | .json => r.toJson.write ++ "\n"
  | .table => r.toTable.write ++ "\n"
  | .pretty => r.toLine ++ "\n"
  | .raw => r.toRaw ++ "\n"

end SentReport

namespace Decoded

/-- The components of the points, from place `index` on. -/
def pointRows (index : Nat) : List Point → List (String × String)
  | [] => []
  | p :: rest =>
    (s!"point {index}", ", ".intercalate (p.components.map Binary64.wireText)) ::
      pointRows (index + 1) rest

/-- A row that is left out when there is nothing in it. -/
def rowUnlessEmpty (name value : String) : List (String × String) :=
  if value.isEmpty then [] else [(name, value)]

/-- The rows for what switches an output. -/
def outputRows (o : OutputSlots) : List (String × String) :=
  [("io point", o.point), ("io pin", o.pin), ("io state", if o.state then "true" else "false")]

/-- The names and values of a command. -/
def rows (d : Decoded) : List (String × String) :=
  [("action", d.action.describe), ("points", toString d.pointCount)] ++
    pointRows 1 d.points ++
    (d.output?.map outputRows).getD [] ++
    (d.program?.map fun name => [("program", name)]).getD [] ++
    rowUnlessEmpty "tool" d.tool ++
    rowUnlessEmpty "base" d.base ++
    (d.speed.map fun x => [("speed", x.wireText)]).getD [] ++
    [("id", d.id)]

/-- Names and values, a line for each. -/
def linesOf (rows : List (String × String)) : String :=
  String.join (rows.map fun (name, value) => name ++ ": " ++ value ++ "\n")

/-- The command in a form. -/
def report (form : OutputForm) (d : Decoded) : String :=
  match form with
  | .json => d.toJson.write ++ "\n"
  | .table =>
    let table : Table := ⟨["FIELD", "VALUE"], d.rows.map fun (name, value) => [name, value]⟩
    table.write ++ "\n"
  | .pretty | .raw => linesOf d.rows

end Decoded

/-- What a program was built from. -/
structure Build where
  name : String
  version : String
  target : String
  targetOs : String
  targetArch : String
  compiler : String
  revision : String

namespace Build

/-- This program. -/
def this : Build := ⟨"armlink", "0.1.0", "unknown", "linux", "x86_64", "unknown", "unknown"⟩

/-- Everything known about a build, by name. -/
def entries (b : Build) : List (String × String) :=
  [("name", b.name), ("version", b.version), ("target", b.target), ("target_os", b.targetOs),
   ("target_arch", b.targetArch), ("rustc", b.compiler), ("git_hash", b.revision)]

/-- The version alone, or everything known. -/
def report (form : OutputForm) (extended : Bool) (b : Build) : String :=
  if !extended then b.name ++ " " ++ b.version ++ "\n"
  else
    match form with
    | .json => (Json.object (b.entries.map fun (n, v) => (n, .string v))).write ++ "\n"
    | _ => Decoded.linesOf b.entries

end Build

end MotionLink
