import MotionLink.Log.Highlight
import MotionLink.Log.LineBuffer
import MotionLink.Log.Payload
import MotionLink.Log.Segment

/-!
# Routing the log

Lines of a controller log are passed on as events. A line that shows a command as JSON becomes a
record; a block becomes a record that stays open until a line with nothing but its closing brace.
Other lines may stand between those of a block. A line that says it shows a command but does not
is passed on as it is.

## Main definitions

* `Event` — what is shown to the operator
* `Router` — the state between two lines
* `Router.line`, `Router.feed`, `Router.flush` — a line, a chunk, the end of the stream
-/

namespace MotionLink

/-- What is shown to the operator. -/
inductive Event where
  /-- a line that belongs to no record -/
  | line (chars : List Char) (kind : LineKind)
  /-- begins a record -/
  | header (chars : List Char)
  /-- a field on a line of its own -/
  | field (field : Field) (highlight : Option Highlight)
  /-- text on a line of a block -/
  | literal (chars : List Char)
  /-- a value on a line of a block -/
  | inlineField (field : Field) (highlight : Option Highlight)
  /-- ends a line of a block -/
  | endLine
  /-- ends a record -/
  | endRecord
deriving DecidableEq

/-- The state between two lines. -/
structure Router where
  tally : Tally
  buffer : LineBuffer
  /-- a block is open -/
  inRecord : Bool

namespace Router

/-- Before the first line. -/
def start : Router := ⟨.start, .ofLimit LineBuffer.defaultLimit, false⟩

/-- End the record, if a block is open. -/
def close (router : Router) : List Event × Router :=
  if router.inRecord then ([.endRecord], { router with inRecord := false }) else ([], router)

/-- The fields of a record, each on a line of its own. -/
def fieldEvents (tally : Tally) : List Field → List Event × Tally
  | [] => ([], tally)
  | f :: rest =>
    let (highlight, tally) := tally.classify f
    let (events, tally) := fieldEvents tally rest
    (.field f highlight :: events, tally)

/-- The pieces of a line of a block. -/
def segmentEvents (tally : Tally) : List Segment → List Event × Tally
  | [] => ([], tally)
  | .literal chars :: rest =>
    let (events, tally) := segmentEvents tally rest
    (.literal chars :: events, tally)
  | .field f :: rest =>
    let (highlight, tally) := tally.classify f
    let (events, tally) := segmentEvents tally rest
    (.inlineField f highlight :: events, tally)

/-- A text on a line of a block, piece by piece. -/
def segments (router : Router) (chars : List Char) : List Event × Router :=
  let (events, tally) := segmentEvents router.tally (Segment.ofLine chars)
  (events ++ [.endLine], { router with tally })

/-- A line that says it shows a command as JSON. -/
def serialized (router : Router) (chars : List Char) : LineKind × List Event × Router :=
  match Payload.ofLine chars with
  | .error _ => (.plain, [.line chars .plain], router)
  | .ok payload =>
    let (events, tally) := fieldEvents .start payload.fields
    (.command, .header payload.header :: events ++ [.endRecord], { router with tally })

/-- The line up to the end of the phrase that opens a block, and the text behind it. -/
def splitHeader (chars : List Char) : List Char × List Char :=
  match Text.cutAt Embedding.delimitedPhrase chars with
  | some (before, rest) => (before ++ Embedding.delimitedPhrase, rest)
  | none => (chars, [])

/-- A line that opens a block, and may close it too. -/
def opened (router : Router) (chars : List Char) : LineKind × List Event × Router :=
  let (header, rest) := splitHeader chars
  let router := { router with tally := .start, inRecord := true }
  if Text.isAllBlank rest then (.command, [.header header], router)
  else
    let (events, router) := router.segments rest
    let (closing, router) :=
      if (Text.trimEnd rest).getLast? = some '\x7d' then router.close else ([], router)
    (.command, .header header :: events ++ closing, router)

/-- A line while no block is open. -/
def freeLine (router : Router) (chars : List Char) : LineKind × List Event × Router :=
  match Embedding.ofLine? chars with
  | some .serialized => router.serialized chars
  | some .delimited => router.opened chars
  | none =>
    let kind := LineKind.ofPhrases chars
    (kind, [.line chars kind], router)

/-- A line inside a block that opens no other one. Without a value in it, and with a phrase of
another kind, it does not belong to the block. -/
def blockLine (router : Router) (chars : List Char) : LineKind × List Event × Router :=
  if Text.trim chars = ['\x7d'] then
    let (closing, router) := router.close
    (.command, [.literal chars, .endLine] ++ closing, router)
  else
    -- Other notices of the controller may come between the lines of a block.
    let kind := LineKind.ofPhrases chars
    if !chars.contains Segment.opening && kind != .plain then (kind, [.line chars kind], router)
    else
      let (events, router) := router.segments chars
      (.command, events, router)

/-- One line: the kind it was taken for, and what is shown for it. A line that shows a command
ends the block before it. -/
def line (router : Router) (chars : List Char) : LineKind × List Event × Router :=
  if router.inRecord && (Embedding.ofLine? chars).isNone then router.blockLine chars
  else
    let (closing, router) := router.close
    let (kind, events, router) := router.freeLine chars
    (kind, closing ++ events, router)

/-- One line behind others for which some events are shown. -/
def lineOnto (shown : Array Event × Router) (chars : List Char) : Array Event × Router :=
  let (events, router) := shown
  let (_, more, router) := router.line chars
  (more.foldl Array.push events, router)

/-- Lines in order. -/
def lines (router : Router) (all : List (List Char)) : List Event × Router :=
  let (events, router) := all.foldl lineOnto (#[], router)
  (events.toList, router)

/-- A chunk of the stream: its complete lines are routed, the rest waits. -/
def feed (router : Router) (chunk : Bytes) : List Event × Router :=
  let ⟨tally, buffer, inRecord⟩ := router
  let (all, buffer) := buffer.push chunk
  lines ⟨tally, buffer, inRecord⟩ all

/-- The end of the stream: the line that waits is routed, and an open block ends. -/
def flush (router : Router) : List Event × Router :=
  let (last, buffer) := router.buffer.flush
  let (events, router) := lines { router with buffer } last.toList
  let (closing, router) := router.close
  (events ++ closing, router)

end Router

end MotionLink
