import MotionLink.Proofs.Log.Markup
import MotionLink.Proofs.Terminal.Failure

/-!
# Nothing visible is lost

Shown as text without color, a log is what came, in order: only blanks and markers may be added or
left out. A line takes one of many ways to the screen, whole or in pieces, alone or as a part of a
block that it opens or ends, and each way shows all of it. Commands shown as JSON are laid out
anew and are not told about here.

## Main definitions

* `Styled.visible` — the characters of a text that are neither blanks nor markers
* `Styled.plain` — what is written for some events without color
* `Router.routed` — the lines that are routed for what a router is given

## Main results

* `Segment.visible_ofLine` — the pieces of a line are the line
* `Styled.visible_line` — so is what is shown for a line
* `Terminal.visible_written` — so is all that is shown for whatever a router is given
-/

namespace MotionLink

/-! ### Visible characters -/

namespace Styled

/-- The characters of a text that are neither blanks nor markers. -/
def visible (chars : List Char) : List Char :=
  chars.filter fun c => !(Text.isBlank c || Segment.isMarker c)

theorem visible_append (chars more : List Char) :
    visible (chars ++ more) = visible chars ++ visible more :=
  List.filter_append chars more

theorem visible_eq_nil {chars : List Char}
    (h : ∀ c ∈ chars, Text.isBlank c = true ∨ Segment.isMarker c = true) : visible chars = [] := by
  refine List.filter_eq_nil_iff.mpr fun c hc => ?_
  rcases h c hc with hc | hc <;> simp [hc]

theorem visible_of_isAllBlank {chars : List Char} (h : Text.isAllBlank chars = true) :
    visible chars = [] :=
  visible_eq_nil fun c hc => .inl (List.all_eq_true.mp h c hc)

theorem visible_newline : visible ['\n'] = [] := by decide

theorem visible_marker {c : Char} (h : Segment.isMarker c = true) : visible [c] = [] :=
  visible_eq_nil (List.forall_mem_singleton.mpr (.inr h))

/-- What stands around a marker is all that is visible. -/
theorem visible_append_marker {c : Char} (h : Segment.isMarker c = true) (chars more : List Char) :
    visible (chars ++ c :: more) = visible chars ++ visible more := by
  rw [List.append_cons, visible_append, visible_append, visible_marker h, List.append_nil]

theorem visible_without_markers (chars : List Char) :
    visible (chars.filter fun c => !Segment.isMarker c) = visible chars := by
  rw [visible, List.filter_filter, visible]
  refine List.filter_congr fun c _ => ?_
  cases Text.isBlank c <;> cases Segment.isMarker c <;> rfl

end Styled

open Styled

/-! ### Pieces of a line -/

namespace Segment

/-- The text of a piece. -/
def chars : Segment → List Char
  | literal chars => chars
  | field f => f.value.chars

theorem flatMap_chars_literal? (text : List Char) : (literal? text).flatMap chars = text := by
  rw [literal?]
  split
  · rename_i hempty
    rw [List.isEmpty_iff.mp hempty]
    rfl
  · exact List.append_nil text

theorem visible_ofLineNamed (name line : List Char) :
    visible ((ofLineNamed name line).flatMap chars) = visible line := by
  fun_induction ofLineNamed name line with
  | case1 name line hopen => rw [flatMap_chars_literal?, visible_without_markers]
  | case2 name line label opened hopen hclose =>
    rw [flatMap_chars_literal?, visible_without_markers]
  | case3 name line label opened hopen value rest hclose name' ih =>
    -- The line is the label, the value between its markers, and the rest.
    have hline : visible line = visible label ++ (visible value ++ visible rest) := by
      rw [Text.eq_append_of_cutAtChar hopen, visible_append_marker rfl,
        Text.eq_append_of_cutAtChar hclose, visible_append_marker rfl]
    rw [List.flatMap_append, flatMap_chars_literal?, List.flatMap_cons, visible_append,
      visible_append, ih, hline, chars, chars_ofText]

/-- The pieces of a line are the line. -/
theorem visible_ofLine (line : List Char) : visible ((ofLine line).flatMap chars) = visible line :=
  visible_ofLineNamed [] line

end Segment

/-! ### One line -/

namespace Styled

/-- What is written for some events without color. -/
def plain (events : List Event) : List Char := events.flatMap (chars false)

theorem plain_append (events more : List Event) :
    plain (events ++ more) = plain events ++ plain more :=
  List.flatMap_append

theorem paint_plain (color : Option (List Char)) (text : List Char) :
    paint false color text = text := by
  cases color <;> rfl

theorem visible_plain_line (text : List Char) (kind : LineKind) :
    visible (plain [.line text kind]) = visible text := by
  rw [plain, List.flatMap_singleton, chars, paint_plain, visible_append, visible_newline,
    List.append_nil]

theorem visible_plain_header (text : List Char) :
    visible (plain [.header text]) = visible text := by
  rw [plain, List.flatMap_singleton, chars, paint_plain, visible_append, visible_newline,
    List.append_nil]

variable (router : Router)

theorem plain_segmentEvents (tally : Tally) (segments : List Segment) :
    plain (Router.segmentEvents tally segments).1 = segments.flatMap Segment.chars := by
  induction segments generalizing tally with
  | nil => rfl
  | cons segment rest ih =>
    cases segment with
    | literal text => exact congrArg (text ++ ·) (ih tally)
    | field f =>
      change paint false _ f.value.chars ++ plain _ = _
      rw [paint_plain, ih]
      rfl

theorem visible_segments (text : List Char) :
    visible (plain (router.segments text).1) = visible text := by
  change visible (plain ((Router.segmentEvents router.tally (Segment.ofLine text)).1 ++
    [.endLine])) = visible text
  rw [plain_append, visible_append, plain_segmentEvents, Segment.visible_ofLine]
  exact List.append_nil _

theorem visible_close : visible (plain router.close.1) = [] := by
  rw [Router.close]
  split <;> rfl

theorem append_splitHeader (text : List Char) :
    (Router.splitHeader text).1 ++ (Router.splitHeader text).2 = text := by
  rw [Router.splitHeader]
  split
  · rename_i hcut
    exact (Text.eq_append_of_cutAt hcut).symm
  · exact List.append_nil text

/-- The line that opens a block is shown up to its phrase, and then what follows. -/
theorem visible_opened (text : List Char) :
    visible (plain (router.opened text).2.1) = visible text := by
  have hsplit := append_splitHeader text
  simp only [Router.opened]
  generalize Router.splitHeader text = split at hsplit ⊢
  obtain ⟨header, rest⟩ := split
  obtain rfl : header ++ rest = text := hsplit
  dsimp only
  split
  · rename_i hblank
    rw [visible_plain_header, visible_append, visible_of_isAllBlank hblank, List.append_nil]
  · have hpieces := visible_segments { router with tally := .start, inRecord := true } rest
    generalize Router.segments { router with tally := .start, inRecord := true } rest = shown
      at hpieces ⊢
    obtain ⟨events, behind⟩ := shown
    dsimp only at hpieces ⊢
    have hclosing : ∀ closing, visible (plain closing) = [] →
        visible (plain (.header header :: events ++ closing)) = visible (header ++ rest) := by
      intro closing hclosing
      change visible (plain ([.header header] ++ events ++ closing)) = _
      rw [plain_append, plain_append, visible_append, visible_append, visible_plain_header,
        hpieces, hclosing, List.append_nil, visible_append]
    split
    · exact hclosing _ (visible_close behind)
    · exact hclosing [] rfl

variable {router} {text : List Char}

/-- A line that shows no command as JSON is shown whole while no block is open. -/
theorem visible_freeLine (h : Text.occurs Embedding.serializedPhrase text = false) :
    visible (plain (router.freeLine text).2.1) = visible text := by
  rw [Router.freeLine]
  split
  · rename_i hserialized
    rw [Embedding.ofLine?, h] at hserialized
    cases hdelimited : Text.occurs Embedding.delimitedPhrase text <;>
      simp [hdelimited] at hserialized
  · exact visible_opened router text
  · exact visible_plain_line text _

theorem visible_blockLine (text : List Char) :
    visible (plain (router.blockLine text).2.1) = visible text := by
  rw [Router.blockLine]
  split
  · change visible (plain ([.literal text, .endLine] ++ router.close.1)) = visible text
    rw [plain_append, visible_append, visible_close, List.append_nil]
    change visible (text ++ ['\n']) = visible text
    rw [visible_append, visible_newline, List.append_nil]
  · dsimp only
    split
    · exact visible_plain_line text _
    · exact visible_segments router text

/-- What is shown for a line is the line. -/
theorem visible_line (h : Text.occurs Embedding.serializedPhrase text = false) :
    visible (plain (router.line text).2.1) = visible text := by
  rw [Router.line]
  split
  · exact visible_blockLine text
  · change visible (plain (router.close.1 ++ (router.close.2.freeLine text).2.1)) = visible text
    rw [plain_append, visible_append, visible_close, List.nil_append, visible_freeLine h]

/-! ### Whole histories -/

theorem visible_lines (router : Router) {all : List (List Char)}
    (h : ∀ text ∈ all, Text.occurs Embedding.serializedPhrase text = false) :
    visible (plain (router.lines all).1) = visible all.flatten := by
  induction all generalizing router with
  | nil => rfl
  | cons text all ih =>
    obtain ⟨htext, hall⟩ := List.forall_mem_cons.mp h
    rw [Router.lines_cons, plain_append, visible_append, visible_line htext, ih _ hall,
      List.flatten_cons, visible_append]

end Styled

namespace Router

/-- The lines that are routed for what a router is given. -/
def linesOf (router : Router) : Input → List (List Char)
  | .line text => [text]
  | .chunk bytes => (router.buffer.push bytes).1
  | .flush => router.buffer.flush.1.toList

/-- All lines that are routed, in order. -/
def routed (router : Router) : List Input → List (List Char)
  | [] => []
  | input :: rest => router.linesOf input ++ (router.take input).2.routed rest

theorem visible_take (router : Router) (input : Input)
    (h : ∀ text ∈ router.linesOf input, Text.occurs Embedding.serializedPhrase text = false) :
    visible (plain (router.take input).1) = visible (router.linesOf input).flatten := by
  cases input with
  | line text =>
    rw [linesOf, List.flatten_singleton]
    exact visible_line (h text List.mem_cons_self)
  | chunk bytes => exact visible_lines _ h
  | flush =>
    -- The end of a block is told but not written.
    rw [take, flush_eq, plain_append, visible_append, visible_close, List.append_nil]
    exact visible_lines _ h

theorem visible_run (router : Router) (inputs : List Input)
    (h : ∀ text ∈ router.routed inputs, Text.occurs Embedding.serializedPhrase text = false) :
    visible (plain (router.run inputs).1) = visible (router.routed inputs).flatten := by
  induction inputs generalizing router with
  | nil => rfl
  | cons input rest ih =>
    rw [routed] at h ⊢
    obtain ⟨hfirst, hrest⟩ := List.forall_mem_append.mp h
    rw [run, plain_append, visible_append, visible_take router input hfirst, ih _ hrest,
      List.flatten_append, visible_append]

end Router

/-! ### The output -/

namespace Display

theorem output_styled (inColor : Bool) (events : List Event) :
    (styled inColor).output events = Utf8.encode (events.flatMap (chars inColor)) := by
  induction events with
  | nil => rfl
  | cons e rest ih =>
    rw [List.flatMap_cons, Utf8.encode_append, ← ih]
    rfl

end Display

namespace Terminal

/-- An output that does not fail has taken what is written for the events. -/
theorem written_styled {inColor : Bool} {events : List Event} {capacity : Option Nat}
    {refusal : Fault}
    (h : (showAll ⟨.styled inColor, .ofCapacity capacity refusal⟩ events).outlet.failed = false) :
    (showAll ⟨.styled inColor, .ofCapacity capacity refusal⟩ events).outlet.written.toList =
      Utf8.encode (events.flatMap (chars inColor)) := by
  rw [showAll, foldl_showEvent] at h ⊢
  rw [(Outlet.written_put h).2, Display.output_styled]
  rfl

theorem decode_written {events : List Event} {capacity : Option Nat} {refusal : Fault}
    (h : (showAll ⟨.styled false, .ofCapacity capacity refusal⟩ events).outlet.failed = false) :
    Utf8.decode
        (showAll ⟨.styled false, .ofCapacity capacity refusal⟩ events).outlet.written.toList =
      plain events := by
  rw [written_styled h]
  exact Utf8.decode_encode (plain events)

/-- Shown without color on an output that does not fail, the lines that a router was given are what
they were, blanks and markers apart, unless one of them shows a command as JSON. -/
theorem visible_written (inputs : List Router.Input) (capacity : Option Nat) (refusal : Fault)
    (hlines : ∀ text ∈ Router.start.routed inputs,
      Text.occurs Embedding.serializedPhrase text = false)
    (hout : (showAll ⟨.styled false, .ofCapacity capacity refusal⟩
      (Router.start.run inputs).1).outlet.failed = false) :
    visible (Utf8.decode (showAll ⟨.styled false, .ofCapacity capacity refusal⟩
        (Router.start.run inputs).1).outlet.written.toList) =
      visible (Router.start.routed inputs).flatten := by
  rw [decode_written hout]
  exact Router.visible_run Router.start inputs hlines

/-- A block with a notice, a stray marker and a value that is not closed in it, cut into chunks
inside its lines. -/
theorem visible_written_of_block :
    let inputs : List Router.Input := [.chunk (Utf8.octets "ParsedCommand \x7b ID: \x1aa\x1b\nERR"),
      .chunk (Utf8.octets "OR\n\x1bJ1=\x1a 5\x1b, J2=\x1a6\n \x7d"), .flush]
    (∀ text ∈ Router.start.routed inputs,
        Text.occurs Embedding.serializedPhrase text = false) ∧
      visible (Utf8.decode (showAll ⟨.styled false, .unlimited⟩
        (Router.start.run inputs).1).outlet.written.toList) =
          "ParsedCommand\x7bID:aERRORJ1=5,J2=6\x7d".toList := by
  intro inputs
  have hlines : ∀ text ∈ Router.start.routed inputs,
      Text.occurs Embedding.serializedPhrase text = false := by decide +kernel
  refine ⟨hlines, ?_⟩
  have hwritten := visible_written inputs none (.ofKind .other) hlines (by decide +kernel)
  refine Eq.trans hwritten ?_
  decide +kernel

end Terminal

end MotionLink
