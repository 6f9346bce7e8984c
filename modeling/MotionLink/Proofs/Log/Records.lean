import Mathlib.Computability.RegularExpressions
import MotionLink.Proofs.Log.Chunks

/-!
# Records are well formed

What a router shows follows a grammar: single lines, records shown at once, and blocks, of which
the last one may still be open. A line can come at any moment, also one that ends a block and opens
the next, and it does one of a few things. These are told once, and the grammar follows from them.

## Main definitions

* `Mark` — an event without what it holds
* `Mark.log`, `Mark.upTo` — the grammar of what is shown, and where it may stop
* `Mark.edges` — the beginnings and ends of records
* `Router.Turn` — what one line can come to
* `Router.WellFormed` — what is to be expected of all that a router shows

## Main results

* `Mark.mem_upTo_iff` — a word tells whether it ends inside a block
* `Router.turn_line` — every line comes to one of these things
* `Router.run_wellFormed` — whatever a router is given, it shows well-formed records
-/

namespace MotionLink

/-! ### The grammar -/

/-- An event without what it holds. -/
inductive Mark where
  | line
  | header
  | field
  | literal
  | inlineField
  | endLine
  | endRecord
deriving DecidableEq

/-- What kind of event it is. -/
def Event.mark : Event → Mark
  | line .. => .line
  | header .. => .header
  | field .. => .field
  | literal .. => .literal
  | inlineField .. => .inlineField
  | endLine => .endLine
  | endRecord => .endRecord

namespace Mark

open RegularExpression

/-- A record shown at once. -/
def record : RegularExpression Mark := char header * star (char field) * char endRecord

/-- The pieces of a line of a block. -/
def pieces : RegularExpression Mark := star (char literal + char inlineField)

/-- What may stand inside a block: a line that does not belong to it, or one that does. -/
def blockLine : RegularExpression Mark := char line + pieces * char endLine

/-- A block that has not ended. -/
def openBlock : RegularExpression Mark := char header * star blockLine

/-- What may stand in a log, one behind the other. -/
def item : RegularExpression Mark := char line + record + openBlock * char endRecord

/-- What is shown of a log while no block is open. -/
def log : RegularExpression Mark := star item

/-- What is shown of a log, given whether a block is open. -/
def upTo (inRecord : Bool) : RegularExpression Mark := if inRecord then log * openBlock else log

variable {word more : List Mark}

theorem append_mem_star {p : RegularExpression Mark} (hword : word ∈ p.star.matches')
    (hmore : more ∈ p.matches') : word ++ more ∈ p.star.matches' :=
  kstar_mul_le_kstar (a := p.matches') (Language.append_mem_mul hword hmore)

theorem mem_star_char {p : RegularExpression Mark} (h : ∀ m ∈ word, [m] ∈ p.matches') :
    word ∈ p.star.matches' := by
  refine Language.mem_kstar.mpr ⟨word.map ([·]), (List.flatMap_singleton' word).symm, ?_⟩
  exact List.forall_mem_map.mpr h

theorem append_mem_openBlock (hword : word ∈ (upTo true).matches')
    (hmore : more ∈ blockLine.matches') : word ++ more ∈ (upTo true).matches' := by
  obtain ⟨before, hbefore, block, ⟨header, hheader, lines, hlines, rfl⟩, rfl⟩ := hword
  refine ⟨before, hbefore, header ++ (lines ++ more),
    ⟨header, hheader, lines ++ more, append_mem_star hlines hmore, rfl⟩, ?_⟩
  simp only [List.append_assoc]

/-- A line of no record may be shown at any moment. -/
theorem append_line_mem {inRecord : Bool} (h : word ∈ (upTo inRecord).matches') :
    word ++ [line] ∈ (upTo inRecord).matches' := by
  cases inRecord with
  | false => exact append_mem_star h (.inl (.inl rfl))
  | true => exact append_mem_openBlock h (.inl rfl)

theorem append_record_mem (h : word ∈ (upTo false).matches') (hmore : more ∈ record.matches') :
    word ++ more ∈ (upTo false).matches' :=
  append_mem_star h (.inl (.inr hmore))

theorem append_header_mem (h : word ∈ (upTo false).matches') :
    word ++ [header] ∈ (upTo true).matches' :=
  ⟨word, h, [header], ⟨[header], rfl, [], Language.nil_mem_kstar _, rfl⟩, rfl⟩

theorem append_pieces_mem (h : word ∈ (upTo true).matches') (hmore : more ∈ pieces.matches') :
    word ++ (more ++ [endLine]) ∈ (upTo true).matches' :=
  append_mem_openBlock h (.inr ⟨more, hmore, [endLine], rfl, rfl⟩)

theorem append_endRecord_mem (h : word ∈ (upTo true).matches') :
    word ++ [endRecord] ∈ (upTo false).matches' := by
  obtain ⟨before, hbefore, block, hblock, rfl⟩ := h
  change before ++ block ++ [endRecord] ∈ (upTo false).matches'
  rw [List.append_assoc]
  exact append_mem_star hbefore (.inr ⟨block, hblock, [endRecord], rfl, rfl⟩)

/-! ### Beginnings and ends of records -/

/-- The event begins or ends a record. -/
def isEdge : Mark → Bool
  | header | endRecord => true
  | _ => false

/-- The beginnings and ends of records, in order. -/
def edges (word : List Mark) : List Mark := word.filter isEdge

/-- The edges of some records one behind the other. -/
def pairs (count : Nat) : List Mark := (List.replicate count [header, endRecord]).flatten

theorem pairs_add (m n : Nat) : pairs (m + n) = pairs m ++ pairs n := by
  rw [pairs, List.replicate_add, List.flatten_append, ← pairs, ← pairs]

theorem length_pairs (count : Nat) : (pairs count).length = 2 * count := by
  induction count with
  | zero => rfl
  | succ count ih =>
    rw [pairs_add, List.length_append, ih]
    change 2 * count + 2 = 2 * (count + 1)
    omega

theorem edges_append (word more : List Mark) : edges (word ++ more) = edges word ++ edges more :=
  List.filter_append word more

theorem edges_eq_nil (h : ∀ m ∈ word, m.isEdge = false) : edges word = [] :=
  List.filter_eq_nil_iff.mpr fun m hm => Bool.eq_false_iff.mp (h m hm)

theorem forall_mem_of_mem_star {p : RegularExpression Mark} {q : Mark → Prop}
    (hp : ∀ word ∈ p.matches', ∀ m ∈ word, q m) (h : word ∈ p.star.matches') :
    ∀ m ∈ word, q m := by
  obtain ⟨words, rfl, hwords⟩ := Language.mem_kstar.mp h
  intro m hm
  obtain ⟨part, hpart, hm⟩ := List.mem_flatten.mp hm
  exact hp part (hwords part hpart) m hm

theorem isEdge_of_mem_pieces (h : word ∈ pieces.matches') : ∀ m ∈ word, m.isEdge = false := by
  refine forall_mem_of_mem_star ?_ h
  rintro part (rfl | rfl) m hm
  · rw [List.mem_singleton.mp hm]
    rfl
  · rw [List.mem_singleton.mp hm]
    rfl

/-- Nothing inside a block begins or ends a record. -/
theorem edges_blockLines (h : word ∈ (star blockLine).matches') : edges word = [] := by
  refine edges_eq_nil (forall_mem_of_mem_star ?_ h)
  rintro part (rfl | ⟨texts, htexts, last, rfl, rfl⟩) m hm
  · rw [List.mem_singleton.mp hm]
    rfl
  · rcases List.mem_append.mp hm with hm | hm
    · exact isEdge_of_mem_pieces htexts m hm
    · rw [List.mem_singleton.mp hm]
      rfl

theorem edges_openBlock (h : word ∈ openBlock.matches') : edges word = [header] := by
  obtain ⟨first, rfl, lines, hlines, rfl⟩ := h
  change edges ([header] ++ lines) = [header]
  rw [edges_append, edges_blockLines hlines]
  rfl

theorem edges_record (h : word ∈ record.matches') : edges word = [header, endRecord] := by
  obtain ⟨begun, ⟨first, rfl, fields, hfields, rfl⟩, last, rfl, rfl⟩ := h
  have hinside : edges fields = [] := by
    refine edges_eq_nil (forall_mem_of_mem_star ?_ hfields)
    rintro part rfl m hm
    rw [List.mem_singleton.mp hm]
    rfl
  change edges ([header] ++ fields ++ [endRecord]) = [header, endRecord]
  rw [edges_append, edges_append, hinside]
  rfl

/-- What stands in a log ends every record that it begins. -/
theorem exists_edges_item (h : word ∈ item.matches') : ∃ count, edges word = pairs count := by
  rcases h with (rfl | hrecord) | ⟨block, hblock, last, rfl, rfl⟩
  · exact ⟨0, rfl⟩
  · exact ⟨1, edges_record hrecord⟩
  · refine ⟨1, ?_⟩
    change edges (block ++ [endRecord]) = pairs 1
    rw [edges_append, edges_openBlock hblock]
    rfl

theorem exists_edges_log (h : word ∈ log.matches') : ∃ count, edges word = pairs count := by
  -- The items are told apart first, so that the induction is on how many there are.
  obtain ⟨words, rfl, hwords⟩ := Language.mem_kstar.mp h
  clear h
  induction words with
  | nil => exact ⟨0, rfl⟩
  | cons first rest ih =>
    obtain ⟨hfirst, hrest⟩ := List.forall_mem_cons.mp hwords
    obtain ⟨m, hm⟩ := exists_edges_item hfirst
    obtain ⟨n, hn⟩ := ih hrest
    exact ⟨m + n, by rw [List.flatten_cons, edges_append, hm, hn, pairs_add]⟩

/-- Beginnings and ends of records alternate. -/
theorem exists_edges_upTo {inRecord : Bool} (h : word ∈ (upTo inRecord).matches') :
    ∃ count, edges word = pairs count ++ if inRecord then [header] else [] := by
  cases inRecord with
  | false =>
    obtain ⟨count, hcount⟩ := exists_edges_log h
    exact ⟨count, by simpa using hcount⟩
  | true =>
    obtain ⟨before, hbefore, block, hblock, rfl⟩ := h
    obtain ⟨count, hcount⟩ := exists_edges_log hbefore
    refine ⟨count, ?_⟩
    change edges (before ++ block) = pairs count ++ [header]
    rw [edges_append, hcount, edges_openBlock hblock]

/-- A word tells whether it ends inside a block. -/
theorem mem_upTo_iff {inRecord : Bool} (h : word ∈ (upTo inRecord).matches') (other : Bool) :
    word ∈ (upTo other).matches' ↔ inRecord = other := by
  refine ⟨fun hother => ?_, fun heq => heq ▸ h⟩
  obtain ⟨m, hm⟩ := exists_edges_upTo h
  obtain ⟨n, hn⟩ := exists_edges_upTo hother
  -- There is an odd number of edges exactly while a block is open.
  have hlength := congrArg List.length (hm.symm.trans hn)
  cases inRecord <;> cases other
  · rfl
  · simp [length_pairs] at hlength
    omega
  · simp [length_pairs] at hlength
    omega
  · rfl

end Mark

/-! ### One line -/

namespace Router

/-- The events are pieces of a line of a block. -/
def ArePieces (events : List Event) : Prop :=
  ∀ e ∈ events, e.mark = .literal ∨ e.mark = .inlineField

/-- What one line can come to: whether a block is open, the kind the line is taken for, what is
shown, and whether a block is open behind it. -/
inductive Turn : Bool → LineKind → List Event → Bool → Prop where
  /-- the line is passed on -/
  | passed {inRecord : Bool} (chars : List Char) (kind : LineKind) :
      Turn inRecord kind [.line chars kind] inRecord
  /-- a record is shown at once -/
  | record (header : List Char) {fields : List Event} (hfields : ∀ e ∈ fields, e.mark = .field) :
      Turn false .command (.header header :: fields ++ [.endRecord]) false
  /-- a block begins -/
  | begun (header : List Char) : Turn false .command [.header header] true
  /-- a block begins with more on its first line -/
  | begunWith (header : List Char) {events : List Event} (hevents : ArePieces events) :
      Turn false .command (.header header :: (events ++ [.endLine])) true
  /-- a block begins and ends -/
  | whole (header : List Char) {events : List Event} (hevents : ArePieces events) :
      Turn false .command (.header header :: (events ++ [.endLine]) ++ [.endRecord]) false
  /-- the line belongs to the block -/
  | inside {events : List Event} (hevents : ArePieces events) :
      Turn true .command (events ++ [.endLine]) true
  /-- the line ends the block -/
  | ended (chars : List Char) : Turn true .command [.literal chars, .endLine, .endRecord] false
  /-- the block ends before the line, which is then as any other -/
  | cutShort {kind : LineKind} {events : List Event} {behind : Bool}
      (hturn : Turn false kind events behind) : Turn true kind (.endRecord :: events) behind

theorem mark_fieldEvents (tally : Tally) (fields : List Field) :
    ∀ e ∈ (fieldEvents tally fields).1, e.mark = .field := by
  induction fields generalizing tally with
  | nil => exact nofun
  | cons f rest ih => exact List.forall_mem_cons.mpr ⟨rfl, ih (tally.classify f).2⟩

theorem arePieces_segmentEvents (tally : Tally) (segments : List Segment) :
    ArePieces (segmentEvents tally segments).1 := by
  induction segments generalizing tally with
  | nil => exact nofun
  | cons segment rest ih =>
    cases segment with
    | literal chars => exact List.forall_mem_cons.mpr ⟨.inl rfl, ih tally⟩
    | field f => exact List.forall_mem_cons.mpr ⟨.inr rfl, ih (tally.classify f).2⟩

variable {router : Router}

theorem close_of_inRecord (h : router.inRecord = true) :
    router.close = ([.endRecord], { router with inRecord := false }) := if_pos h

theorem close_of_not_inRecord (h : router.inRecord = false) : router.close = ([], router) := by
  rw [close, h, if_neg Bool.false_ne_true]

theorem turn_serialized (h : router.inRecord = false) (chars : List Char) :
    Turn false (router.serialized chars).1 (router.serialized chars).2.1
      (router.serialized chars).2.2.inRecord := by
  rw [serialized]
  rcases Payload.ofLine chars with e | payload
  · change Turn false .plain [.line chars .plain] router.inRecord
    rw [h]
    exact .passed chars .plain
  · change Turn false .command _ router.inRecord
    rw [h]
    exact .record payload.header (mark_fieldEvents .start payload.fields)

theorem turn_opened (router : Router) (chars : List Char) :
    Turn false (router.opened chars).1 (router.opened chars).2.1
      (router.opened chars).2.2.inRecord := by
  have hpieces := arePieces_segmentEvents .start (Segment.ofLine (splitHeader chars).2)
  simp only [opened, segments, close, if_true]
  split
  · exact .begun (splitHeader chars).1
  · split
    · exact .whole (splitHeader chars).1 hpieces
    · simp only [List.append_nil]
      exact .begunWith (splitHeader chars).1 hpieces

theorem turn_freeLine (h : router.inRecord = false) (chars : List Char) :
    Turn false (router.freeLine chars).1 (router.freeLine chars).2.1
      (router.freeLine chars).2.2.inRecord := by
  rw [freeLine]
  rcases Embedding.ofLine? chars with _ | _ | _
  · change Turn false (LineKind.ofPhrases chars) [.line chars (.ofPhrases chars)] router.inRecord
    rw [h]
    exact .passed chars _
  · exact turn_serialized h chars
  · exact turn_opened router chars

theorem turn_blockLine (h : router.inRecord = true) (chars : List Char) :
    Turn true (router.blockLine chars).1 (router.blockLine chars).2.1
      (router.blockLine chars).2.2.inRecord := by
  rw [blockLine]
  split
  · rw [close_of_inRecord h]
    exact .ended chars
  · dsimp only
    split
    · change Turn true (LineKind.ofPhrases chars) [.line chars (.ofPhrases chars)] router.inRecord
      rw [h]
      exact .passed chars _
    · change Turn true .command _ router.inRecord
      rw [h]
      exact .inside (arePieces_segmentEvents router.tally (Segment.ofLine chars))

/-- Every line comes to one of the things told. -/
theorem turn_line (router : Router) (chars : List Char) :
    Turn router.inRecord (router.line chars).1 (router.line chars).2.1
      (router.line chars).2.2.inRecord := by
  rw [line]
  -- A line that does not belong to the open block ends it, and is then read as a free one.
  cases hopen : router.inRecord with
  | false =>
    rw [close_of_not_inRecord hopen]
    exact turn_freeLine hopen chars
  | true =>
    split
    · exact turn_blockLine hopen chars
    · rw [close_of_inRecord hopen]
      exact .cutShort (turn_freeLine rfl chars)

namespace Turn

variable {inRecord behind : Bool} {kind : LineKind} {events : List Event}

theorem marks_mem_pieces (h : ArePieces events) : events.map Event.mark ∈ Mark.pieces.matches' := by
  refine Mark.mem_star_char (List.forall_mem_map.mpr fun e he => ?_)
  rcases h e he with hmark | hmark
  · exact .inl (by rw [hmark]; rfl)
  · exact .inr (by rw [hmark]; rfl)

theorem marks_mem_record {header : List Char} {fields : List Event}
    (h : ∀ e ∈ fields, e.mark = .field) :
    (Event.header header :: fields ++ [Event.endRecord]).map Event.mark ∈
      Mark.record.matches' := by
  rw [List.map_append]
  refine Language.append_mem_mul (Language.append_mem_mul (a := [Mark.header]) rfl ?_) rfl
  refine Mark.mem_star_char (List.forall_mem_map.mpr fun e he => ?_)
  rw [h e he]
  rfl

/-- What a line comes to carries a word of the grammar on. -/
theorem append_mem (h : Turn inRecord kind events behind) {word : List Mark}
    (hword : word ∈ (Mark.upTo inRecord).matches') :
    word ++ events.map Event.mark ∈ (Mark.upTo behind).matches' := by
  -- Only `cutShort` has a turn behind it, which starts where the word has its block ended.
  induction h generalizing word with
  | passed chars kind => exact Mark.append_line_mem hword
  | record header hfields => exact Mark.append_record_mem hword (marks_mem_record hfields)
  | begun header => exact Mark.append_header_mem hword
  | begunWith header hevents =>
    have hbegun := Mark.append_header_mem hword
    simpa [Event.mark] using Mark.append_pieces_mem hbegun (marks_mem_pieces hevents)
  | whole header hevents =>
    have hbegun := Mark.append_header_mem hword
    have hended := Mark.append_pieces_mem hbegun (marks_mem_pieces hevents)
    simpa [Event.mark] using Mark.append_endRecord_mem hended
  | inside hevents =>
    rw [List.map_append]
    exact Mark.append_pieces_mem hword (marks_mem_pieces hevents)
  | ended chars =>
    have hpieces : ArePieces [.literal chars] := List.forall_mem_singleton.mpr (.inl rfl)
    have hended := Mark.append_pieces_mem hword (marks_mem_pieces hpieces)
    simpa [Event.mark] using Mark.append_endRecord_mem hended
  | cutShort hturn ih => simpa [Event.mark] using ih (Mark.append_endRecord_mem hword)

end Turn

end Router

/-- The kind with which a line of no record is shown. -/
def Event.lineKind? : Event → Option LineKind
  | line _ kind => some kind
  | _ => none

namespace Router

theorem filterMap_lineKind?_eq_nil {events : List Event} (h : ∀ e ∈ events, e.mark ≠ .line) :
    events.filterMap Event.lineKind? = [] := by
  refine List.filterMap_eq_nil_iff.mpr fun e he => ?_
  cases e with
  | line chars kind => exact absurd rfl (h _ he)
  | header | field | literal | inlineField | endLine | endRecord => rfl

theorem ArePieces.lineKinds {events : List Event} (h : ArePieces events) :
    events.filterMap Event.lineKind? = [] := by
  refine filterMap_lineKind?_eq_nil fun e he => ?_
  rcases h e he with hmark | hmark
  · rw [hmark]
    exact nofun
  · rw [hmark]
    exact nofun

/-- A line is taken for the kind with which it is shown, or for a part of a record when it is not
shown as a line. -/
theorem Turn.lineKinds {inRecord behind : Bool} {kind : LineKind} {events : List Event}
    (h : Turn inRecord kind events behind) :
    events.filterMap Event.lineKind? = [kind] ∨
      events.filterMap Event.lineKind? = [] ∧ kind = .command := by
  induction h with
  | passed chars kind => exact .inl rfl
  | record header hfields =>
    have hinside := filterMap_lineKind?_eq_nil fun e he => by
      rw [hfields e he]
      exact nofun
    refine .inr ⟨?_, rfl⟩
    rw [List.filterMap_append, List.filterMap_cons_none rfl, hinside]
    rfl
  | begun header => exact .inr ⟨rfl, rfl⟩
  | begunWith header hevents =>
    refine .inr ⟨?_, rfl⟩
    rw [List.filterMap_cons_none rfl, List.filterMap_append, hevents.lineKinds]
    rfl
  | whole header hevents =>
    refine .inr ⟨?_, rfl⟩
    rw [List.filterMap_append, List.filterMap_cons_none rfl, List.filterMap_append,
      hevents.lineKinds]
    rfl
  | inside hevents =>
    refine .inr ⟨?_, rfl⟩
    rw [List.filterMap_append, hevents.lineKinds]
    rfl
  | ended chars => exact .inr ⟨rfl, rfl⟩
  | cutShort hturn ih => exact ih

/-! ### Whole histories -/

variable {router between behind : Router} {events more : List Event}

/-- The events carry every word of the grammar on, as far as the two routers show. -/
def Continues (router : Router) (events : List Event) (behind : Router) : Prop :=
  ∀ word ∈ (Mark.upTo router.inRecord).matches',
    word ++ events.map Event.mark ∈ (Mark.upTo behind.inRecord).matches'

theorem Continues.refl (router : Router) : Continues router [] router := fun word hword => by
  rwa [List.map_nil, List.append_nil]

theorem Continues.trans (h : Continues router events between)
    (hmore : Continues between more behind) : Continues router (events ++ more) behind := by
  intro word hword
  rw [List.map_append, ← List.append_assoc]
  exact hmore _ (h word hword)

theorem continues_line (router : Router) (chars : List Char) :
    Continues router (router.line chars).2.1 (router.line chars).2.2 :=
  fun _ hword => (turn_line router chars).append_mem hword

theorem continues_close (router : Router) : Continues router router.close.1 router.close.2 := by
  cases hopen : router.inRecord with
  | false =>
    rw [close_of_not_inRecord hopen]
    exact .refl router
  | true =>
    rw [close_of_inRecord hopen]
    intro word hword
    rw [hopen] at hword
    exact Mark.append_endRecord_mem hword

theorem continues_lines (router : Router) (all : List (List Char)) :
    Continues router (router.lines all).1 (router.lines all).2 := by
  induction all generalizing router with
  | nil => exact .refl router
  | cons chars all ih =>
    rw [lines_cons]
    exact (continues_line router chars).trans (ih (router.line chars).2.2)

theorem continues_take (router : Router) (input : Input) :
    Continues router (router.take input).1 (router.take input).2 := by
  -- The bytes that wait do not count for the grammar.
  cases input with
  | line chars => exact continues_line router chars
  | chunk bytes =>
    exact continues_lines { router with buffer := (router.buffer.push bytes).2 } _
  | flush =>
    have hlast : Continues router _ _ :=
      continues_lines { router with buffer := router.buffer.flush.2 } router.buffer.flush.1.toList
    rw [take, flush_eq]
    exact hlast.trans (continues_close _)

theorem continues_run (router : Router) (inputs : List Input) :
    Continues router (router.run inputs).1 (router.run inputs).2 := by
  induction inputs generalizing router with
  | nil => exact .refl router
  | cons input rest ih => exact (continues_take router input).trans (ih (router.take input).2)

theorem inRecord_flush (router : Router) : router.flush.2.inRecord = false := by
  rw [flush_eq]
  exact inRecord_close _

/-- The marks of all that a router shows from its start. -/
def word (inputs : List Input) : List Mark := (start.run inputs).1.map Event.mark

/-- The router behind what it was given from its start. -/
def reached (inputs : List Input) : Router := (start.run inputs).2

theorem word_mem (inputs : List Input) :
    word inputs ∈ (Mark.upTo (reached inputs).inRecord).matches' :=
  continues_run start inputs [] (Language.nil_mem_kstar _)

/-- What is to be expected of all that a router shows, and of one more line. -/
structure WellFormed (inputs : List Input) : Prop where
  /-- lines and records are shown, and the last block may still be open -/
  grammar : word inputs ∈ Mark.log.matches' ∨ word inputs ∈ (Mark.log * Mark.openBlock).matches'
  /-- the router tells whether a block is open -/
  inside : (reached inputs).inRecord = true ↔ word inputs ∈ (Mark.log * Mark.openBlock).matches'
  outside : (reached inputs).inRecord = false ↔ word inputs ∈ Mark.log.matches'
  /-- the end of the stream ends the block -/
  flush : (reached inputs).flush.2.inRecord = false
  /-- beginnings and ends of records alternate -/
  edges : ∃ count, Mark.edges (word inputs) =
    Mark.pairs count ++ if (reached inputs).inRecord then [.header] else []
  /-- a line is shown as a line at most once, with the kind that it is taken for -/
  kinds : ∀ chars : List Char,
    ((reached inputs).line chars).2.1.filterMap Event.lineKind? =
        [((reached inputs).line chars).1] ∨
      ((reached inputs).line chars).2.1.filterMap Event.lineKind? = [] ∧
        ((reached inputs).line chars).1 = .command

/-- Whatever a router is given, it shows well-formed records. -/
theorem run_wellFormed (inputs : List Input) : WellFormed inputs := by
  have hword := word_mem inputs
  have hopen := Mark.mem_upTo_iff hword true
  have hclosed := Mark.mem_upTo_iff hword false
  constructor
  case grammar =>
    cases hrecord : (reached inputs).inRecord with
    | false => exact .inl (hclosed.mpr hrecord)
    | true => exact .inr (hopen.mpr hrecord)
  case inside => exact hopen.symm
  case outside => exact hclosed.symm
  case flush => exact inRecord_flush _
  case edges => exact Mark.exists_edges_upTo hword
  case kinds => exact fun chars => (turn_line _ chars).lineKinds

/-- A block with an error in between, cut short by a record that is no JSON. -/
example :
    (Mark.log * Mark.openBlock).rmatch
        (word [.line "ParsedCommand \x7b".toList, .chunk (Utf8.octets "ERROR\nID: ")]) = true ∧
      Mark.log.rmatch
        (word [.line "ParsedCommand \x7b".toList, .chunk (Utf8.octets "ERROR\nID: "), .flush,
          .line "Successfully parsed command: \x7b".toList]) = true := by
  decide +kernel

end Router

end MotionLink
