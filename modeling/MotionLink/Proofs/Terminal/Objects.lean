import MotionLink.Proofs.Json.OneLine
import MotionLink.Proofs.Log.Records
import MotionLink.Proofs.Log.Sessions
import MotionLink.Proofs.Terminal.Entries
import MotionLink.Proofs.Text.Utf8
import MotionLink.Terminal.Monitor

/-!
# One object for every line and every record

Shown as JSON, a log becomes one object for each of its lines and one for each of its records, in
the order in which they are complete. The display keeps a single record that is not yet complete,
and it would lose one that another header replaces; what a router shows never lets that happen.

## Main definitions

* `Mark.follow` — the grammar of what is shown, read mark by mark
* `Event.Completes` — the line or the record that is complete behind some events
* `JsonLines.entries` — what is written for events
* `JsonLines.Tells` — what is to be expected of the output

## Main results

* `Mark.carries_upTo` — every word of the grammar can be followed
* `JsonLines.keeps_entries` — a display that follows the grammar loses nothing
* `Terminal.tells_run` — the output of all that a router shows
-/

namespace MotionLink

/-! ### The grammar, mark by mark -/

namespace Mark

open RegularExpression

/-- Whether a record is open behind a mark, if the mark may stand there. -/
def next? : Bool → Mark → Option Bool
  | inRecord, line => some inRecord
  | false, header => some true
  | true, endRecord => some false
  | true, field | true, literal | true, inlineField | true, endLine => some true
  | _, _ => none

/-- Whether a record is open behind a word, if the word may stand there. -/
def follow (inRecord : Bool) (word : List Mark) : Option Bool := word.foldlM next? inRecord

theorem follow_append (inRecord : Bool) (word more : List Mark) :
    follow inRecord (word ++ more) = (follow inRecord word).bind fun behind => follow behind more :=
  List.foldlM_append

/-- Every word of an expression can be followed, and ends inside a record or outside. -/
def Carries (p : RegularExpression Mark) (inRecord behind : Bool) : Prop :=
  ∀ word ∈ p.matches', follow inRecord word = some behind

variable {p q : RegularExpression Mark} {inRecord between behind : Bool}

theorem carries_char {m : Mark} (h : next? inRecord m = some behind) :
    Carries (char m) inRecord behind := by
  intro word hword
  rw [hword]
  simp [follow, h]

theorem Carries.add (hp : Carries p inRecord behind) (hq : Carries q inRecord behind) :
    Carries (p + q) inRecord behind := by
  rintro word (hword | hword)
  · exact hp word hword
  · exact hq word hword

theorem Carries.mul (hp : Carries p inRecord between) (hq : Carries q between behind) :
    Carries (p * q) inRecord behind := by
  rintro _ ⟨word, hword, more, hmore, rfl⟩
  change follow inRecord (word ++ more) = some behind
  rw [follow_append, hp word hword]
  exact hq more hmore

theorem Carries.star (hp : Carries p inRecord inRecord) : Carries p.star inRecord inRecord := by
  intro word hword
  obtain ⟨words, rfl, hwords⟩ := Language.mem_kstar.mp hword
  clear hword
  induction words with
  | nil => rfl
  | cons first rest ih =>
    obtain ⟨hfirst, hrest⟩ := List.forall_mem_cons.mp hwords
    rw [List.flatten_cons, follow_append, hp first hfirst]
    exact ih hrest

theorem carries_openBlock : Carries openBlock false true := by
  have hpieces : Carries pieces true true := .star (.add (carries_char rfl) (carries_char rfl))
  have hline : Carries blockLine true true :=
    .add (carries_char rfl) (.mul hpieces (carries_char rfl))
  exact .mul (carries_char rfl) (.star hline)

theorem carries_log : Carries log false false := by
  have hrecord : Carries record false false :=
    .mul (.mul (carries_char rfl) (.star (carries_char rfl))) (carries_char rfl)
  have hblock : Carries (openBlock * char endRecord) false false :=
    .mul carries_openBlock (carries_char rfl)
  exact .star (.add (.add (carries_char rfl) hrecord) hblock)

/-- Every word of the grammar can be followed from the start. -/
theorem carries_upTo (inRecord : Bool) : Carries (upTo inRecord) false inRecord := by
  cases inRecord with
  | false => exact carries_log
  | true => exact .mul carries_log carries_openBlock

end Mark

/-! ### Lines and records -/

namespace Event

/-- A line that belongs to no record, with its kind. -/
def line? : Event → Option (List Char × LineKind)
  | line chars kind => some (chars, kind)
  | _ => none

/-- The header of a record. -/
def header? : Event → Option (List Char)
  | header chars => some chars
  | _ => none

end Event

/-- The line or the record that is complete behind the last of some events. The fields of a record
are those shown since its header, which is the last header shown. -/
inductive Event.Completes : List Event → Entry → Prop where
  | line (before : List Event) (chars : List Char) (kind : LineKind) :
      Completes (before ++ [.line chars kind]) (.line chars kind)
  | record (before : List Event) (header : List Char) {between : List Event}
      (hbetween : ∀ e ∈ between, e.mark.isEdge = false) :
      Completes (before ++ .header header :: between ++ [.endRecord])
        (.record (Text.trim header) (between.filterMap Event.field?))

namespace JsonLines

/-- The moments at which a line or a record is complete: all that is shown up to each of them. -/
def moments (events : List Event) : List (List Event) :=
  events.inits.filter fun before => before.getLast?.any Monitor.completesRecord

theorem moments_append_singleton (events : List Event) (e : Event) :
    moments (events ++ [e]) =
      moments events ++ if Monitor.completesRecord e then [events ++ [e]] else [] := by
  simp [moments, List.inits_append, List.filter_append, List.filter_singleton]

theorem length_moments (events : List Event) :
    (moments events).length = events.countP Monitor.completesRecord := by
  induction events using List.reverseRecOn with
  | nil => rfl
  | append_singleton events e ih =>
    rw [moments_append_singleton, List.length_append, List.countP_append, ih, List.countP_singleton]
    split <;> rfl

/-- The line or the record that an event completes, given the record not yet complete. -/
def finished? (open? : Option OpenRecord) : Event → Option Entry
  | .line chars kind => some (.line chars kind)
  | .endRecord => open?.map fun r => .record r.header r.fields.reverse
  | _ => none

/-- The record not yet complete behind some events. -/
def behind (open? : Option OpenRecord) (events : List Event) : Option OpenRecord :=
  events.foldl (fun open? e => (step open? e).2) open?

/-- What events complete, in order. -/
def entries (open? : Option OpenRecord) : List Event → List Entry
  | [] => []
  | e :: rest => (finished? open? e).toList ++ entries (step open? e).2 rest

/-- An object on a line of its own. -/
def entryLine (entry : Entry) : List Char := lineOf entry.json

theorem step_fst (open? : Option OpenRecord) (e : Event) :
    (step open? e).1 = (finished? open? e).toList.flatMap entryLine := by
  cases e with
  | line chars kind =>
    rw [step, lineJson_eq]
    exact (List.append_nil _).symm
  | header | field | literal | inlineField | endLine => rfl
  | endRecord =>
    cases open? with
    | none => rfl
    | some r =>
      rw [step, recordJson_eq]
      exact (List.append_nil _).symm

theorem entries_append (open? : Option OpenRecord) (events more : List Event) :
    entries open? (events ++ more) =
      entries open? events ++ entries (behind open? events) more := by
  induction events generalizing open? with
  | nil => rfl
  | cons e rest ih => rw [List.cons_append, entries, ih, entries, List.append_assoc]; rfl

theorem behind_append (open? : Option OpenRecord) (events more : List Event) :
    behind open? (events ++ more) = behind (behind open? events) more :=
  List.foldl_append

/-- A record is not yet complete exactly while it is open, and is then the one shown last. -/
inductive Pending : List Event → Bool → Option OpenRecord → Prop where
  | outside (events : List Event) : Pending events false none
  | inside (before : List Event) (header : List Char) {between : List Event}
      (hbetween : ∀ e ∈ between, e.mark.isEdge = false) :
      Pending (before ++ .header header :: between) true
        (some ⟨Text.trim header, (between.filterMap Event.field?).reverse⟩)

theorem Pending.eq_none {events : List Event} {open? : Option OpenRecord}
    (h : Pending events false open?) : open? = none := by
  cases h
  rfl

/-- A record with what an event adds to it. -/
def extend (e : Event) (r : OpenRecord) : OpenRecord :=
  { r with fields := (Event.field? e).toList ++ r.fields }

theorem step_snd_of_not_isEdge (open? : Option OpenRecord) {e : Event}
    (he : e.mark.isEdge = false) : (step open? e).2 = open?.map (extend e) := by
  cases e with
  | header | endRecord => cases he
  | line | field | literal | inlineField | endLine => cases open? <;> rfl

theorem filterMap_append_singleton {α β : Type} (f : α → Option β) (items : List α) (item : α) :
    (items ++ [item]).filterMap f = items.filterMap f ++ (f item).toList := by
  cases h : f item <;> simp [List.filterMap_append, h]

theorem Pending.stay {events : List Event} {open? : Option OpenRecord}
    (h : Pending events true open?) {e : Event} (he : e.mark.isEdge = false) :
    Pending (events ++ [e]) true (open?.map (extend e)) := by
  cases h with
  | inside before header hbetween =>
    have hmore := List.forall_mem_append.mpr ⟨hbetween, List.forall_mem_singleton.mpr he⟩
    have hpending := Pending.inside before header hmore
    have hsingle : (Event.field? e).toList.reverse = (Event.field? e).toList := by
      cases Event.field? e <;> rfl
    rw [filterMap_append_singleton, List.reverse_append, hsingle] at hpending
    simpa [extend] using hpending

/-- What a display that follows the grammar has written, and the record that it keeps. -/
structure Keeps (events : List Event) (inRecord : Bool) (open? : Option OpenRecord)
    (shown : List Entry) : Prop where
  pending : Pending events inRecord open?
  completes : List.Forall₂ Event.Completes (moments events) shown
  lines : shown.filterMap Entry.line? = events.filterMap Event.line?
  headers : shown.filterMap Entry.header? ++ (open?.map OpenRecord.header).toList =
    (events.filterMap Event.header?).map Text.trim
  fields : shown.flatMap Entry.fields ++ (open?.map fun r => r.fields.reverse).getD [] =
    events.filterMap Event.field?

namespace Keeps

variable {events : List Event} {inRecord : Bool} {open? : Option OpenRecord} {shown : List Entry}

theorem nil : Keeps [] false none [] where
  pending := .outside []
  completes := .nil
  lines := rfl
  headers := rfl
  fields := rfl

/-- A line comes at any moment, and the record stays as it is. -/
theorem line (h : Keeps events inRecord open? shown) (chars : List Char) (kind : LineKind) :
    Keeps (events ++ [.line chars kind]) inRecord open? (shown ++ [.line chars kind]) where
  pending := by
    cases inRecord with
    | false =>
      cases h.pending
      exact .outside _
    | true =>
      have hsame : extend (.line chars kind) = id := rfl
      have hstay := h.pending.stay (e := .line chars kind) rfl
      rwa [hsame, Option.map_id_fun, id] at hstay
  completes := by
    rw [moments_append_singleton]
    exact List.rel_append h.completes (.cons (.line events chars kind) .nil)
  lines := by
    rw [filterMap_append_singleton, filterMap_append_singleton, h.lines]
    rfl
  headers := by
    simpa [List.filterMap_cons, Entry.header?, Event.header?] using h.headers
  fields := by
    simpa [List.filterMap_cons, Entry.fields, Event.field?] using h.fields

/-- A record begins while none is kept. -/
theorem opened (h : Keeps events false open? shown) (chars : List Char) :
    Keeps (events ++ [.header chars]) true (some ⟨Text.trim chars, []⟩) shown := by
  obtain ⟨hpending, hcompletes, hlines, hheaders, hfields⟩ := h
  cases hpending
  constructor
  case pending => exact @Pending.inside events chars [] nofun
  case completes =>
    rw [moments_append_singleton]
    simpa [Monitor.completesRecord] using hcompletes
  case lines => simpa [List.filterMap_cons, Event.line?] using hlines
  case headers =>
    rw [filterMap_append_singleton, List.map_append, ← hheaders]
    simp [Event.header?]
  case fields => simpa [List.filterMap_cons, Event.field?] using hfields

/-- Anything else inside a record adds its field, if it has one. -/
theorem inside (h : Keeps events true open? shown) {e : Event} (he : e.mark.isEdge = false)
    (hline : e.mark ≠ .line) : Keeps (events ++ [e]) true (open?.map (extend e)) shown := by
  have hrest : Monitor.completesRecord e = false ∧ e.line? = none ∧ e.header? = none := by
    cases e with
    | line | header | endRecord => contradiction
    | field | literal | inlineField | endLine => exact ⟨rfl, rfl, rfl⟩
  obtain ⟨hcompleting, hnoLine, hnoHeader⟩ := hrest
  constructor
  case pending => exact h.pending.stay he
  case completes =>
    rw [moments_append_singleton, hcompleting]
    simpa using h.completes
  case lines => simpa [List.filterMap_cons, hnoLine] using h.lines
  case headers =>
    have hsame : OpenRecord.header ∘ extend e = OpenRecord.header := rfl
    simpa [List.filterMap_cons, hnoHeader, hsame] using h.headers
  case fields =>
    rw [filterMap_append_singleton, ← h.fields]
    cases h.pending
    cases hfield : e.field? <;> simp [extend, hfield]

/-- The end of a record, which is written with its header and its fields. -/
theorem ended (h : Keeps events true open? shown) :
    Keeps (events ++ [.endRecord]) false none (shown ++ (finished? open? .endRecord).toList) := by
  obtain ⟨hpending, hcompletes, hlines, hheaders, hfields⟩ := h
  cases hpending with
  | inside before header hbetween =>
    constructor
    case pending => exact .outside _
    case completes =>
      rw [moments_append_singleton]
      refine List.rel_append hcompletes (.cons ?_ .nil)
      simpa using Event.Completes.record before header hbetween
    case lines =>
      rw [filterMap_append_singleton, ← hlines]
      simp [finished?, Entry.line?, Event.line?]
    case headers =>
      rw [filterMap_append_singleton, List.map_append, ← hheaders]
      simp [finished?, Entry.header?, Event.header?]
    case fields =>
      rw [filterMap_append_singleton, ← hfields]
      simp [finished?, Entry.fields, Event.field?]

/-- Whatever the grammar allows to come next, the display goes on as it should. -/
theorem step (h : Keeps events inRecord open? shown) {e : Event} {next : Bool}
    (hnext : Mark.next? inRecord e.mark = some next) :
    Keeps (events ++ [e]) next (step open? e).2 (shown ++ (finished? open? e).toList) := by
  cases inRecord with
  | false =>
    cases e with
    | line chars kind =>
      cases hnext
      exact h.line chars kind
    | header chars =>
      cases hnext
      rw [show (finished? open? (.header chars)).toList = [] from rfl, List.append_nil]
      exact h.opened chars
    | field | literal | inlineField | endLine | endRecord => cases hnext
  | true =>
    cases e with
    | line chars kind =>
      cases hnext
      exact h.line chars kind
    | header chars => cases hnext
    | endRecord =>
      cases hnext
      cases h.pending
      exact h.ended
    | field | literal | inlineField | endLine =>
      cases hnext
      rw [step_snd_of_not_isEdge open? rfl]
      simpa [finished?] using h.inside rfl (by simp [Event.mark])

end Keeps

/-- A display loses nothing of what the grammar lets it be shown. -/
theorem keeps_entries {events : List Event} {inRecord : Bool}
    (h : Mark.follow false (events.map Event.mark) = some inRecord) :
    Keeps events inRecord (behind none events) (entries none events) := by
  induction events using List.reverseRecOn generalizing inRecord with
  | nil =>
    cases h
    exact .nil
  | append_singleton events e ih =>
    rw [List.map_append, Mark.follow_append] at h
    obtain ⟨between, hbetween, hnext⟩ := Option.bind_eq_some_iff.mp h
    have hstep : Mark.next? between e.mark = some inRecord := by
      simpa [Mark.follow] using hnext
    have hkeeps := (ih hbetween).step hstep
    rw [behind_append, entries_append]
    simpa [behind, entries] using hkeeps

/-- What is to be expected of the output for the events of a log that has ended. -/
structure Tells (events : List Event) (output : Bytes) (shown : List Entry) : Prop where
  /-- each object on a line of its own -/
  lines : output = shown.flatMap fun entry => Utf8.encode entry.json.chars ++ [0x0A]
  oneLine : ∀ entry ∈ shown, 0x0A ∉ Utf8.encode entry.json.chars
  /-- and a line reads back as the object that it is -/
  reads : ∀ entry ∈ shown, Json.readFirst entry.json.chars = some (entry.json, [])
  /-- which no other line and no other record has -/
  distinct : ∀ entry ∈ shown, ∀ other : Entry, other.json = entry.json → other = entry
  /-- one for each line and one for each header -/
  count : shown.length =
    (events.filterMap Event.line?).length + (events.filterMap Event.header?).length
  /-- in the order in which lines are shown and records end, with what they hold -/
  completes : List.Forall₂ Event.Completes (moments events) shown
  /-- no line, no header and no field is lost or shown twice -/
  texts : shown.filterMap Entry.line? = events.filterMap Event.line?
  headers : shown.filterMap Entry.header? = (events.filterMap Event.header?).map Text.trim
  fields : shown.flatMap Entry.fields = events.filterMap Event.field?

end JsonLines

/-! ### The output -/

namespace Outlet

/-- A write that does not fail is complete, and no write before it has failed. -/
theorem written_put {outlet : Outlet} {bytes : Bytes} (h : (outlet.put bytes).failed = false) :
    outlet.failed = false ∧
      (outlet.put bytes).written.toList = outlet.written.toList ++ bytes := by
  obtain ⟨capacity, refusal, written, failed, fault⟩ := outlet
  cases failed with
  | true => simp [put] at h
  | false =>
    have hfits : ¬(fitting ⟨capacity, refusal, written, false, fault⟩ bytes).length <
        bytes.length := by simpa [put] using h
    have hall : fitting ⟨capacity, refusal, written, false, fault⟩ bytes = bytes := by
      cases capacity with
      | none => rfl
      | some capacity =>
        refine List.take_of_length_le ?_
        dsimp only
        simp only [fitting, List.length_take] at hfits
        omega
    simp [put, hall]

end Outlet

namespace Terminal

open JsonLines

theorem showEvent_jsonLines (open? : Option OpenRecord) (outlet : Outlet) (e : Event) :
    showEvent ⟨.jsonLines open?, outlet⟩ e =
      ⟨.jsonLines (step open? e).2, outlet.put (Utf8.encode (step open? e).1)⟩ := rfl

/-- A display of objects writes what it completes, as long as the output takes it. -/
theorem showAll_jsonLines (events : List Event) {open? : Option OpenRecord} {outlet : Outlet}
    (h : (showAll ⟨.jsonLines open?, outlet⟩ events).outlet.failed = false) :
    outlet.failed = false ∧
      (showAll ⟨.jsonLines open?, outlet⟩ events).outlet.written.toList =
        outlet.written.toList ++ Utf8.encode ((entries open? events).flatMap entryLine) := by
  induction events generalizing open? outlet with
  | nil => exact ⟨h, (List.append_nil _).symm⟩
  | cons e rest ih =>
    rw [showAll, List.foldl_cons, showEvent_jsonLines, ← showAll] at h ⊢
    obtain ⟨hput, hrest⟩ := ih h
    obtain ⟨hfailed, hwritten⟩ := Outlet.written_put hput
    refine ⟨hfailed, ?_⟩
    rw [hrest, hwritten, step_fst, entries, List.flatMap_append, Utf8.encode, Utf8.encode,
      Utf8.encode, List.flatMap_append, List.append_assoc]

theorem failed_unlimited (events : List Event) :
    (showAll ⟨.jsonLines none, .unlimited⟩ events).outlet.failed = false :=
  (takesAll_foldl ⟨rfl, rfl, rfl⟩ events).failed

/-- An output without a limit takes all that is completed. -/
theorem written_unlimited (events : List Event) :
    (showAll ⟨.jsonLines none, .unlimited⟩ events).outlet.written.toList =
      Utf8.encode ((entries none events).flatMap entryLine) :=
  (showAll_jsonLines events (failed_unlimited events)).2

/-- The text of a value holds no line break, also not as a byte. -/
theorem newline_not_mem_encode (v : Json) : 0x0A ∉ Utf8.encode v.chars := by
  intro h
  have hmem := Utf8.mem_of_mem_encode h (by decide)
  exact Json.newline_not_mem_chars v hmem

theorem encode_entryLine (shown : List Entry) :
    Utf8.encode (shown.flatMap entryLine) =
      shown.flatMap fun entry => Utf8.encode entry.json.chars ++ [0x0A] := by
  rw [Utf8.encode, List.flatMap_assoc]
  refine List.flatMap_congr fun entry _ => ?_
  rw [entryLine, lineOf, List.flatMap_append]
  rfl

/-- Shown as JSON on an output that does not fail, what a router shows up to the end of a stream
becomes one object for every line and every record. -/
theorem tells_run (inputs : List Router.Input) (capacity : Option Nat) (refusal : Fault)
    (h : (showAll ⟨.jsonLines none, .ofCapacity capacity refusal⟩
      (Router.start.run (inputs ++ [.flush])).1).outlet.failed = false) :
    ∃ shown : List Entry,
      Tells (Router.start.run (inputs ++ [.flush])).1
        (showAll ⟨.jsonLines none, .ofCapacity capacity refusal⟩
          (Router.start.run (inputs ++ [.flush])).1).outlet.written.toList shown := by
  obtain ⟨-, hwritten⟩ := showAll_jsonLines _ h
  have hclosed : (Router.reached (inputs ++ [.flush])).inRecord = false := by
    rw [Router.reached, Router.run_append]
    exact Router.inRecord_flush _
  have hword := Router.word_mem (inputs ++ [.flush])
  rw [hclosed] at hword
  have hkeeps := keeps_entries (Mark.carries_upTo false _ hword)
  -- The stream has ended, so no record is left that is not complete.
  have hnone := hkeeps.pending.eq_none
  have hheaders := hkeeps.headers
  have hfields := hkeeps.fields
  rw [hnone] at hheaders hfields
  refine ⟨entries none (Router.start.run (inputs ++ [.flush])).1, ?_⟩
  constructor
  case lines => rw [hwritten, encode_entryLine]; rfl
  case oneLine => exact fun entry _ => newline_not_mem_encode entry.json
  case reads =>
    intro entry hentry
    refine Entry.readFirst_json fun f hf => Router.isBounded_of_mem_run (inputs ++ [.flush]) f ?_
    rw [← hfields]
    simpa using ⟨entry, hentry, hf⟩
  case distinct => exact fun _ _ _ heq => Entry.json_injective heq
  case count =>
    have hheaderCount := congrArg List.length hheaders
    rw [List.length_append, List.length_map] at hheaderCount
    rw [Entry.length_eq, hkeeps.lines, ← hheaderCount]
    rfl
  case completes => exact hkeeps.completes
  case texts => exact hkeeps.lines
  case headers => simpa using hheaders
  case fields => simpa using hfields

/-- An error comes between the lines of a block, which a record cuts short. -/
def cutBlock : List Router.Input :=
  [.chunk (Utf8.octets "ParsedCommand \x7b\nERROR\nJ1: \x1a5\x1b\n"),
    .line "Successfully parsed command: \x7b\"base\":[\"a\"]\x7d".toList]

theorem tells_run_of_cut_block :
    (showAll ⟨.jsonLines none, .unlimited⟩
        (Router.start.run (cutBlock ++ [.flush])).1).outlet.written.toList =
      Utf8.encode (["\x7b\"kind\":\"error\",\"line\":\"ERROR\"\x7d\n",
        "\x7b\"kind\":\"structured_command\",\"header\":\"ParsedCommand \x7b\",\"fields\":[",
          "\x7b\"name\":\"J1\",\"type\":\"scalar\",\"value\":\"5\",\"depth\":0,",
            "\"class\":\"axis_slot\",\"slot\":0,",
            "\"group\":\x7b\"role\":\"axis_slot\",\"slot\":0\x7d\x7d]\x7d\n",
        "\x7b\"kind\":\"structured_command\",\"header\":\"Successfully parsed command:\",",
          "\"fields\":[\x7b\"name\":\"base\",\"type\":\"nested\",\"value\":\"array\",\"depth\":0,",
            "\"class\":\"param_slot\",\"slot\":0,",
            "\"group\":\x7b\"role\":\"param_slot\",\"slot\":0\x7d\x7d,",
          "\x7b\"name\":\"[0]\",\"type\":\"text\",\"value\":\"a\",\"depth\":1,",
            "\"class\":\"default_string\",\"group\":\x7b\"role\":\"scalar\"\x7d\x7d]\x7d\n"
        ].flatMap String.toList) ∧
      ∃ shown : List Entry,
        Tells (Router.start.run (cutBlock ++ [.flush])).1
          (showAll ⟨.jsonLines none, .unlimited⟩
            (Router.start.run (cutBlock ++ [.flush])).1).outlet.written.toList shown := by
  refine ⟨(written_unlimited _).trans (congrArg Utf8.encode ?_),
    tells_run cutBlock none (.ofKind .other) (failed_unlimited _)⟩
  decide +kernel

end Terminal

end MotionLink
