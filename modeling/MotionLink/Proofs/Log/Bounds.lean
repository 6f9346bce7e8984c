import MotionLink.Proofs.Json.Nesting
import MotionLink.Proofs.Log.Chunks
import MotionLink.Proofs.Log.Markup
import MotionLink.Proofs.Log.Payloads
import MotionLink.Proofs.Log.Turns

/-!
# Depths and turns of what is shown

However long a log is, the numbers that come with its fields stay small. A payload is nested no
deeper than the reader of JSON allows, a value between markers stands in no container, and a turn
is always one of the colors of its palette.

## Main definitions

* `Event.field?` — the field that an event shows
* `IsBounded` — a field whose depth and turn are small
* `Tally.InRange` — the next turns are small
* `Router.Bounds` — the fields among some events are bounded, and so are the turns behind them

## Main results

* `Payload.depth_lt_of_ofLine` — the depths of the fields of a payload
* `Tally.InRange.classify` — the turn that a field is given, and the turns behind it
* `Router.isBounded_of_mem_run` — whatever a router is given, the fields that it shows are bounded
-/

namespace MotionLink

/-- The field that an event shows and its class, on a line of its own or not. -/
def Event.field? : Event → Option (Field × Option Highlight)
  | field f highlight => some (f, highlight)
  | inlineField f highlight => some (f, highlight)
  | _ => none

/-- A field stands in fewer containers than the reader of JSON allows, and its turn is one of the
colors of its palette. -/
structure IsBounded (shown : Field × Option Highlight) : Prop where
  depth : shown.1.depth < Json.maxDepth
  slot : ∀ (palette : Palette) slot, shown.2 = some (palette.highlight slot) → slot < palette.size

/-! ### Depths -/

namespace Field

mutual

/-- The fields of a value stand in the containers around it and in those within. -/
theorem depth_le_of_mem_ofValue (name : List Char) (depth : Nat) (v : Json) :
    ∀ f ∈ ofValue name depth v, f.depth ≤ depth + v.nesting := by
  match v with
  | .object members =>
    have hmembers := depth_le_of_mem_ofMembers (depth + 1) members
    rw [ofValue, Json.nesting]
    refine List.forall_mem_cons.mpr ⟨Nat.le_add_right _ _, fun f hf => ?_⟩
    exact (hmembers f hf).trans (by omega)
  | .array items =>
    have hitems := depth_le_of_mem_ofItems (depth + 1) 0 items
    rw [ofValue, Json.nesting]
    refine List.forall_mem_cons.mpr ⟨Nat.le_add_right _ _, fun f hf => ?_⟩
    exact (hitems f hf).trans (by omega)
  | .string s | .null | .bool value | .integer n | .double x =>
    exact List.forall_mem_singleton.mpr le_rfl

theorem depth_le_of_mem_ofMembers (depth : Nat) (members : List (String × Json)) :
    ∀ f ∈ ofMembers depth members, f.depth ≤ depth + Json.membersNesting members := by
  match members with
  | [] => exact nofun
  | (name, v) :: rest =>
    have hvalue := depth_le_of_mem_ofValue name.toList depth v
    have hrest := depth_le_of_mem_ofMembers depth rest
    rw [ofMembers, Json.membersNesting]
    refine List.forall_mem_append.mpr ⟨fun f hf => ?_, fun f hf => ?_⟩
    · exact (hvalue f hf).trans (by omega)
    · exact (hrest f hf).trans (by omega)

theorem depth_le_of_mem_ofItems (depth index : Nat) (items : List Json) :
    ∀ f ∈ ofItems depth index items, f.depth ≤ depth + Json.itemsNesting items := by
  match items with
  | [] => exact nofun
  | v :: rest =>
    have hvalue := depth_le_of_mem_ofValue (itemName index) depth v
    have hrest := depth_le_of_mem_ofItems depth (index + 1) rest
    rw [ofItems, Json.itemsNesting]
    refine List.forall_mem_append.mpr ⟨fun f hf => ?_, fun f hf => ?_⟩
    · exact (hvalue f hf).trans (by omega)
    · exact (hrest f hf).trans (by omega)

end

end Field

/-- The payload itself is a container, so less than all of the depth is left for its fields. -/
theorem Payload.depth_lt_of_ofLine {line : List Char} {p : Payload} (h : ofLine line = .ok p) :
    ∀ f ∈ p.fields, f.depth < Json.maxDepth := by
  obtain ⟨members, ⟨payload, rest, -, hread⟩, hfields⟩ := ofLine_eq_ok_iff.mp h
  have hnesting := Json.nesting_le_of_readFirst hread
  rw [Json.nesting] at hnesting
  intro f hf
  rw [hfields] at hf
  exact (Field.depth_le_of_mem_ofMembers 0 members f hf).trans_lt (by omega)

/-- A value between markers stands in no container. -/
theorem Segment.depth_of_field_mem {name line : List Char} {f : Field}
    (h : field f ∈ ofLineNamed name line) : f.depth = 0 := by
  fun_induction ofLineNamed name line with
  | case1 name line hopen => exact absurd h not_field_mem_literal?
  | case2 name line label opened hopen hclose => exact absurd h not_field_mem_literal?
  | case3 name line label opened hopen value rest hclose name' ih =>
    rcases List.mem_append.mp h with h | h
    · exact absurd h not_field_mem_literal?
    · rcases List.mem_cons.mp h with h | h
      · cases h
        rfl
      · exact ih h

/-! ### Turns -/

namespace Tally

/-- The next turns are colors of their palettes. -/
def InRange (tally : Tally) : Prop := ∀ palette, tally.next palette < palette.size

theorem inRange_start : InRange start := by
  rintro (_ | _) <;> decide

variable {tally : Tally}

/-- The turn that a field is given is one of the colors, and so are the turns behind it. -/
theorem InRange.classify (h : tally.InRange) (f : Field) :
    (∀ (palette : Palette) slot, (tally.classify f).1 = some (palette.highlight slot) →
      slot < palette.size) ∧ (tally.classify f).2.InRange := by
  by_cases hbegins : begins f = true
  · -- A field that begins a command takes no turn and sets all turns back.
    rw [classify_of_begins tally hbegins]
    refine ⟨?_, inRange_start⟩
    rintro (_ | _) slot ⟨⟩
  · rw [classify_of_not_begins tally (by simpa using hbegins)]
    refine ⟨fun palette slot hgiven => ?_, fun palette => ?_⟩
    · rw [eq_next_of_inTurn hgiven]
      exact h palette
    · rw [next_advance]
      split
      · exact Nat.mod_lt _ (by cases palette <;> decide)
      · exact h palette

end Tally

/-! ### Events -/

namespace Router

variable {tally behind : Tally} {events more : List Event} {router : Router}

/-- The fields among some events are bounded, and so are the turns behind them. -/
structure Bounds (events : List Event) (behind : Tally) : Prop where
  fields : ∀ e ∈ events, ∀ shown ∈ e.field?, IsBounded shown
  turns : behind.InRange

namespace Bounds

theorem nil (h : tally.InRange) : Bounds [] tally :=
  ⟨fun _ he => absurd he List.not_mem_nil, h⟩

theorem cons {e : Event} (he : ∀ shown ∈ e.field?, IsBounded shown) (h : Bounds events behind) :
    Bounds (e :: events) behind :=
  ⟨List.forall_mem_cons.mpr ⟨he, h.fields⟩, h.turns⟩

/-- Most events show no field. -/
theorem silent {e : Event} (he : e.field? = none) (h : Bounds events behind) :
    Bounds (e :: events) behind :=
  h.cons fun shown hshown => by simp [he] at hshown

theorem append {between : Tally} (h : Bounds events between) (hmore : Bounds more behind) :
    Bounds (events ++ more) behind :=
  ⟨List.forall_mem_append.mpr ⟨h.fields, hmore.fields⟩, hmore.turns⟩

end Bounds

theorem bounds_fieldEvents (h : tally.InRange) {fields : List Field}
    (hfields : ∀ f ∈ fields, f.depth < Json.maxDepth) :
    Bounds (fieldEvents tally fields).1 (fieldEvents tally fields).2 := by
  induction fields generalizing tally with
  | nil => exact .nil h
  | cons f rest ih =>
    obtain ⟨hdepth, hrest⟩ := List.forall_mem_cons.mp hfields
    obtain ⟨hslot, hbehind⟩ := h.classify f
    refine (ih hbehind hrest).cons ?_
    rintro _ ⟨⟩
    exact ⟨hdepth, hslot⟩

theorem bounds_segmentEvents (h : tally.InRange) {segments : List Segment}
    (hsegments : ∀ f, .field f ∈ segments → f.depth < Json.maxDepth) :
    Bounds (segmentEvents tally segments).1 (segmentEvents tally segments).2 := by
  induction segments generalizing tally with
  | nil => exact .nil h
  | cons segment rest ih =>
    have hrest : ∀ f, .field f ∈ rest → f.depth < Json.maxDepth := fun f hf =>
      hsegments f (List.mem_cons_of_mem _ hf)
    cases segment with
    | literal chars => exact (ih h hrest).silent rfl
    | field f =>
      obtain ⟨hslot, hbehind⟩ := h.classify f
      refine (ih hbehind hrest).cons ?_
      rintro _ ⟨⟩
      exact ⟨hsegments f List.mem_cons_self, hslot⟩

theorem bounds_segments (router : Router) (h : router.tally.InRange) (chars : List Char) :
    Bounds (router.segments chars).1 (router.segments chars).2.tally := by
  have hsegments : ∀ f, .field f ∈ Segment.ofLine chars → f.depth < Json.maxDepth := fun f hf => by
    rw [Segment.depth_of_field_mem hf]
    decide
  have hevents := bounds_segmentEvents h hsegments
  exact hevents.append (.silent rfl (.nil hevents.turns))

theorem bounds_close (h : router.tally.InRange) :
    Bounds router.close.1 router.close.2.tally := by
  rw [close]
  split
  · exact .silent rfl (.nil h)
  · exact .nil h

theorem bounds_serialized (h : router.tally.InRange) (chars : List Char) :
    Bounds (router.serialized chars).2.1 (router.serialized chars).2.2.tally := by
  rw [serialized]
  rcases hpayload : Payload.ofLine chars with e | payload
  · exact .silent rfl (.nil h)
  · have hfields := bounds_fieldEvents Tally.inRange_start (Payload.depth_lt_of_ofLine hpayload)
    exact .silent rfl (hfields.append (.silent rfl (.nil hfields.turns)))

theorem bounds_opened (router : Router) (chars : List Char) :
    Bounds (router.opened chars).2.1 (router.opened chars).2.2.tally := by
  rw [opened]
  dsimp only
  split
  · exact .silent rfl (.nil Tally.inRange_start)
  · -- The values on the first line of a block are counted from the start.
    have hevents := bounds_segments { router with tally := .start, inRecord := true }
      Tally.inRange_start (splitHeader chars).2
    split
    · exact .silent rfl (hevents.append (bounds_close hevents.turns))
    · exact .silent rfl (hevents.append (.nil hevents.turns))

theorem bounds_freeLine (h : router.tally.InRange) (chars : List Char) :
    Bounds (router.freeLine chars).2.1 (router.freeLine chars).2.2.tally := by
  rw [freeLine]
  rcases Embedding.ofLine? chars with _ | _ | _
  · exact .silent rfl (.nil h)
  · exact bounds_serialized h chars
  · exact bounds_opened router chars

theorem bounds_blockLine (h : router.tally.InRange) (chars : List Char) :
    Bounds (router.blockLine chars).2.1 (router.blockLine chars).2.2.tally := by
  rw [blockLine]
  split
  · exact .silent rfl (.silent rfl (bounds_close h))
  · dsimp only
    split
    · exact .silent rfl (.nil h)
    · exact bounds_segments router h chars

theorem bounds_line (h : router.tally.InRange) (chars : List Char) :
    Bounds (router.line chars).2.1 (router.line chars).2.2.tally := by
  rw [line]
  split
  · exact bounds_blockLine h chars
  · have hclosing := bounds_close h
    exact hclosing.append (bounds_freeLine hclosing.turns chars)

theorem bounds_lines (router : Router) (h : router.tally.InRange) (all : List (List Char)) :
    Bounds (router.lines all).1 (router.lines all).2.tally := by
  induction all generalizing router with
  | nil => exact .nil h
  | cons chars all ih =>
    have hline := bounds_line h chars
    rw [lines_cons]
    exact hline.append (ih _ hline.turns)

theorem bounds_take (h : router.tally.InRange) (input : Input) :
    Bounds (router.take input).1 (router.take input).2.tally := by
  cases input with
  | line chars => exact bounds_line h chars
  | chunk bytes => exact bounds_lines { router with buffer := (router.buffer.push bytes).2 } h _
  | flush =>
    rw [take, flush_eq]
    have hlast := bounds_lines { router with buffer := router.buffer.flush.2 } h
      router.buffer.flush.1.toList
    exact hlast.append (bounds_close hlast.turns)

theorem bounds_run (h : router.tally.InRange) (inputs : List Input) :
    Bounds (router.run inputs).1 (router.run inputs).2.tally := by
  induction inputs generalizing router with
  | nil => exact .nil h
  | cons input rest ih =>
    have hinput := bounds_take h input
    exact hinput.append (ih hinput.turns)

/-- Whatever a router is given, the fields that it shows are bounded. -/
theorem isBounded_of_mem_run (inputs : List Input) :
    ∀ shown ∈ (start.run inputs).1.filterMap Event.field?, IsBounded shown := by
  intro shown hshown
  obtain ⟨e, he, hfield⟩ := List.mem_filterMap.mp hshown
  exact (bounds_run Tally.inRange_start inputs).fields e he shown hfield

end Router

end MotionLink
