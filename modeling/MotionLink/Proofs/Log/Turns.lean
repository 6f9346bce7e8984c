import Mathlib.Data.List.Induction
import MotionLink.Log.Highlight

/-!
# Turns of coordinates and parameters

The class of a field is decided by its name, or else by its value, wherever it stands. Only the turn
of a coordinate or a parameter depends on what came before: it is the number of fields of that class
since the command began, until all colors are used up and the first one comes again. A command
begins with a reset, or with a field that names its action and stands in no container.

## Main definitions

* `Palette` — the colors that coordinates or parameters take in turns
* `Highlight.AgreesWith` — classes that are the same, but for the turns
* `Tally.sort` — the class of a field, its turn left aside
* `Tally.Input`, `Tally.run` — fields and resets in any order, each with the class it is given
* `Tally.sinceStart` — the part of a run that belongs to the last command
* `Tally.TakesTurns` — what is to be expected of the classes in a run

## Main results

* `Tally.classify_of_begins`, `Tally.classify_of_not_begins` — what a field does to the turns
* `Tally.next_after` — the next turn is a number of fields of the last command
* `Tally.shown_congr` — each palette minds its own turns only
* `Tally.takesTurns` — in every run the fields take turns
-/

namespace MotionLink

/-- The colors that coordinates or parameters take in turns. -/
inductive Palette where
  | axis
  | parameter
deriving DecidableEq

namespace Palette

/-- The number of colors. -/
def size : Palette → Nat
  | axis => 7
  | parameter => 5

/-- The class of a field whose turn it is. -/
def highlight : Palette → Nat → Highlight
  | axis, slot => .axis slot
  | parameter, slot => .parameter slot

/-- The palette of a class. -/
def ofHighlight? : Highlight → Option Palette
  | .axis _ => some axis
  | .parameter _ => some parameter
  | _ => none

/-- A field of this class takes a turn. -/
def colors (palette : Palette) (given : Option Highlight) : Bool :=
  given.bind ofHighlight? == some palette

end Palette

/-- The classes are the same, but for the turns. -/
inductive Highlight.AgreesWith : Highlight → Highlight → Prop where
  | identity : AgreesWith .identity .identity
  | axis (slot slot' : Nat) : AgreesWith (.axis slot) (.axis slot')
  | parameter (slot slot' : Nat) : AgreesWith (.parameter slot) (.parameter slot')
  | text : AgreesWith .text .text
  | scalar : AgreesWith .scalar .scalar

namespace Tally

/-! ### One field -/

/-- The turn of the next coordinate or the next parameter. -/
def next (tally : Tally) : Palette → Nat
  | .axis => tally.axis
  | .parameter => tally.parameter

/-- The class of a field, its turn left aside. -/
def sort (f : Field) : Option Highlight := (start.classifyWithin f).1

/-- A class with the turn that comes next. -/
def inTurn (tally : Tally) : Option Highlight → Option Highlight
  | some (.axis _) => some (.axis tally.axis)
  | some (.parameter _) => some (.parameter tally.parameter)
  | given => given

/-- The turns behind a field of a class. -/
def advance (tally : Tally) : Option Highlight → Tally
  | some (.axis _) => { tally with axis := (tally.axis + 1) % Highlight.axisSlots }
  | some (.parameter _) =>
    { tally with parameter := (tally.parameter + 1) % Highlight.parameterSlots }
  | _ => tally

variable {tally other : Tally} {f g : Field}

/-- A class by value takes no turn. -/
theorem byValue_eq (tally : Tally) (value : FieldValue) :
    (byValue value, tally) = (tally.inTurn (byValue value), tally.advance (byValue value)) := by
  cases value with
  | text chars => cases chars <;> rfl
  | scalar chars => rfl
  | container kind => rfl

theorem classifyWithin_eq (tally : Tally) (f : Field) :
    tally.classifyWithin f = (tally.inTurn (sort f), tally.advance (sort f)) := by
  rw [sort, classifyWithin, classifyWithin]
  split
  · rfl
  dsimp only
  split
  · rfl
  split
  · rfl
  · exact byValue_eq tally f.value

/-- A name that begins a command identifies it. -/
theorem contains_of_begins (h : begins f = true) :
    Highlight.identityNames.contains f.name = true := by
  have hsubset : ∀ name ∈ Highlight.leadingNames,
      Highlight.identityNames.contains name = true := by
    decide
  exact hsubset f.name (List.contains_iff_mem.mp (Bool.and_eq_true_iff.mp h).2)

theorem sort_of_begins (h : begins f = true) : sort f = some .identity := by
  rw [sort, classifyWithin, if_pos (contains_of_begins h)]

/-- A field that begins a command sets the turns back. -/
theorem classify_of_begins (tally : Tally) (h : begins f = true) :
    tally.classify f = (some .identity, start) := by
  rw [classify, if_pos h, classifyWithin_eq, sort_of_begins h]
  rfl

theorem classify_of_not_begins (tally : Tally) (h : begins f = false) :
    tally.classify f = (tally.inTurn (sort f), tally.advance (sort f)) := by
  rw [classify, if_neg (by rw [h]; exact Bool.false_ne_true), classifyWithin_eq]

/-- The class of a field is of its sort, whatever came before. -/
theorem fst_classify (tally : Tally) (f : Field) :
    (tally.classify f).1 = tally.inTurn (sort f) := by
  by_cases h : begins f = true
  · rw [classify_of_begins tally h, sort_of_begins h]
    rfl
  · rw [classify_of_not_begins tally (by simpa using h)]

theorem agrees_inTurn (tally other : Tally) (given : Option Highlight) :
    Option.Rel Highlight.AgreesWith (tally.inTurn given) (other.inTurn given) := by
  rcases given with _ | _ | _ | _ | _ | _
  · exact .none
  · exact .some .identity
  · exact .some (.axis _ _)
  · exact .some (.parameter _ _)
  · exact .some .text
  · exact .some .scalar

/-- The depth of a field does not count. -/
theorem sort_congr (hname : f.name = g.name) (hvalue : f.value = g.value) : sort f = sort g := by
  rw [sort, sort, classifyWithin, classifyWithin, hname, hvalue]

theorem colors_inTurn (palette : Palette) (tally : Tally) (given : Option Highlight) :
    palette.colors (tally.inTurn given) = palette.colors given := by
  rcases given with _ | _ | _ | _ | _ | _ <;> rfl

/-- The turn that a field is given is the next one. -/
theorem eq_next_of_inTurn {palette : Palette} {given : Option Highlight} {slot : Nat}
    (h : tally.inTurn given = some (palette.highlight slot)) : slot = tally.next palette := by
  rcases palette with _ | _ <;> rcases given with _ | _ | _ | _ | _ | _ <;>
    simp_all [inTurn, Palette.highlight, next]

/-- Only a field of its own class advances a turn. -/
theorem next_advance (tally : Tally) (given : Option Highlight) (palette : Palette) :
    (tally.advance given).next palette =
      if palette.colors given then (tally.next palette + 1) % palette.size
      else tally.next palette := by
  rcases palette with _ | _ <;> rcases given with _ | _ | _ | _ | _ | _ <;> rfl

/-! ### Fields and resets in any order -/

/-- What is given to be classed. -/
inductive Input where
  /-- a new command begins -/
  | reset
  | field (field : Field)
deriving DecidableEq

/-- A command begins: with a reset, or with a field that stands in no container and names its
action. -/
def Input.starts : Input → Bool
  | reset => true
  | field f => decide (f.depth = 0 ∧ f.name ∈ ["actionType".toList, "ActionType".toList])

theorem starts_field (f : Field) : (Input.field f).starts = begins f := by
  rw [Input.starts, begins, Bool.decide_and, List.contains_eq_mem]
  rfl

/-- The class of a field, none for a reset, and the turns behind it. -/
def take (tally : Tally) : Input → Option Highlight × Tally
  | .reset => (none, start)
  | .field f => tally.classify f

/-- What was given, and the class of each. -/
abbrev Log := List (Input × Option Highlight)

/-- What is given, each with its class. -/
def run (tally : Tally) : List Input → Log
  | [] => []
  | input :: rest => (input, (tally.take input).1) :: (tally.take input).2.run rest

/-- The turns behind what is given. -/
def after (tally : Tally) (inputs : List Input) : Tally :=
  inputs.foldl (fun tally input => (tally.take input).2) tally

theorem run_append (tally : Tally) (inputs more : List Input) :
    tally.run (inputs ++ more) = tally.run inputs ++ (tally.after inputs).run more := by
  induction inputs generalizing tally with
  | nil => rfl
  | cons input rest ih =>
    rw [List.cons_append, run, run, ih]
    rfl

/-- A place in a run is a place in what was given. -/
theorem exists_of_run_eq {inputs : List Input} {before behind : Log} {input : Input}
    {given : Option Highlight} (h : tally.run inputs = before ++ (input, given) :: behind) :
    ∃ first rest, inputs = first ++ input :: rest ∧ before = tally.run first ∧
      given = ((tally.after first).take input).1 := by
  induction before generalizing tally inputs with
  | nil =>
    cases inputs with
    | nil => cases h
    | cons head rest =>
      obtain ⟨hhead, -⟩ := List.cons.inj h
      obtain ⟨rfl, rfl⟩ := Prod.mk.inj hhead
      exact ⟨[], rest, rfl, rfl, rfl⟩
  | cons entry before ih =>
    cases inputs with
    | nil => cases h
    | cons head inputs =>
      obtain ⟨rfl, htail⟩ := List.cons.inj h
      obtain ⟨first, rest, rfl, rfl, hgiven⟩ := ih htail
      exact ⟨head :: first, rest, rfl, rfl, hgiven⟩

/-- Each class in a run is given by a tally of its own. -/
theorem exists_of_mem_run {inputs : List Input} {input : Input} {given : Option Highlight}
    (h : (input, given) ∈ tally.run inputs) : ∃ within : Tally, given = (within.take input).1 := by
  obtain ⟨before, behind, hsplit⟩ := List.append_of_mem h
  obtain ⟨first, rest, -, -, hgiven⟩ := exists_of_run_eq hsplit
  exact ⟨tally.after first, hgiven⟩

/-! ### The last command -/

/-- The part of a run that belongs to its last command, from the beginning of that on. -/
def sinceStart (log : Log) : Log :=
  log.foldl (fun command entry => if entry.1.starts then [entry] else command ++ [entry]) []

/-- The number of fields of the last command that took a turn. -/
def turns (palette : Palette) (log : Log) : Nat :=
  (sinceStart log).countP fun entry => palette.colors entry.2

theorem sinceStart_concat (log : Log) (entry : Input × Option Highlight) :
    sinceStart (log ++ [entry]) =
      if entry.1.starts then [entry] else sinceStart log ++ [entry] := by
  rw [sinceStart, List.foldl_append]
  rfl

/-- What begins a command takes no turn and leaves all turns at the start. -/
theorem take_of_starts (tally : Tally) {input : Input} (h : input.starts = true) :
    (tally.take input).2 = start ∧
      ∀ palette : Palette, palette.colors (tally.take input).1 = false := by
  cases input with
  | reset => exact ⟨rfl, fun palette => rfl⟩
  | field f =>
    rw [starts_field] at h
    rw [take, classify_of_begins tally h]
    exact ⟨rfl, fun palette => rfl⟩

/-- The next turn is the number of fields of the last command that took a turn. -/
theorem next_after (inputs : List Input) (palette : Palette) :
    (start.after inputs).next palette = turns palette (start.run inputs) % palette.size := by
  induction inputs using List.reverseRecOn with
  | nil => cases palette <;> rfl
  | append_singleton inputs input ih =>
    have hafter : start.after (inputs ++ [input]) = ((start.after inputs).take input).2 := by
      rw [after, List.foldl_append]
      rfl
    rw [hafter, run_append, turns, run, run, sinceStart_concat]
    by_cases hstarts : input.starts = true
    · -- The last command is this input alone, which takes no turn.
      obtain ⟨hturns, hclass⟩ := take_of_starts (start.after inputs) hstarts
      rw [if_pos hstarts, List.countP_singleton, hclass palette, hturns]
      cases palette <;> rfl
    · cases input with
      | reset => exact absurd rfl hstarts
      | field f =>
        have hbegins : begins f = false := by
          rwa [starts_field, Bool.not_eq_true] at hstarts
        -- The count and the turn go up together, or both stay.
        rw [if_neg hstarts, List.countP_append, List.countP_singleton, take,
          classify_of_not_begins _ hbegins, colors_inTurn, next_advance, ih, ← turns]
        split
        · rw [Nat.mod_add_mod]
        · rfl

/-! ### Two palettes -/

/-- The fields that took a turn, each with its class. -/
def shown (palette : Palette) (log : Log) : Log := log.filter fun entry => palette.colors entry.2

theorem shown_append (palette : Palette) (log more : Log) :
    shown palette (log ++ more) = shown palette log ++ shown palette more :=
  List.filter_append log more

/-- The class of a coordinate depends on the turns of coordinates only, and so for parameters. -/
theorem inTurn_congr {palette : Palette} {given : Option Highlight}
    (h : tally.next palette = other.next palette) (hgiven : palette.colors given = true) :
    tally.inTurn given = other.inTurn given := by
  rcases palette with _ | _ <;> rcases given with _ | _ | _ | _ | _ | _ <;>
    simp_all [inTurn, next, Palette.colors, Palette.ofHighlight?]

theorem take_congr {palette : Palette} (h : tally.next palette = other.next palette)
    (input : Input) :
    shown palette [(input, (tally.take input).1)] = shown palette [(input, (other.take input).1)] ∧
      (tally.take input).2.next palette = (other.take input).2.next palette := by
  cases input with
  | reset => exact ⟨rfl, rfl⟩
  | field f =>
    rw [take, take]
    by_cases hbegins : begins f = true
    · rw [classify_of_begins tally hbegins, classify_of_begins other hbegins]
      exact ⟨rfl, rfl⟩
    · have hbegins : begins f = false := Bool.not_eq_true _ ▸ hbegins
      rw [classify_of_not_begins tally hbegins, classify_of_not_begins other hbegins,
        next_advance, next_advance, h]
      refine ⟨?_, rfl⟩
      by_cases hcolors : palette.colors (sort f) = true
      · rw [inTurn_congr h hcolors]
      · simp [shown, colors_inTurn, hcolors]

/-- Each palette minds its own turns only. -/
theorem shown_congr {palette : Palette} (h : tally.next palette = other.next palette)
    (inputs : List Input) :
    shown palette (tally.run inputs) = shown palette (other.run inputs) := by
  induction inputs generalizing tally other with
  | nil => rfl
  | cons input rest ih =>
    obtain ⟨hentry, hbehind⟩ := take_congr h input
    rw [run, run, ← List.singleton_append, shown_append, hentry, ih hbehind, ← shown_append,
      List.singleton_append]

/-- A field of another class that begins no command may as well be left out. -/
theorem shown_leave_out {palette : Palette} {f : Field} {first : List Input} (rest : List Input)
    (hbegins : begins f = false)
    (hcolors : palette.colors ((start.after first).classify f).1 = false) :
    shown palette (start.run (first ++ rest)) =
      shown palette (start.run (first ++ .field f :: rest)) := by
  have hentry : shown palette [(.field f, ((start.after first).take (.field f)).1)] = [] :=
    List.filter_eq_nil_iff.mpr (by simpa [take] using hcolors)
  have hturn : ((start.after first).take (.field f)).2.next palette =
      (start.after first).next palette := by
    rw [classify_of_not_begins _ hbegins, colors_inTurn] at hcolors
    rw [take, classify_of_not_begins _ hbegins, next_advance, if_neg (by simp [hcolors])]
  rw [run_append, run_append, run, ← List.singleton_append, shown_append, shown_append,
    shown_append, hentry, List.nil_append, shown_congr hturn]

/-! ### Whole runs -/

/-- What is to be expected of the classes that fields and resets are given in a row. -/
structure TakesTurns (inputs : List Input) : Prop where
  /-- the turn of a coordinate is the number of coordinates before it in its command, and that of a
  parameter the number of parameters, modulo the number of colors -/
  turn : ∀ (palette : Palette) before f slot behind,
    start.run inputs = before ++ (.field f, some (palette.highlight slot)) :: behind →
      slot = turns palette before % palette.size
  /-- without a field of another class that begins no command, the coordinates are given the same
  classes, and so are the parameters -/
  undisturbed : ∀ (palette : Palette) first f rest, inputs = first ++ .field f :: rest →
    (Input.field f).starts = false → palette.colors ((start.after first).classify f).1 = false →
      shown palette (start.run (first ++ rest)) = shown palette (start.run inputs)
  /-- but for their turns, fields of the same name and value are given the same class wherever they
  stand -/
  sameClass : ∀ others f g given given', (.field f, given) ∈ start.run inputs →
    (.field g, given') ∈ start.run others → f.name = g.name → f.value = g.value →
      Option.Rel Highlight.AgreesWith given given'

/-- In every run the fields take turns. -/
theorem takesTurns (inputs : List Input) : TakesTurns inputs := by
  constructor
  case turn =>
    intro palette before f slot behind hrun
    obtain ⟨first, rest, -, rfl, hgiven⟩ := exists_of_run_eq hrun
    rw [take] at hgiven
    by_cases hbegins : begins f = true
    · rw [classify_of_begins _ hbegins] at hgiven
      cases palette <;> cases hgiven
    · rw [classify_of_not_begins _ (by simpa using hbegins)] at hgiven
      rw [eq_next_of_inTurn hgiven.symm, next_after]
  case undisturbed =>
    rintro palette first f rest rfl hstarts hcolors
    exact shown_leave_out rest (starts_field f ▸ hstarts) hcolors
  case sameClass =>
    intro others f g given given' hf hg hname hvalue
    obtain ⟨tally, rfl⟩ := exists_of_mem_run hf
    obtain ⟨other, rfl⟩ := exists_of_mem_run hg
    rw [take, take, fst_classify, fst_classify, sort_congr hname hvalue]
    exact agrees_inTurn tally other (sort g)

-- The name of the action in a container counts for nothing, and neither do colors of other kinds.
example :
    let number (name : String) (depth : Nat) : Input := .field ⟨name.toList, .scalar ['0'], depth⟩
    (start.run [number "j1" 0, number "tool" 0, number "actionType" 1, number " X" 0,
      number "actionType" 0, number "J7" 1, .reset, number "speed" 0]).map Prod.snd =
        [some (.axis 0), some (.parameter 0), some .identity, some (.axis 1),
          some .identity, some (.axis 0), none, some (.parameter 0)] := by
  decide +kernel

end Tally

end MotionLink
