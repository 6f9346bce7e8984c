import Mathlib.Data.List.Induction
import MotionLink.Proofs.Log.Turns

/-!
# Classes of containers

A container has no class of its own unless its name stands in one of the tables, and such a name is
looked up before the value is. A container without a class leaves no trace in the classes of other
fields. One with a name out of a table takes its turn like any other value of that name, and moves
the turns of all fields of its kind behind it.

## Main definitions

* `Highlight.isListed` — the name stands in one of the tables
* `Tally.IgnoresContainers` — no container has a class or bears on the class of another field
* `Tally.ClassesContainers` — what is to be expected of containers among some fields

## Main results

* `Tally.sort_eq_none_iff` — the fields that have no class
* `Tally.filter_run` — these can be left out
* `Tally.classesContainers` — whatever fields are classed, and when containers are ignored
* `Tally.not_ignoresContainers` — they are not always
-/

namespace MotionLink

/-- The name stands in one of the tables, where the case counts only for names that identify a
command. -/
def Highlight.isListed (name : List Char) : Bool :=
  identityNames.contains name || axisNames.contains (Text.lower (Text.trim name)) ||
    parameterNames.contains (Text.lower (Text.trim name))

namespace Tally

open Highlight (isListed)

variable {tally : Tally} {f g : Field} {fields : List Field}

/-! ### Fields without a class -/

/-- A container whose name stands in no table. -/
def isSilent (f : Field) : Bool := f.value.isContainer && !isListed f.name

theorem byValue_eq_none_iff {value : FieldValue} :
    byValue value = none ↔ value.isContainer = true := by
  cases value with
  | text chars => cases chars <;> simp [byValue, FieldValue.isContainer]
  | scalar chars => simp [byValue, FieldValue.isContainer]
  | container kind => simp [byValue, FieldValue.isContainer]

/-- Where the name stands in no table, the value decides. -/
theorem sort_of_not_isListed (h : isListed f.name = false) : sort f = byValue f.value := by
  rw [isListed, Bool.or_eq_false_iff, Bool.or_eq_false_iff] at h
  obtain ⟨⟨hidentity, haxis⟩, hparameter⟩ := h
  rw [sort, classifyWithin]
  dsimp only
  rw [hidentity, haxis, hparameter]
  rfl

/-- Where the name stands in a table, it alone decides. -/
theorem sort_of_isListed (h : isListed f.name = true) (hname : f.name = g.name) :
    sort f = sort g ∧ sort f ≠ none := by
  rw [isListed, Bool.or_eq_true, Bool.or_eq_true] at h
  rw [sort, sort, classifyWithin, classifyWithin, ← hname]
  dsimp only
  split
  · exact ⟨rfl, Option.some_ne_none _⟩
  split
  · exact ⟨rfl, Option.some_ne_none _⟩
  split
  · exact ⟨rfl, Option.some_ne_none _⟩
  · -- The name stands in none of the tables.
    rename_i hidentity haxis hparameter
    exact absurd h (not_or.mpr ⟨not_or.mpr ⟨hidentity, haxis⟩, hparameter⟩)

/-- Nothing but a container whose name stands in no table goes without a class. -/
theorem sort_eq_none_iff : sort f = none ↔ isSilent f = true := by
  rw [isSilent]
  cases hlisted : isListed f.name with
  | true => simpa using (sort_of_isListed hlisted (Eq.refl f.name)).2
  | false => simp [sort_of_not_isListed hlisted, byValue_eq_none_iff]

theorem isListed_of_begins (h : begins f = true) : isListed f.name = true := by
  rw [isListed, contains_of_begins h]
  rfl

theorem inTurn_eq_none_iff {given : Option Highlight} :
    tally.inTurn given = none ↔ given = none := by
  rcases given with _ | _ | _ | _ | _ | _ <;> simp [inTurn]

theorem fst_classify_eq_none_iff : (tally.classify f).1 = none ↔ isSilent f = true := by
  rw [fst_classify, inTurn_eq_none_iff, sort_eq_none_iff]

/-- A field without a class moves no turn. -/
theorem classify_of_isSilent (tally : Tally) (h : isSilent f = true) :
    tally.classify f = (none, tally) := by
  have hbegins : begins f = false := by
    refine Bool.eq_false_iff.mpr fun hbegins => ?_
    simp [isSilent, isListed_of_begins hbegins] at h
  rw [classify_of_not_begins tally hbegins, sort_eq_none_iff.mpr h]
  rfl

/-! ### Fields in a row -/

/-- What is given when fields are classed one after the other. -/
def row (fields : List Field) : List Input := fields.map .field

theorem run_row_cons (tally : Tally) (f : Field) (rest : List Field) :
    tally.run (row (f :: rest)) =
      (.field f, (tally.classify f).1) :: (tally.classify f).2.run (row rest) :=
  rfl

/-- Fields without a class can be left out. -/
theorem filter_run (tally : Tally) (fields : List Field) :
    (tally.run (row fields)).filter (·.2.isSome) =
      tally.run (row (fields.filter (!isSilent ·))) := by
  induction fields generalizing tally with
  | nil => rfl
  | cons f rest ih =>
    rw [run_row_cons]
    by_cases h : isSilent f = true
    · rw [classify_of_isSilent tally h, List.filter_cons_of_neg (by simp),
        List.filter_cons_of_neg (by simp [h]), ih]
    · have hclass : (tally.classify f).1.isSome = true :=
        Option.isSome_iff_ne_none.mpr (mt fst_classify_eq_none_iff.mp h)
      rw [List.filter_cons_of_pos (by exact hclass), List.filter_cons_of_pos (by simp [h]), ih]
      rfl

/-- A field with another value, if its name stands in a table. -/
def revalued (value : Field → FieldValue) (f : Field) : Field :=
  if isListed f.name then { f with value := value f } else f

theorem classify_revalued (tally : Tally) (value : Field → FieldValue) (f : Field) :
    tally.classify (revalued value f) = tally.classify f := by
  rw [revalued]
  split
  · rename_i hlisted
    have hsort : sort { f with value := value f } = sort f :=
      (sort_of_isListed (f := { f with value := value f }) (g := f) hlisted rfl).1
    rw [classify, classify, classifyWithin_eq, classifyWithin_eq, hsort]
    rfl
  · rfl

theorem map_snd_run_revalued (tally : Tally) (value : Field → FieldValue) (fields : List Field) :
    (tally.run (row (fields.map (revalued value)))).map Prod.snd =
      (tally.run (row fields)).map Prod.snd := by
  induction fields generalizing tally with
  | nil => rfl
  | cons f rest ih =>
    rw [List.map_cons, run_row_cons, run_row_cons, List.map_cons, List.map_cons, classify_revalued,
      ih]

/-! ### Containers -/

/-- What is given when containers are left out. One that begins a command leaves a reset. -/
def withoutContainers (fields : List Field) : List Input :=
  fields.flatMap fun f =>
    if f.value.isContainer then (if begins f then [.reset] else []) else [.field f]

/-- A field that is no container. -/
def Input.isContent : Input → Bool
  | reset => false
  | field f => !f.value.isContainer

/-- The classes of fields that are no containers. -/
def contents (log : Log) : Log := log.filter fun entry => entry.1.isContent

/-- No container has a class or bears on the class of another field. -/
structure IgnoresContainers (fields : List Field) : Prop where
  /-- no container has a class, whatever its name and depth -/
  unclassed : ∀ f given, (.field f, given) ∈ start.run (row fields) →
    f.value.isContainer = true → given = none
  /-- all other fields have the classes that they have when the containers are left out, where one
  that begins a command still does so -/
  unmoved : contents (start.run (row fields)) = contents (start.run (withoutContainers fields))

/-- What is to be expected of containers among the fields that are classed in a row. -/
structure ClassesContainers (fields : List Field) : Prop where
  /-- a container has no class exactly if its name stands in no table; any other field has one -/
  none_iff : ∀ f given, (.field f, given) ∈ start.run (row fields) →
    (given = none ↔ f.value.isContainer = true ∧ isListed f.name = false)
  /-- without the containers that have no class, all other fields are classed as they are with
  them -/
  left_out : (start.run (row fields)).filter (·.2.isSome) =
    start.run (row (fields.filter fun f => !(f.value.isContainer && !isListed f.name)))
  /-- where the name stands in a table, a container is classed, and counted, as any other value
  in its place -/
  any_value : ∀ value : Field → FieldValue,
    (start.run (row (fields.map (revalued value)))).map Prod.snd =
      (start.run (row fields)).map Prod.snd
  /-- containers are ignored exactly if no name of one stands in a table -/
  ignores_iff : IgnoresContainers fields ↔
    ∀ f ∈ fields, f.value.isContainer = true → isListed f.name = false

theorem eq_none_iff_of_mem_run {inputs : List Input} {given : Option Highlight}
    (h : (.field f, given) ∈ tally.run inputs) : given = none ↔ isSilent f = true := by
  obtain ⟨within, rfl⟩ := exists_of_mem_run h
  exact fst_classify_eq_none_iff

theorem map_fst_run (tally : Tally) (inputs : List Input) :
    (tally.run inputs).map Prod.fst = inputs := by
  induction inputs generalizing tally with
  | nil => rfl
  | cons input rest ih => rw [run, List.map_cons, ih]

theorem exists_mem_run_row (tally : Tally) (h : f ∈ fields) :
    ∃ given, (.field f, given) ∈ tally.run (row fields) := by
  have hmem : .field f ∈ (tally.run (row fields)).map Prod.fst := by
    rw [map_fst_run]
    exact List.mem_map_of_mem h
  obtain ⟨⟨input, given⟩, hentry, rfl⟩ := List.mem_map.mp hmem
  exact ⟨given, hentry⟩

/-- Fields other than containers always have a class. -/
theorem contents_filter_run (tally : Tally) (inputs : List Input) :
    contents ((tally.run inputs).filter (·.2.isSome)) = contents (tally.run inputs) := by
  rw [contents, List.filter_filter, contents]
  refine List.filter_congr fun entry hentry => ?_
  obtain ⟨input, given⟩ := entry
  cases input with
  | reset => rfl
  | field f =>
    cases given with
    | some highlight => exact Bool.and_true _
    | none =>
      have hsilent : isSilent f = true := (eq_none_iff_of_mem_run hentry).mp rfl
      simp [Input.isContent, (Bool.and_eq_true_iff.mp hsilent).1]

theorem withoutContainers_eq
    (h : ∀ f ∈ fields, f.value.isContainer = true → isListed f.name = false) :
    withoutContainers fields = row (fields.filter (!isSilent ·)) := by
  induction fields with
  | nil => rfl
  | cons f rest ih =>
    obtain ⟨hf, hrest⟩ := List.forall_mem_cons.mp h
    rw [withoutContainers, List.flatMap_cons, ← withoutContainers, ih hrest]
    by_cases hcontainer : f.value.isContainer = true
    · have hlisted := hf hcontainer
      have hbegins : begins f = false :=
        Bool.eq_false_iff.mpr fun hbegins => by simp [isListed_of_begins hbegins] at hlisted
      rw [if_pos hcontainer, if_neg (by simp [hbegins]),
        List.filter_cons_of_neg (by simp [isSilent, hcontainer, hlisted])]
      rfl
    · rw [if_neg hcontainer, List.filter_cons_of_pos (by simp [isSilent, hcontainer])]
      rfl

/-- Containers are ignored exactly if no name of one stands in a table. -/
theorem ignoresContainers_iff : IgnoresContainers fields ↔
    ∀ f ∈ fields, f.value.isContainer = true → isListed f.name = false := by
  constructor
  · -- A container whose name stands in a table would have a class.
    intro h f hf hcontainer
    obtain ⟨given, hgiven⟩ := exists_mem_run_row start hf
    have hsilent := (eq_none_iff_of_mem_run hgiven).mp (h.unclassed f given hgiven hcontainer)
    simpa using (Bool.and_eq_true_iff.mp hsilent).2
  · intro h
    constructor
    case unclassed =>
      intro f given hgiven hcontainer
      have hf : f ∈ fields := by
        have hinput := List.mem_map_of_mem (f := Prod.fst) hgiven
        rw [map_fst_run] at hinput
        simpa [row] using hinput
      exact (eq_none_iff_of_mem_run hgiven).mpr (by simp [isSilent, hcontainer, h f hf hcontainer])
    case unmoved =>
      -- Nothing is left out but fields without a class.
      rw [withoutContainers_eq h, ← filter_run, contents_filter_run]

/-- Whatever fields are classed, the containers among them are classed by their names. -/
theorem classesContainers (fields : List Field) : ClassesContainers fields := by
  constructor
  case none_iff =>
    intro f given hgiven
    rw [eq_none_iff_of_mem_run hgiven, isSilent, Bool.and_eq_true_iff, Bool.not_eq_true']
  case left_out => exact filter_run start fields
  case any_value => exact fun value => map_snd_run_revalued start value fields
  case ignores_iff => exact ignoresContainers_iff

/-- A tool that is an object takes the first turn, and the speed in it the second one. -/
theorem not_ignoresContainers :
    ¬IgnoresContainers [⟨"tool".toList, .container .object, 0⟩,
      ⟨"speed".toList, .scalar "0.5".toList, 1⟩] := by
  intro h
  have hunmoved := h.unmoved
  revert hunmoved
  decide +kernel

end Tally

end MotionLink
