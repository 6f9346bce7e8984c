import MotionLink.Proofs.Json.ReadBack
import MotionLink.Proofs.Log.Bounds
import MotionLink.Terminal.JsonLines

/-!
# What the object of a line or a record holds

A line is shown with its kind, a record with its header and its fields. Of each field the object
tells the name, the type and the value, the depth and the class, and what the field is grouped
with; a field without a class has neither a class nor a group. The words are those that a reader of
the output has to know.

## Main definitions

* `Entry` — a line or a record
* `Entry.valueMembers`, `Entry.classMembers` — what is told of a value and of a class
* `Entry.json` — the object of a line or a record

## Main results

* `Entry.json_injective` — the object tells everything of a line or a record
* `Entry.readFirst_json` — it is read back from its text
* `JsonLines.fieldJson_eq`, `JsonLines.lineJson_eq`, `JsonLines.recordJson_eq` — this is what a
  display writes
-/

namespace MotionLink

/-- A line that belongs to no record, or a record. -/
inductive Entry where
  | line (chars : List Char) (kind : LineKind)
  /-- with the fields in order, each with its class -/
  | record (header : List Char) (fields : List (Field × Option Highlight))
deriving DecidableEq

namespace Entry

/-- The word for a kind of line. -/
def kindWord : LineKind → String
  | .command => "structured_command"
  | .error => "error"
  | .warning => "warning"
  | .info => "info"
  | .plain => "plain"

/-- What is said of a value: its type, and the value as printed or what a container holds. -/
def valueMembers : FieldValue → List (String × Json)
  | .text chars => [("type", .string "text"), ("value", .string (String.ofList chars))]
  | .scalar chars => [("type", .string "scalar"), ("value", .string (String.ofList chars))]
  | .container .object => [("type", .string "nested"), ("value", .string "object")]
  | .container .array => [("type", .string "nested"), ("value", .string "array")]

/-- What is said of a class: its name and its role in a group, each with the turn if there is one.
Nothing is said where a field has no class. -/
def classMembers : Option Highlight → List (String × Json)
  | none => []
  | some .identity =>
    [("class", .string "identity"), ("group", .object [("role", .string "scalar")])]
  | some (.axis slot) =>
    [("class", .string "axis_slot"), ("slot", .integer slot),
     ("group", .object [("role", .string "axis_slot"), ("slot", .integer slot)])]
  | some (.parameter slot) =>
    [("class", .string "param_slot"), ("slot", .integer slot),
     ("group", .object [("role", .string "param_slot"), ("slot", .integer slot)])]
  | some .text =>
    [("class", .string "default_string"), ("group", .object [("role", .string "scalar")])]
  | some .scalar =>
    [("class", .string "default_scalar"), ("group", .object [("role", .string "scalar")])]

/-- The object of a field. -/
def fieldObject (f : Field × Option Highlight) : Json :=
  .object
    ([("name", .string (String.ofList f.1.name))] ++ valueMembers f.1.value ++
      [("depth", .integer f.1.depth)] ++ classMembers f.2)

/-- The object of a line or a record. -/
def json : Entry → Json
  | line chars kind =>
    .object [("kind", .string (kindWord kind)), ("line", .string (String.ofList chars))]
  | record header fields =>
    .object
      [("kind", .string "structured_command"), ("header", .string (String.ofList header)),
       ("fields", .array (fields.map fieldObject))]

/-- The line, where it is one. -/
def line? : Entry → Option (List Char × LineKind)
  | line chars kind => some (chars, kind)
  | record .. => none

/-- The header, where it is a record. -/
def header? : Entry → Option (List Char)
  | line .. => none
  | record header _ => some header

/-- The fields of a record; a line has none. -/
def fields : Entry → List (Field × Option Highlight)
  | line .. => []
  | record _ fields => fields

/-! ### The object tells everything -/

theorem kindWord_injective : Function.Injective kindWord := by
  intro kind other h
  cases kind <;> cases other <;> first | rfl | simp [kindWord] at h

theorem valueMembers_injective : Function.Injective valueMembers := by
  rintro (chars | chars | _ | _) (others | others | _ | _) h <;>
    simp_all [valueMembers, String.ofList_inj]

theorem classMembers_injective : Function.Injective classMembers := by
  rintro (_ | _ | slot | slot | _ | _) (_ | _ | other | other | _ | _) h <;>
    simp_all [classMembers]

theorem map_fst_valueMembers (value : FieldValue) :
    (valueMembers value).map Prod.fst = ["type", "value"] := by
  rcases value with _ | _ | (_ | _) <;> rfl

theorem length_valueMembers (value : FieldValue) : (valueMembers value).length = 2 := by
  simpa using congrArg List.length (map_fst_valueMembers value)

theorem fieldObject_injective : Function.Injective fieldObject := by
  rintro ⟨⟨name, value, depth⟩, highlight⟩ ⟨⟨name', value', depth'⟩, highlight'⟩ h
  simp only [fieldObject, Json.object.injEq, List.append_assoc, List.cons_append,
    List.nil_append, List.cons.injEq, Prod.mk.injEq, Json.string.injEq, String.ofList_inj,
    true_and] at h
  obtain ⟨rfl, hmembers⟩ := h
  -- Every value has two members, so what stands behind them can be told apart.
  obtain ⟨hvalue, hrest⟩ := List.append_inj hmembers
    (by rw [length_valueMembers, length_valueMembers])
  simp only [List.cons.injEq, Prod.mk.injEq, Json.integer.injEq, Int.natCast_inj, true_and] at hrest
  obtain ⟨rfl, hclass⟩ := hrest
  rw [valueMembers_injective hvalue, classMembers_injective hclass]

/-- No two lines or records have the same object. -/
theorem json_injective : Function.Injective json := by
  rintro (⟨chars, kind⟩ | ⟨header, fields⟩) (⟨chars', kind'⟩ | ⟨header', fields'⟩) h
  · simp only [json, Json.object.injEq, List.cons.injEq, Prod.mk.injEq, Json.string.injEq,
      String.ofList_inj, true_and, and_true] at h
    rw [kindWord_injective h.1, h.2]
  · simp [json] at h
  · simp [json] at h
  · simp only [json, Json.object.injEq, List.cons.injEq, Prod.mk.injEq, Json.string.injEq,
      Json.array.injEq, String.ofList_inj, true_and, and_true] at h
    rw [h.1, fieldObject_injective.list_map h.2]

/-! ### The object reads back -/

theorem nodup_map_fst_fieldObject (value : FieldValue) (highlight : Option Highlight) :
    ("name" :: (valueMembers value).map Prod.fst ++
      "depth" :: (classMembers highlight).map Prod.fst).Nodup := by
  rw [map_fst_valueMembers]
  rcases highlight with _ | (_ | _ | _ | _ | _) <;> simp [classMembers]

theorem readable_valueMembers (value : FieldValue) (depth : Nat) :
    ∀ m ∈ valueMembers value, Json.Readable depth m.2 := by
  rcases value with _ | _ | (_ | _) <;>
    exact List.forall_mem_cons.mpr ⟨.string _ _, List.forall_mem_singleton.mpr (.string _ _)⟩

theorem readable_nat {n : Nat} (h : n < Json.NumberText.wordLimit) (depth : Nat) :
    Json.Readable depth (.integer n) :=
  .integer depth (by omega) (by omega)

/-- A class without a turn. -/
theorem readable_plainClass (name : String) (depth : Nat) :
    ∀ m ∈ [("class", Json.string name), ("group", .object [("role", .string "scalar")])],
      Json.Readable (depth + 1) m.2 := by
  have hgroup : Json.Readable (depth + 1) (.object [("role", .string "scalar")]) :=
    .object (by simp) (List.forall_mem_singleton.mpr (.string _ _))
  exact List.forall_mem_cons.mpr ⟨.string _ _, List.forall_mem_singleton.mpr hgroup⟩

/-- A class whose turn it is. -/
theorem readable_classInTurn {slot : Nat} (hslot : slot < Json.NumberText.wordLimit)
    (name : String) (depth : Nat) :
    ∀ m ∈ [("class", Json.string name), ("slot", .integer slot),
        ("group", .object [("role", .string name), ("slot", .integer slot)])],
      Json.Readable (depth + 1) m.2 := by
  have hgroup : Json.Readable (depth + 1)
      (.object [("role", .string name), ("slot", .integer slot)]) :=
    .object (by simp) (List.forall_mem_cons.mpr
      ⟨.string _ _, List.forall_mem_singleton.mpr (readable_nat hslot _)⟩)
  exact List.forall_mem_cons.mpr ⟨.string _ _, List.forall_mem_cons.mpr
    ⟨readable_nat hslot _, List.forall_mem_singleton.mpr hgroup⟩⟩

theorem readable_classMembers {f : Field × Option Highlight} (h : IsBounded f) (depth : Nat) :
    ∀ m ∈ classMembers f.2, Json.Readable (depth + 1) m.2 := by
  have hsize (palette : Palette) : palette.size < Json.NumberText.wordLimit := by
    cases palette <;> decide
  obtain ⟨f, _ | (_ | slot | slot | _ | _)⟩ := f
  · exact nofun
  · exact readable_plainClass _ depth
  · exact readable_classInTurn ((h.slot .axis slot rfl).trans (hsize .axis)) _ depth
  · exact readable_classInTurn ((h.slot .parameter slot rfl).trans (hsize .parameter)) _ depth
  · exact readable_plainClass _ depth
  · exact readable_plainClass _ depth

theorem readable_fieldObject {f : Field × Option Highlight} (h : IsBounded f) (depth : Nat) :
    Json.Readable (depth + 2) (fieldObject f) := by
  have hdepth : f.1.depth < Json.NumberText.wordLimit := h.depth.trans (by decide)
  refine .object ?_ ?_
  · simpa using nodup_map_fst_fieldObject f.1.value f.2
  · simp only [List.forall_mem_append, List.forall_mem_singleton]
    exact ⟨⟨⟨.string _ _, readable_valueMembers f.1.value _⟩, readable_nat hdepth _⟩,
      readable_classMembers h depth⟩

/-- Containers are nested four deep at most. -/
theorem readable_json {entry : Entry} (h : ∀ f ∈ entry.fields, IsBounded f) (depth : Nat) :
    Json.Readable (depth + 4) entry.json := by
  cases entry with
  | line chars kind =>
    refine .object (by simp) ?_
    simp only [List.forall_mem_cons]
    exact ⟨.string _ _, .string _ _, nofun⟩
  | record header fields =>
    have hfields : Json.Readable (depth + 3) (.array (fields.map fieldObject)) := by
      refine .array ?_
      rintro _ hmem
      obtain ⟨f, hf, rfl⟩ := List.mem_map.mp hmem
      exact readable_fieldObject (h f hf) depth
    refine .object (by simp) ?_
    simp only [List.forall_mem_cons]
    exact ⟨.string _ _, .string _ _, hfields, nofun⟩

/-- An object is read back from its line. -/
theorem readFirst_json {entry : Entry} (h : ∀ f ∈ entry.fields, IsBounded f) :
    Json.readFirst entry.json.chars = some (entry.json, []) := by
  have hread : Json.readFirst (entry.json.chars ++ []) = some (entry.json, []) :=
    Json.readFirst_chars (readable_json h 123) nofun
  rwa [List.append_nil] at hread

/-- Whatever is shown is a line or has a header. -/
theorem length_eq (shown : List Entry) :
    shown.length = (shown.filterMap line?).length + (shown.filterMap header?).length := by
  induction shown with
  | nil => rfl
  | cons entry rest ih =>
    cases entry with
    | line | record =>
      simp only [List.filterMap_cons, line?, header?, List.length_cons, ih]
      omega

end Entry

namespace JsonLines

/-- What is written of a field is what its object holds. -/
theorem fieldJson_eq (f : Field × Option Highlight) : fieldJson f = Entry.fieldObject f := by
  obtain ⟨⟨name, value, depth⟩, highlight⟩ := f
  rcases value with _ | _ | (_ | _) <;> rcases highlight with _ | (_ | _ | _ | _ | _) <;> rfl

theorem lineJson_eq (chars : List Char) (kind : LineKind) :
    lineJson chars kind = (Entry.line chars kind).json := by
  cases kind <;> rfl

theorem recordJson_eq (r : OpenRecord) :
    recordJson r = (Entry.record r.header r.fields.reverse).json := by
  rw [recordJson, Entry.json, List.map_congr_left fun f _ => fieldJson_eq f]
  rfl

end JsonLines

end MotionLink
