import Mathlib.Data.List.TakeWhile
import MotionLink.Proofs.Log.Payloads

/-!
# Fields as a tree in preorder

The fields of a payload are its members and all that they hold, each value before what it holds.
Their depths alone tell which of them belong together: a container owns the deeper fields that
follow it at once. So the payload can be put together again from its fields, except that a number
or another scalar is left as it was printed.

## Main definitions

* `Printed` — a JSON value up to the printed form of its scalars
* `Place`, `InPreorder` — a value at its place in a tree, and the order in which trees are walked
* `Place.IsGradual` — depth rises by one, into a container that holds something
* `Place.rebuild` — the values at the places that a row of fields describes
* `Flattens` — a row of fields that is a tree in preorder

## Main results

* `InPreorder.isGradual` — depth on a walk
* `InPreorder.rebuild` — a walk can be put together again
* `Flattens.ofMembers` — the fields of an object are its members in preorder
* `Flattens.ofMembers_eq_iff` — they tell objects apart
* `Payload.flattens` — so are those that a line shows, and no other object has them
-/

namespace MotionLink

/-- A JSON value up to the printed form of its scalars. -/
inductive Printed where
  | text (chars : List Char)
  /-- a number, a truth value or nothing, as printed -/
  | scalar (chars : List Char)
  | array (items : List Printed)
  | object (members : List (List Char × Printed))

namespace Printed

mutual

/-- A value with its scalars printed. -/
def ofJson : Json → Printed
  | .object members => .object (ofMembers members)
  | .array items => .array (ofItems items)
  | .string s => .text s.toList
  | v => .scalar v.chars

/-- The members of an object with their scalars printed. -/
def ofMembers : List (String × Json) → List (List Char × Printed)
  | [] => []
  | (name, v) :: rest => (name.toList, ofJson v) :: ofMembers rest

/-- The items of an array with their scalars printed. -/
def ofItems : List Json → List Printed
  | [] => []
  | v :: rest => ofJson v :: ofItems rest

end

/-- The items of an array from a place on, named by their places in brackets. -/
def named (index : Nat) (items : List Printed) : List (List Char × Printed) :=
  (items.zipIdx index).map fun item => ('[' :: Nat.toDigits 10 item.2 ++ [']'], item.1)

/-- What a value holds, with names. -/
def children : Printed → List (List Char × Printed)
  | array items => named 0 items
  | object members => members
  | _ => []

/-- How a value itself is shown. -/
def fieldValue : Printed → FieldValue
  | text chars => .text chars
  | scalar chars => .scalar chars
  | array _ => .container .array
  | object _ => .container .object

/-- The value that is shown in this way and holds these. -/
def assembled : FieldValue → List (List Char × Printed) → Printed
  | .text chars, _ => text chars
  | .scalar chars, _ => scalar chars
  | .container .array, below => array (below.map Prod.snd)
  | .container .object, below => object below

theorem map_snd_named (index : Nat) (items : List Printed) :
    (named index items).map Prod.snd = items := by
  rw [named, List.map_map]
  exact List.zipIdx_map_fst index items

/-- How a value is shown and what it holds make up the value. -/
theorem assembled_fieldValue (v : Printed) : assembled v.fieldValue v.children = v := by
  cases v with
  | text chars => rfl
  | scalar chars => rfl
  | array items => exact congrArg array (map_snd_named 0 items)
  | object members => rfl

/-- What holds something is shown as a container. -/
theorem isContainer_fieldValue {v : Printed} (h : v.children ≠ []) :
    v.fieldValue.isContainer = true := by
  cases v with
  | text chars => exact absurd rfl h
  | scalar chars => exact absurd rfl h
  | array items => rfl
  | object members => rfl

end Printed

/-- A value at a place of a tree. -/
structure Place where
  name : List Char
  value : Printed
  /-- the number of containers around it -/
  depth : Nat

namespace Place

/-- Named values next to each other. -/
def row (depth : Nat) (members : List (List Char × Printed)) : List Place :=
  members.map fun m => ⟨m.1, m.2, depth⟩

/-- What the value at a place holds. -/
def below (p : Place) : List Place := row (p.depth + 1) p.value.children

theorem depth_of_mem_row {depth : Nat} {members : List (List Char × Printed)} {p : Place}
    (h : p ∈ row depth members) : p.depth = depth := by
  obtain ⟨m, -, rfl⟩ := List.mem_map.mp h
  rfl

theorem map_row (depth : Nat) (members : List (List Char × Printed)) :
    (row depth members).map (fun p => (p.name, p.value)) = members := by
  rw [row, List.map_map]
  exact List.map_id members

theorem depth_of_mem_below {p q : Place} (h : q ∈ p.below) : q.depth = p.depth + 1 :=
  depth_of_mem_row h

/-- How a place is shown. -/
def field (p : Place) : Field := ⟨p.name, p.value.fieldValue, p.depth⟩

/-- What may follow a place: never anything more than one level deeper, and something deeper
exactly if the place is a container that holds anything. -/
structure IsFollowedBy (p : Place) (next : Option Place) : Prop where
  gradual : ∀ q ∈ next, q.depth ≤ p.depth + 1
  rises : (∃ q ∈ next, p.depth < q.depth) ↔
    p.field.value.isContainer = true ∧ p.value.children ≠ []

/-- Every place is followed by what may follow it. -/
def IsGradual : List Place → Prop
  | [] => True
  | p :: rest => p.IsFollowedBy rest.head? ∧ IsGradual rest

/-- There are more containers around the place. -/
def isDeeper (depth : Nat) (p : Place) : Bool := depth < p.depth

/-- The outermost values that a row of fields describes: a field owns the deeper ones that follow
it at once. -/
def rebuild : List Field → List Place
  | [] => []
  | f :: rest =>
    let owned := (rebuild rest).takeWhile (isDeeper f.depth)
    ⟨f.name, .assembled f.value (owned.map fun p => (p.name, p.value)), f.depth⟩ ::
      (rebuild rest).dropWhile (isDeeper f.depth)

variable {roots held next : List Place} {depth : Nat}

/-- Nothing deeper than these stands behind them. -/
theorem head?_append_le (hroots : ∀ p ∈ roots, p.depth = depth)
    (hnext : ∀ p ∈ next.head?, p.depth ≤ depth) :
    ∀ p ∈ (roots ++ next).head?, p.depth ≤ depth := by
  cases roots with
  | nil => exact hnext
  | cons q rest =>
    rintro p ⟨⟩
    exact (hroots q List.mem_cons_self).le

/-- The deeper places at the front are what is held, if what follows them is no deeper. -/
theorem span_isDeeper (hheld : ∀ p ∈ held, isDeeper depth p = true)
    (hnext : ∀ p ∈ next.head?, p.depth ≤ depth) :
    (held ++ next).takeWhile (isDeeper depth) = held ∧
      (held ++ next).dropWhile (isDeeper depth) = next := by
  rw [List.takeWhile_append_of_pos hheld, List.dropWhile_append_of_pos hheld]
  cases next with
  | nil => simp
  | cons q rest =>
    have hq : ¬isDeeper depth q = true := by simpa [isDeeper] using hnext q rfl
    rw [List.takeWhile_cons_of_neg hq, List.dropWhile_cons_of_neg hq, List.append_nil]
    exact ⟨rfl, rfl⟩

/-- Before what a place holds stands its own field. -/
theorem rebuild_field {p : Place} {fields : List Field}
    (h : rebuild fields = p.below ++ next) (hnext : ∀ q ∈ next.head?, q.depth ≤ p.depth) :
    rebuild (p.field :: fields) = p :: next := by
  have hdeeper : ∀ q ∈ p.below, isDeeper p.depth q = true := fun q hq => by
    simp [isDeeper, depth_of_mem_below hq]
  obtain ⟨htake, hdrop⟩ := span_isDeeper hdeeper hnext
  have hvalue : Printed.assembled p.value.fieldValue (p.below.map fun q => (q.name, q.value)) =
      p.value := by
    rw [below, map_row]
    exact p.value.assembled_fieldValue
  rw [rebuild, h, field, htake, hdrop, hvalue]

end Place

/-- The places of some trees in preorder: a value stands before what it holds, and a whole tree
before the next one. -/
inductive InPreorder : (roots places : List Place) → Prop where
  | nil : InPreorder [] []
  | cons {p : Place} {rest inner behind : List Place} (below : InPreorder p.below inner)
      (next : InPreorder rest behind) : InPreorder (p :: rest) (p :: inner ++ behind)

open Place (row IsGradual)

variable {roots places next : List Place} {depth : Nat}

namespace InPreorder

/-- There is one walk only. -/
theorem unique {places' : List Place} (h : InPreorder roots places)
    (h' : InPreorder roots places') : places = places' := by
  induction h generalizing places' with
  | nil =>
    cases h'
    rfl
  | cons _ _ ihbelow ihnext =>
    cases h' with
    | cons below' next' => rw [ihbelow below', ihnext next']

theorem head? (h : InPreorder roots places) : places.head? = roots.head? := by
  cases h <;> rfl

/-- Nothing behind a walk over trees of one depth stands deeper at once. -/
theorem head?_append_le (h : InPreorder roots places) (hroots : ∀ p ∈ roots, p.depth = depth)
    (hnext : ∀ p ∈ next.head?, p.depth ≤ depth) :
    ∀ p ∈ (places ++ next).head?, p.depth ≤ depth := by
  rw [List.head?_append, h.head?, ← List.head?_append]
  exact Place.head?_append_le hroots hnext

theorem isFollowedBy {p : Place} {inner : List Place} (h : InPreorder p.below inner)
    (hnext : ∀ q ∈ next.head?, q.depth ≤ p.depth) : p.IsFollowedBy (inner ++ next).head? := by
  rw [List.head?_append, h.head?]
  rcases hchildren : p.value.children with _ | ⟨m, rest⟩
  · -- Nothing is held, so what follows stands next to the place or further out.
    have hbelow : p.below = [] := by rw [Place.below, hchildren]; rfl
    rw [hbelow]
    refine ⟨fun q hq => (hnext q hq).trans (by omega), ?_⟩
    constructor
    · rintro ⟨q, hq, hlt⟩
      exact absurd (hnext q hq) (by omega)
    · rintro ⟨-, hne⟩
      exact absurd hchildren hne
  · have hbelow : p.below = ⟨m.1, m.2, p.depth + 1⟩ :: row (p.depth + 1) rest := by
      rw [Place.below, hchildren]
      rfl
    have hne : p.value.children ≠ [] := by simp [hchildren]
    rw [hbelow]
    constructor
    · rintro q ⟨⟩
      exact le_rfl
    · exact ⟨fun _ => ⟨Printed.isContainer_fieldValue hne, hne⟩,
        fun _ => ⟨_, rfl, Nat.lt_succ_self _⟩⟩

/-- On a walk depth rises by one, into containers that hold something. What follows the walk is
carried along, since the walk over what a place holds is followed by the rest. -/
theorem isGradual (h : InPreorder roots places) (hroots : ∀ p ∈ roots, p.depth = depth)
    (hnext : ∀ p ∈ next.head?, p.depth ≤ depth) (hgradual : IsGradual next) :
    IsGradual (places ++ next) := by
  induction h generalizing depth next with
  | nil => exact hgradual
  | @cons p rest inner behind below rest' ihbelow ihrest =>
    obtain ⟨hp, hrest⟩ := List.forall_mem_cons.mp hroots
    have hbehind := rest'.head?_append_le hrest hnext
    have hinner := ihbelow (fun q hq => Place.depth_of_mem_below hq)
      (fun q hq => (hbehind q hq).trans (by omega)) (ihrest hrest hnext hgradual)
    rw [List.cons_append, List.cons_append, List.append_assoc]
    exact ⟨isFollowedBy below (hp ▸ hbehind), hinner⟩

/-- The walk over some trees is put together to the trees again. -/
theorem rebuild (h : InPreorder roots places) (hroots : ∀ p ∈ roots, p.depth = depth)
    {fields : List Field} (hfields : ∀ p ∈ (Place.rebuild fields).head?, p.depth ≤ depth) :
    Place.rebuild (places.map Place.field ++ fields) = roots ++ Place.rebuild fields := by
  induction h generalizing depth fields with
  | nil => rfl
  | @cons p rest inner behind below rest' ihbelow ihrest =>
    obtain ⟨rfl, hrest⟩ := List.forall_mem_cons.mp hroots
    have hnext := ihrest hrest hfields
    have hbehind := Place.head?_append_le hrest hfields
    -- The rest of the walk and what follows it are the fields behind what the first tree holds.
    have hheld : Place.rebuild (inner.map Place.field ++ (behind.map Place.field ++ fields)) =
        p.below ++ (rest ++ Place.rebuild fields) := by
      rw [← hnext]
      refine ihbelow (fun q hq => Place.depth_of_mem_below hq) fun q hq => ?_
      exact (hbehind q (hnext ▸ hq)).trans (by omega)
    calc Place.rebuild ((p :: inner ++ behind).map Place.field ++ fields)
        = Place.rebuild (p.field :: (inner.map Place.field ++
            (behind.map Place.field ++ fields))) := by simp
      _ = p :: rest ++ Place.rebuild fields := Place.rebuild_field hheld hbehind

end InPreorder

/-- The fields that a walk over some trees shows. -/
def Walks (roots : List Place) (fields : List Field) : Prop :=
  ∃ places, InPreorder roots places ∧ places.map Place.field = fields

namespace Walks

variable {fields fields' : List Field}

theorem nil : Walks [] [] := ⟨[], .nil, rfl⟩

theorem cons {p : Place} (hbelow : Walks p.below fields) (hrest : Walks roots fields') :
    Walks (p :: roots) (p.field :: fields ++ fields') := by
  obtain ⟨inner, hinner, rfl⟩ := hbelow
  obtain ⟨behind, hbehind, rfl⟩ := hrest
  exact ⟨_, .cons hinner hbehind, by simp⟩

theorem unique (h : Walks roots fields) (h' : Walks roots fields') : fields = fields' := by
  obtain ⟨places, hwalk, rfl⟩ := h
  obtain ⟨places', hwalk', rfl⟩ := h'
  rw [hwalk.unique hwalk']

end Walks

namespace Field

open Printed (named)

mutual

/-- The fields of a value are a walk over it. -/
theorem walks_ofValue (name : List Char) (depth : Nat) (v : Json) {rest : List Place}
    {fields : List Field} (hrest : Walks rest fields) :
    Walks (⟨name, .ofJson v, depth⟩ :: rest) (ofValue name depth v ++ fields) := by
  match v with
  | .object members => exact .cons (walks_ofMembers (depth + 1) members) hrest
  | .array items => exact .cons (walks_ofItems (depth + 1) 0 items) hrest
  | .string s => exact .cons .nil hrest
  | .null => exact .cons .nil hrest
  | .bool value => exact .cons .nil hrest
  | .integer n => exact .cons .nil hrest
  | .double x => exact .cons .nil hrest

theorem walks_ofMembers (depth : Nat) (members : List (String × Json)) :
    Walks (row depth (Printed.ofMembers members)) (ofMembers depth members) := by
  match members with
  | [] => exact .nil
  | (name, v) :: rest => exact walks_ofValue name.toList depth v (walks_ofMembers depth rest)

theorem walks_ofItems (depth index : Nat) (items : List Json) :
    Walks (row depth (named index (Printed.ofItems items))) (ofItems depth index items) := by
  match items with
  | [] => exact .nil
  | v :: rest => exact walks_ofValue (itemName index) depth v (walks_ofItems depth (index + 1) rest)

end

end Field

/-- What a row of fields is, if it shows these members and all that they hold. -/
structure Flattens (members : List (List Char × Printed)) (fields : List Field) : Prop where
  /-- the members are walked in preorder, and depth rises only into containers that hold
  something -/
  walk : ∃ places, InPreorder (row 0 members) places ∧ places.map Place.field = fields ∧
    IsGradual places
  /-- depth begins at the members -/
  start : ∀ f ∈ fields.head?, f.depth = 0
  /-- the members are what the fields describe -/
  rebuilt : Place.rebuild fields = row 0 members

namespace Flattens

variable {members members' : List (List Char × Printed)} {fields : List Field}

theorem of_walks (h : Walks (row 0 members) fields) : Flattens members fields := by
  obtain ⟨places, hwalk, rfl⟩ := h
  have hroots : ∀ p ∈ row 0 members, p.depth = 0 := fun p hp => Place.depth_of_mem_row hp
  refine ⟨⟨places, hwalk, rfl, ?_⟩, ?_, ?_⟩
  · have hgradual : IsGradual (places ++ []) := hwalk.isGradual hroots nofun trivial
    rwa [List.append_nil] at hgradual
  · intro f hf
    rw [List.head?_map, hwalk.head?] at hf
    obtain ⟨p, hp, rfl⟩ := Option.mem_map.mp hf
    exact hroots p (List.mem_of_mem_head? hp)
  · have hrebuild : Place.rebuild (places.map Place.field ++ []) = row 0 members ++ [] :=
      hwalk.rebuild hroots nofun
    rwa [List.append_nil, List.append_nil] at hrebuild

/-- The fields of an object are its members in preorder. -/
theorem ofMembers (members : List (String × Json)) :
    Flattens (Printed.ofMembers members) (Field.ofMembers 0 members) :=
  of_walks (Field.walks_ofMembers 0 members)

/-- Fields show the members of one object only. -/
theorem unique (h : Flattens members fields) (h' : Flattens members' fields) :
    members = members' := by
  rw [← Place.map_row 0 members, ← h.rebuilt, h'.rebuilt, Place.map_row]

/-- Objects have the same fields exactly if they are the same up to the printed form of their
scalars. -/
theorem ofMembers_eq_iff {others members : List (String × Json)} :
    Field.ofMembers 0 others = Field.ofMembers 0 members ↔
      Printed.ofMembers others = Printed.ofMembers members := by
  constructor
  · intro heq
    have hothers := ofMembers others
    rw [heq] at hothers
    exact hothers.unique (ofMembers members)
  · intro heq
    have hothers := Field.walks_ofMembers 0 others
    rw [heq] at hothers
    exact hothers.unique (Field.walks_ofMembers 0 members)

end Flattens

/-- The fields of a line are the members of its object in preorder, and no object has them that
is not the same up to the printed form of its scalars. -/
theorem Payload.flattens {line : List Char} {p : Payload} (h : ofLine line = .ok p) :
    ∃ members, Shows line p.header members ∧ Flattens (Printed.ofMembers members) p.fields ∧
      ∀ others, fieldsOf (.object others) = p.fields ↔
        Printed.ofMembers others = Printed.ofMembers members := by
  obtain ⟨members, hshows, hfields⟩ := ofLine_eq_ok_iff.mp h
  rw [hfields]
  exact ⟨members, hshows, .ofMembers members, fun others => Flattens.ofMembers_eq_iff⟩

/-- Empty containers, names that look like places, and a text that looks like a number. -/
theorem Payload.flattens_nested :
    let header := "Successfully parsed command:".toList
    let payload := "\x7b\"a\":[],\"[0]\":\x7b\"[0]\":\"1\",\"b\":[[1.5],2]\x7d,\"\":null\x7d".toList
    let place := ['[', '0', ']']
    let command : Payload := ⟨header, [⟨['a'], .container .array, 0⟩,
      ⟨place, .container .object, 0⟩, ⟨place, .text ['1'], 1⟩, ⟨['b'], .container .array, 1⟩,
      ⟨place, .container .array, 2⟩, ⟨place, .scalar ['1', '.', '5'], 3⟩,
      ⟨['[', '1', ']'], .scalar ['2'], 2⟩, ⟨[], .scalar ['n', 'u', 'l', 'l'], 0⟩]⟩
    ofLine (header ++ payload) = .ok command ∧
      ∃ members, Shows (header ++ payload) command.header members ∧
        Flattens (Printed.ofMembers members) command.fields ∧
          ∀ others, fieldsOf (.object others) = command.fields ↔
            Printed.ofMembers others = Printed.ofMembers members :=
  have hline := by decide +kernel
  ⟨hline, flattens hline⟩

end MotionLink
