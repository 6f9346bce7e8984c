import MotionLink.Proofs.Json.LongerTexts

/-!
# How deep containers are nested

The reader counts down with every container that it enters and enters none behind zero. So no value
that it gives is nested deeper than it allows.

## Main definitions

* `Json.nesting` — how deep containers are nested in a value
* `Json.ReadsWithin` — what is read with some fuel is nested no deeper than allowed

## Main results

* `Json.readsWithin` — this holds whatever the fuel
* `Json.nesting_le_of_readFirst` — the first value of a text is nested 127 deep at most
-/

namespace MotionLink.Json

mutual

/-- How deep containers are nested in a value. -/
def nesting : Json → Nat
  | .array items => itemsNesting items + 1
  | .object members => membersNesting members + 1
  | _ => 0

/-- How deep containers are nested in the items of an array. -/
def itemsNesting : List Json → Nat
  | [] => 0
  | v :: rest => max (nesting v) (itemsNesting rest)

/-- How deep containers are nested in the members of an object. -/
def membersNesting : List (String × Json) → Nat
  | [] => 0
  | (_, v) :: rest => max (nesting v) (membersNesting rest)

end

variable {fuel depth : Nat} {s rest : List Char}

theorem itemsNesting_le_iff {items : List Json} :
    itemsNesting items ≤ depth ↔ ∀ v ∈ items, v.nesting ≤ depth := by
  induction items with
  | nil => simp [itemsNesting]
  | cons v items ih => rw [itemsNesting, max_le_iff, ih, List.forall_mem_cons]

theorem membersNesting_le_iff {members : List (String × Json)} :
    membersNesting members ≤ depth ↔ ∀ m ∈ members, m.2.nesting ≤ depth := by
  induction members with
  | nil => simp [membersNesting]
  | cons m members ih => rw [membersNesting, max_le_iff, ih, List.forall_mem_cons]

/-- A number is no container. -/
theorem NumberText.nesting_of_value? {t : NumberText} {v : Json} (h : t.value? = some v) :
    v.nesting = 0 := by
  simp only [value?] at h
  split at h
  · cases h
    rfl
  split at h
  · cases h
    rfl
  · obtain ⟨x, -, rfl⟩ := Option.map_eq_some_iff.mp h
    rfl

theorem nesting_of_readScalar {v : Json} (h : readScalar s = some (v, rest)) : v.nesting = 0 := by
  unfold readScalar at h
  split at h
  · cases h
    rfl
  · cases h
    rfl
  · cases h
    rfl
  · simp only [bind, Option.bind_eq_some_iff, pure, Option.some.injEq, Prod.mk.injEq] at h
    obtain ⟨_, -, v, hvalue, rfl, rfl⟩ := h
    exact NumberText.nesting_of_value? hvalue

/-- Adding a member adds its value and no other. -/
theorem nesting_le_of_mem_upsert {name : String} {v : Json} {members : List (String × Json)}
    (hv : v.nesting ≤ depth) (h : ∀ m ∈ members, m.2.nesting ≤ depth) :
    ∀ m ∈ upsert name v members, m.2.nesting ≤ depth := by
  induction members with
  | nil => exact List.forall_mem_singleton.mpr hv
  | cons m members ih =>
    obtain ⟨hm, hmembers⟩ := List.forall_mem_cons.mp h
    rw [upsert]
    split
    · exact List.forall_mem_cons.mpr ⟨hv, hmembers⟩
    · exact List.forall_mem_cons.mpr ⟨hm, ih hmembers⟩

/-- What is read with some fuel is nested no deeper than allowed. -/
structure ReadsWithin (fuel : Nat) : Prop where
  value : ∀ {depth s v rest}, readValue fuel depth s = some (v, rest) → v.nesting ≤ depth
  items : ∀ {depth s items rest}, readItems fuel depth s = some (items, rest) →
    ∀ v ∈ items, v.nesting ≤ depth
  members : ∀ {depth before s members rest},
    readMembers fuel depth before s = some (members, rest) →
      (∀ m ∈ before, m.2.nesting ≤ depth) → ∀ m ∈ members, m.2.nesting ≤ depth

namespace ReadsWithin

theorem zero : ReadsWithin 0 where
  value h := by simp [readValue] at h
  items h := by simp [readItems] at h
  members h := by simp [readMembers] at h

theorem value_succ (ih : ReadsWithin fuel) {v : Json}
    (h : readValue (fuel + 1) depth s = some (v, rest)) : v.nesting ≤ depth := by
  -- What a container holds is read with one less around it.
  cases readsAs_of_readValue h with
  | string => exact Nat.zero_le _
  | emptyArray | emptyObject => exact Nat.succ_le_succ (Nat.zero_le _)
  | array _ _ read => exact Nat.succ_le_succ (itemsNesting_le_iff.mpr (ih.items read))
  | object _ _ read => exact Nat.succ_le_succ (membersNesting_le_iff.mpr (ih.members read nofun))
  | scalar _ _ read =>
    rw [nesting_of_readScalar read]
    exact Nat.zero_le _

theorem items_succ (ih : ReadsWithin fuel) {items : List Json}
    (h : readItems (fuel + 1) depth s = some (items, rest)) :
    ∀ v ∈ items, v.nesting ≤ depth := by
  rw [readItems] at h
  split at h
  · cases h
  rename_i v behind hvalue
  split at h
  · obtain ⟨⟨more, after⟩, hitems, ⟨⟩⟩ := Option.map_eq_some_iff.mp h
    exact List.forall_mem_cons.mpr ⟨ih.value hvalue, ih.items hitems⟩
  · cases h
    exact List.forall_mem_singleton.mpr (ih.value hvalue)
  · cases h

theorem members_succ (ih : ReadsWithin fuel) {before members : List (String × Json)}
    (h : readMembers (fuel + 1) depth before s = some (members, rest))
    (hbefore : ∀ m ∈ before, m.2.nesting ≤ depth) : ∀ m ∈ members, m.2.nesting ≤ depth := by
  rw [readMembers] at h
  split at h
  case h_2 => cases h
  split at h
  · cases h
  rename_i name _ _
  split at h
  case h_2 => cases h
  split at h
  · cases h
  rename_i v after hvalue
  -- The member is among those read before, whether or not its name comes a second time.
  have hmore : ∀ m ∈ upsert name v before, m.2.nesting ≤ depth :=
    nesting_le_of_mem_upsert (ih.value hvalue) hbefore
  split at h
  · exact ih.members h hmore
  · cases h
    exact hmore
  · cases h

end ReadsWithin

/-- What is read is nested no deeper than allowed, whatever the fuel. -/
theorem readsWithin (fuel : Nat) : ReadsWithin fuel := by
  induction fuel with
  | zero => exact .zero
  | succ fuel ih => exact ⟨ih.value_succ, ih.items_succ, ih.members_succ⟩

/-- The first value of a text is nested 127 deep at most. -/
theorem nesting_le_of_readFirst {v : Json} (h : readFirst s = some (v, rest)) :
    v.nesting ≤ maxDepth :=
  (readsWithin _).value h

end MotionLink.Json
