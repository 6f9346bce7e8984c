import MotionLink.Proofs.Command.Acceptance

/-!
# Which fault is reported

The rules for a request stand in an order, and a request is refused with the first of them that it
breaks. The rule of the number of components is looked at over all points before any other, and the
rest of what is asked of points is looked at point by point. Each error names the first place where
its rule is broken.

The checks are told apart from what they are for: a rule says what it asks for and which errors
report that it is broken, without a word on how that is found.

## Main definitions

* `IsFirst` — the first item of a list with a property, and its place
* `Rule` — what is asked for, and what is reported otherwise
* `Rule.FirstBroken` — an error reports the first rule of a row that is broken
* `Rule.CheckedBy` — a check finds the first rule that is broken
* `Intent.rules` — the rules for a request, in their order
* `Intent.IsJudged` — what is to be expected when a request is encoded

## Main results

* `Rule.CheckedBy.or` — checks one after the other check their rules in a row
* `Rule.checkedBy_firstFault` — a check over the items of a list
* `Intent.checkedBy_fault?` — the rules of a request are checked in their order
* `Intent.isJudged` — a request is accepted by its rules, or refused by the first one broken
-/

namespace MotionLink

/-! ### First items -/

/-- The first item with a property, and how many items stand before it. -/
def IsFirst {α : Type} (p : α → Prop) (items : List α) (index : Nat) (x : α) : Prop :=
  ∃ before behind, items = before ++ x :: behind ∧ before.length = index ∧ p x ∧
    ∀ y ∈ before, ¬p y

section IsFirst

variable {α : Type} {p : α → Prop} {a x : α} {items : List α} {index : Nat}

theorem not_isFirst_nil : ¬IsFirst p [] index x := by
  rintro ⟨before, behind, hitems, -⟩
  cases before <;> cases hitems

/-- The first item is the head, or the first of the others. -/
theorem isFirst_cons :
    IsFirst p (a :: items) index x ↔
      (index = 0 ∧ x = a ∧ p a) ∨ ∃ i, index = i + 1 ∧ ¬p a ∧ IsFirst p items i x := by
  constructor
  · rintro ⟨before, behind, hitems, rfl, hx, hbefore⟩
    cases before with
    | nil =>
      obtain ⟨rfl, -⟩ := List.cons.inj hitems
      exact .inl ⟨rfl, rfl, hx⟩
    | cons y before =>
      obtain ⟨rfl, hrest⟩ := List.cons.inj hitems
      obtain ⟨ha, hbefore⟩ := List.forall_mem_cons.mp hbefore
      exact .inr ⟨before.length, rfl, ha, before, behind, hrest, rfl, hx, hbefore⟩
  · rintro (⟨rfl, rfl, ha⟩ | ⟨i, rfl, ha, before, behind, rfl, rfl, hx, hbefore⟩)
    · exact ⟨[], items, rfl, rfl, ha, fun y hy => nomatch hy⟩
    · exact ⟨a :: before, behind, rfl, rfl, hx, List.forall_mem_cons.mpr ⟨ha, hbefore⟩⟩

theorem find?_eq_some_iff_isFirst {test : α → Bool} :
    items.find? test = some x ↔ ∃ index, IsFirst (test · = true) items index x := by
  rw [List.find?_eq_some_iff_append]
  constructor
  · rintro ⟨hx, before, behind, rfl, hbefore⟩
    exact ⟨before.length, before, behind, rfl, rfl, hx, by simpa using hbefore⟩
  · rintro ⟨index, before, behind, rfl, rfl, hx, hbefore⟩
    exact ⟨hx, before, behind, rfl, by simpa using hbefore⟩

theorem findIdx?_eq_some_iff_isFirst {test : α → Bool} :
    items.findIdx? test = some index ↔ ∃ x, IsFirst (test · = true) items index x := by
  induction items generalizing index with
  | nil => simp [not_isFirst_nil]
  | cons a items ih =>
    rw [List.findIdx?_cons]
    simp only [isFirst_cons]
    cases ha : test a with
    | true =>
      constructor
      · intro h
        obtain rfl := Option.some.inj h
        exact ⟨a, .inl ⟨rfl, rfl, rfl⟩⟩
      · rintro ⟨x, ⟨rfl, -, -⟩ | ⟨i, -, hfalse, -⟩⟩
        · rfl
        · exact absurd rfl hfalse
    | false =>
      rw [if_neg Bool.false_ne_true, Option.map_eq_some_iff]
      simp only [ih]
      constructor
      · rintro ⟨i, ⟨x, hfirst⟩, rfl⟩
        exact ⟨x, .inr ⟨i, rfl, Bool.false_ne_true, hfirst⟩⟩
      · rintro ⟨x, ⟨-, -, htrue⟩ | ⟨i, rfl, -, hfirst⟩⟩
        · exact absurd htrue Bool.false_ne_true
        · exact ⟨i, ⟨x, hfirst⟩, rfl⟩

/-- What a check finds wrong with the items of a list, each one in its place. -/
def firstFault {ε : Type} (fault? : Nat → α → Option ε) : Nat → List α → Option ε
  | _, [] => none
  | index, x :: rest => (fault? index x).or (firstFault fault? (index + 1) rest)

/-- The first item that does not pass is the one with which something is wrong first. -/
theorem firstFault_eq_some_iff {ε : Type} {fault? : Nat → α → Option ε} {e : ε}
    (h : ∀ index, ∀ x ∈ items, fault? index x = none ↔ p x) :
    firstFault fault? index items = some e ↔
      ∃ i x, IsFirst (¬p ·) items i x ∧ fault? (index + i) x = some e := by
  induction items generalizing index with
  | nil => simp [firstFault, not_isFirst_nil]
  | cons a items ih =>
    have ha : fault? index a = none ↔ p a := h index a List.mem_cons_self
    have hrest : ∀ index, ∀ x ∈ items, fault? index x = none ↔ p x := fun index x hx =>
      h index x (List.mem_cons_of_mem a hx)
    rw [firstFault, Option.or_eq_some_iff, ih hrest]
    simp only [isFirst_cons]
    constructor
    · rintro (hfault | ⟨hnone, i, x, hfirst, hfault⟩)
      · have hbroken : ¬p a := fun hpass => by simp [ha.mpr hpass] at hfault
        exact ⟨0, a, .inl ⟨rfl, rfl, hbroken⟩, hfault⟩
      · refine ⟨i + 1, x, .inr ⟨i, rfl, Classical.not_not.mpr (ha.mp hnone), hfirst⟩, ?_⟩
        rwa [Nat.add_right_comm, Nat.add_assoc] at hfault
    · rintro ⟨i, x, ⟨rfl, rfl, -⟩ | ⟨i, rfl, hpass, hfirst⟩, hfault⟩
      · exact .inl hfault
      · refine .inr ⟨ha.mpr (Classical.not_not.mp hpass), i, x, hfirst, ?_⟩
        rwa [Nat.add_right_comm, Nat.add_assoc]

theorem firstFault_eq_none_iff {ε : Type} {fault? : Nat → α → Option ε}
    (h : ∀ index, ∀ x ∈ items, fault? index x = none ↔ p x) :
    firstFault fault? index items = none ↔ ∀ x ∈ items, p x := by
  induction items generalizing index with
  | nil => simp [firstFault]
  | cons a items ih =>
    rw [firstFault, Option.or_eq_none_iff, h index a List.mem_cons_self,
      ih fun index x hx => h index x (List.mem_cons_of_mem a hx), List.forall_mem_cons]

end IsFirst

/-! ### Rules -/

/-- A rule for requests. -/
structure Rule where
  /-- what it asks for -/
  Kept : Prop
  /-- the errors that report how it is broken -/
  Reports : CommandError → Prop

namespace Rule

/-- A rule with one error of its own. -/
def simple (kept : Prop) (error : CommandError) : Rule := ⟨kept, fun e => ¬kept ∧ e = error⟩

/-- A rule for every item of a list. The first item that breaks it is reported with its place. -/
def forEach {α : Type} (test : α → Prop) (items : List α)
    (report : Nat → α → CommandError → Prop) : Rule where
  Kept := ∀ x ∈ items, test x
  Reports e := ∃ index x, IsFirst (¬test ·) items index x ∧ report index x e

/-- The error reports the first rule of a row that is broken. -/
def FirstBroken (rules : List Rule) (e : CommandError) : Prop :=
  ∃ before rule behind, rules = before ++ rule :: behind ∧ (∀ r ∈ before, r.Kept) ∧ rule.Reports e

/-- What a check finds is the first rule of a row that is broken. -/
structure CheckedBy (rules : List Rule) (fault : Option CommandError) : Prop where
  kept : fault = none ↔ ∀ rule ∈ rules, rule.Kept
  broken : ∀ e, fault = some e ↔ FirstBroken rules e

variable {rule : Rule} {rules more : List Rule} {e : CommandError}
  {fault rest : Option CommandError}

theorem firstBroken_singleton : FirstBroken [rule] e ↔ rule.Reports e := by
  constructor
  · rintro ⟨before, first, behind, hrules, -, hreports⟩
    obtain ⟨-, rfl, -⟩ := List.append_eq_singleton_iff.mp hrules.symm |>.resolve_right (by simp)
    exact hreports
  · intro hreports
    exact ⟨[], rule, [], rfl, by simp, hreports⟩

theorem firstBroken_append :
    FirstBroken (rules ++ more) e ↔
      FirstBroken rules e ∨ (∀ rule ∈ rules, rule.Kept) ∧ FirstBroken more e := by
  constructor
  · rintro ⟨before, first, behind, hsplit, hkept, hreports⟩
    rcases List.append_eq_append_iff.mp hsplit with ⟨middle, rfl, hmore⟩ | ⟨middle, rfl, hrest⟩
    · rw [List.forall_mem_append] at hkept
      exact .inr ⟨hkept.1, middle, first, behind, hmore, hkept.2, hreports⟩
    · cases middle with
      | nil =>
        rw [List.append_nil]
        exact .inr ⟨hkept, [], first, behind, hrest.symm, by simp, hreports⟩
      | cons head middle =>
        obtain ⟨rfl, -⟩ := List.cons.inj hrest
        exact .inl ⟨before, first, middle, rfl, hkept, hreports⟩
  · rintro (⟨before, first, behind, rfl, hkept, hreports⟩ |
      ⟨hrules, before, first, behind, rfl, hkept, hreports⟩)
    · exact ⟨before, first, behind ++ more, by simp, hkept, hreports⟩
    · exact ⟨rules ++ before, first, behind, by simp, List.forall_mem_append.mpr ⟨hrules, hkept⟩,
        hreports⟩

namespace CheckedBy

theorem of_rule (hkept : fault = none ↔ rule.Kept) (hbroken : ∀ e, fault = some e ↔ rule.Reports e) :
    CheckedBy [rule] fault where
  kept := by rw [hkept, List.forall_mem_singleton]
  broken e := by rw [hbroken, firstBroken_singleton]

/-- Checks one after the other check their rules in a row. The second one may take the first rules
for granted. -/
theorem or (h : CheckedBy rules fault)
    (hmore : (∀ rule ∈ rules, rule.Kept) → CheckedBy more rest) :
    CheckedBy (rules ++ more) (fault.or rest) := by
  by_cases hkept : ∀ rule ∈ rules, rule.Kept
  · obtain ⟨hnone, hsome⟩ := hmore hkept
    have hfault : fault = none := h.kept.mpr hkept
    have hsound (e : CommandError) : ¬FirstBroken rules e := fun hbroken =>
      Option.some_ne_none e (((h.broken e).mpr hbroken).symm.trans hfault)
    constructor
    · rw [hfault, Option.none_or, hnone, List.forall_mem_append, and_iff_right hkept]
    · intro e
      rw [hfault, Option.none_or, hsome, firstBroken_append, or_iff_right (hsound e),
        and_iff_right hkept]
  · obtain ⟨found, hfound⟩ := Option.ne_none_iff_exists'.mp (mt h.kept.mp hkept)
    constructor
    · rw [hfound, Option.some_or, List.forall_mem_append]
      exact iff_of_false (Option.some_ne_none found) fun hall => hkept hall.1
    · intro e
      rw [hfound, Option.some_or, ← hfound, h.broken, firstBroken_append,
        or_iff_left fun hsecond => hkept hsecond.1]

end CheckedBy

/-- A condition is checked by itself. -/
theorem checkedBy_faultUnless {kept : Prop} {ok : Bool} (h : ok = true ↔ kept) :
    CheckedBy [simple kept e] (faultUnless ok e) := by
  refine .of_rule (faultUnless_eq_none_iff.trans h) fun e' => ?_
  rw [simple, ← h, faultUnless]
  cases ok <;> simp [eq_comm]

/-- The items of a list are checked one after the other. -/
theorem checkedBy_firstFault {α : Type} {test : α → Prop} {items : List α}
    {fault? : Nat → α → Option CommandError} {report : Nat → α → CommandError → Prop}
    (htest : ∀ index, ∀ x ∈ items, fault? index x = none ↔ test x)
    (hreport : ∀ index, ∀ x ∈ items, ∀ e, ¬test x → (fault? index x = some e ↔ report index x e)) :
    CheckedBy [forEach test items report] (firstFault fault? 0 items) := by
  refine .of_rule (firstFault_eq_none_iff htest) fun e => ?_
  rw [firstFault_eq_some_iff htest]
  refine exists_congr fun i => exists_congr fun x => and_congr_right fun hfirst => ?_
  obtain ⟨before, behind, rfl, -, hx, -⟩ := hfirst
  rw [Nat.zero_add]
  exact hreport i x (List.mem_append_right before List.mem_cons_self) e hx

/-! ### The rules for requests -/

/-- The characters that stand between slots, components and points, and at the end. -/
def separators : List Char := ['|', ';', ',', '#']

/-- A text is not blank. -/
def notBlank (error : CommandError) (text : String) : Rule :=
  simple (∃ c ∈ text.toList, Text.isBlank c = false) error

/-- A text holds no separator; otherwise the first one is reported. -/
def plain (field : TextField) (text : String) : Rule :=
  forEach (· ∉ separators) text.toList fun _ c e => e = .reservedChar field c

/-- Every point has six components or seven; otherwise the number of the first other one is
reported. -/
def arity (points : List Point) : Rule :=
  forEach (fun p => p.components.length = 6 ∨ p.components.length = 7) points
    fun index p e => e = .pointArity index p.components.length

/-- There is a point. -/
def somePoint (points : List Point) : Rule := simple (points ≠ []) .noPoints

end Rule

/-- What is asked of a point of a motion. -/
structure Point.Fits (expected : PointKind) (p : Point) : Prop where
  length : p.components.length = expected.arity
  isFinite : ∀ x ∈ p.components, x.isFinite = true

/-- What is reported of a point that does not fit: its kind, or else its first component without a
finite value. -/
inductive Point.Reports (expected : PointKind) (index : Nat) (p : Point) : CommandError → Prop where
  | kind {found : PointKind} (hfound : p.components.length = found.arity)
      (hne : found ≠ expected) : Reports expected index p (.pointKind index expected found)
  | notFinite {component : Nat} {x : Binary64} (hlength : p.components.length = expected.arity)
      (hfirst : IsFirst (fun x => ¬x.isFinite = true) p.components component x) :
      Reports expected index p (.notFinite index component)

namespace Rule

/-- Every point is of the expected kind and its components are finite. -/
def points (expected : PointKind) (points : List Point) : Rule :=
  forEach (Point.Fits expected) points fun index p => p.Reports expected index

/-- The speed is a number from zero to one. -/
def speed (x : Binary64) : Rule :=
  simple (∃ units ∈ x.units?, 0 ≤ units ∧ units ≤ Magnitude.unitsPerOne) (.speedOutOfRange x)

end Rule

/-- The rules for a motion, in their order. -/
def Motion.rules (m : Motion) : List Rule :=
  [.arity m.points, .notBlank .blankId m.id, .plain .id m.id, .somePoint m.points,
   .points m.pointKind m.points, .speed m.speed, .plain .tool m.tool, .plain .base m.base]

/-- The rules for a switch, in their order. -/
def OutputSwitch.rules (o : OutputSwitch) : List Rule :=
  [.notBlank .blankId o.id, .plain .id o.id, .notBlank (.blankField .pin) o.pin,
   .plain .pin o.pin]

/-- The rules for a program start, in their order. -/
def ProgramStart.rules (p : ProgramStart) : List Rule :=
  [.notBlank .blankId p.id, .plain .id p.id, .notBlank (.blankField .program) p.program,
   .plain .program p.program]

/-- The rules for whatever is asked for, in their order. -/
def Intent.rules : Intent → List Rule
  | motion m => m.rules
  | output o => o.rules
  | program p => p.rules

/-! ### Free texts -/

theorem isReserved_eq_false_iff {c : Char} : isReserved c = false ↔ c ∉ Rule.separators := by
  simp [isReserved, Rule.separators, Slot.bar, Slot.semicolon, Slot.comma, Slot.hash, and_assoc]

theorem checkedBy_reservedFault? (field : TextField) (text : String) :
    Rule.CheckedBy [.plain field text] (reservedFault? field text) := by
  have hreserved : (fun c => isReserved c = true) = fun c => ¬c ∉ Rule.separators := by
    funext c
    rw [← isReserved_eq_false_iff, Bool.not_eq_false]
  refine .of_rule ?_ fun e => ?_
  · rw [reservedFault?_eq_none_iff, IsPlain]
    simp only [isReserved_eq_false_iff]
    rfl
  · rw [reservedFault?, Option.map_eq_some_iff]
    simp only [find?_eq_some_iff_isFirst, hreserved]
    constructor
    · rintro ⟨c, ⟨index, hfirst⟩, rfl⟩
      exact ⟨index, c, hfirst, rfl⟩
    · rintro ⟨index, c, hfirst, rfl⟩
      exact ⟨c, ⟨index, hfirst⟩, rfl⟩

/-- Both for required texts and for ids. -/
theorem checkedBy_tokenFault (field : TextField) (e : CommandError) (text : String) :
    Rule.CheckedBy [.notBlank e text, .plain field text]
      (if Text.isAllBlank text.toList then some e else reservedFault? field text) := by
  have hblank : (!Text.isAllBlank text.toList) = true ↔
      ∃ c ∈ text.toList, Text.isBlank c = false := by
    simp [Text.isAllBlank]
  have hchecked := (Rule.checkedBy_faultUnless (e := e) hblank).or
    fun _ => checkedBy_reservedFault? field text
  cases hall : Text.isAllBlank text.toList with
  | true =>
    rw [hall] at hchecked
    exact hchecked
  | false =>
    rw [hall] at hchecked
    exact hchecked

theorem checkedBy_idFault? (id : String) :
    Rule.CheckedBy [.notBlank .blankId id, .plain .id id] (idFault? id) :=
  checkedBy_tokenFault .id .blankId id

theorem checkedBy_requiredFault? (field : TextField) (text : String) :
    Rule.CheckedBy [.notBlank (.blankField field) text, .plain field text]
      (requiredFault? field text) :=
  checkedBy_tokenFault field (.blankField field) text

/-! ### Points -/

theorem PointKind.ofLength?_eq_some_iff {n : Nat} {kind : PointKind} :
    PointKind.ofLength? n = some kind ↔ n = kind.arity := by
  by_cases hcartesian : n = 6
  · cases kind <;> simp [PointKind.ofLength?, PointKind.arity, hcartesian]
  · by_cases hjoint : n = 7 <;> cases kind <;>
      simp [PointKind.ofLength?, PointKind.arity, hcartesian, hjoint]

theorem PointKind.ofLength?_eq_none_iff {n : Nat} :
    PointKind.ofLength? n = none ↔ ¬(n = 6 ∨ n = 7) := by
  by_cases hcartesian : n = 6
  · simp [PointKind.ofLength?, PointKind.arity, hcartesian]
  · by_cases hjoint : n = 7 <;>
      simp [PointKind.ofLength?, PointKind.arity, hcartesian, hjoint]

/-- The fault of a number of components that no kind has. -/
def Point.arityFault? (index : Nat) (p : Point) : Option CommandError :=
  if p.kind?.isNone then some (.pointArity index p.components.length) else none

theorem arityFault?_eq_firstFault (index : Nat) (points : List Point) :
    arityFault? index points = firstFault Point.arityFault? index points := by
  induction points generalizing index with
  | nil => rfl
  | cons p points ih =>
    rw [arityFault?, firstFault, Point.arityFault?]
    cases p.kind? with
    | none => rfl
    | some kind => simpa using ih (index + 1)

theorem checkedBy_arityFault? (points : List Point) :
    Rule.CheckedBy [.arity points] (arityFault? 0 points) := by
  rw [arityFault?_eq_firstFault]
  refine Rule.checkedBy_firstFault (fun index p _ => ?_) fun index p _ e hbroken => ?_
  · have hkind : p.kind?.isNone = true ↔ ¬(p.components.length = 6 ∨ p.components.length = 7) := by
      rw [Option.isNone_iff_eq_none, Point.kind?, PointKind.ofLength?_eq_none_iff]
    simp only [Point.arityFault?, hkind, ite_eq_right_iff, reduceCtorEq, imp_false,
      Classical.not_not]
  · have hkind : p.kind?.isNone = true := by
      rwa [Option.isNone_iff_eq_none, Point.kind?, PointKind.ofLength?_eq_none_iff]
    rw [Point.arityFault?, if_pos hkind, Option.some_inj, eq_comm]

theorem pointsFault?_eq_firstFault (expected : PointKind) (index : Nat) (points : List Point) :
    pointsFault? expected index points = firstFault (Point.fault? expected) index points := by
  induction points generalizing index with
  | nil => rfl
  | cons p points ih => rw [pointsFault?, firstFault, ih]

theorem Point.valid_iff_fits {expected : PointKind} {p : Point} :
    p.Valid expected ↔ p.Fits expected := by
  constructor
  · intro h
    exact ⟨PointKind.ofLength?_eq_some_iff.mp h.kind, h.isFinite⟩
  · intro h
    exact ⟨PointKind.ofLength?_eq_some_iff.mpr h.length, h.isFinite⟩

/-- The kind of a point is looked at before its components. -/
theorem Point.fault?_eq_some_iff {expected : PointKind} {index : Nat} {p : Point} {e : CommandError}
    (hkind : p.kind? ≠ none) : p.fault? expected index = some e ↔ p.Reports expected index e := by
  obtain ⟨kind, hsome⟩ := Option.ne_none_iff_exists'.mp hkind
  have hlength : p.components.length = kind.arity := PointKind.ofLength?_eq_some_iff.mp hsome
  have harity {other : PointKind} (h : p.components.length = other.arity) : other = kind := by
    rw [← PointKind.ofLength?_eq_some_iff] at h
    exact Option.some_inj.mp (h.symm.trans hsome)
  rw [Point.fault?, hsome]
  by_cases hexpected : kind = expected
  · subst hexpected
    rw [Option.filter_some, if_neg (by simp)]
    simp only [Option.map_eq_some_iff, findIdx?_eq_some_iff_isFirst]
    constructor
    · rintro ⟨component, ⟨x, hfirst⟩, rfl⟩
      exact .notFinite hlength (by simpa using hfirst)
    · rintro (⟨hfound, hne⟩ | ⟨-, hfirst⟩)
      · exact absurd (harity hfound) hne
      · exact ⟨_, ⟨_, by simpa using hfirst⟩, rfl⟩
  · rw [Option.filter_some, if_pos (by simpa using hexpected)]
    simp only [Option.some_inj]
    constructor
    · rintro rfl
      exact .kind hlength hexpected
    · rintro (⟨hfound, -⟩ | ⟨hother, -⟩)
      · rw [harity hfound]
      · exact absurd (harity hother).symm hexpected

/-- Points of some kind are checked point by point. -/
theorem checkedBy_pointsFault? {expected : PointKind} {points : List Point}
    (hkinds : ∀ p ∈ points, p.kind? ≠ none) :
    Rule.CheckedBy [.points expected points] (pointsFault? expected 0 points) := by
  rw [pointsFault?_eq_firstFault]
  refine Rule.checkedBy_firstFault (fun index p hp => ?_) fun index p hp e _ => ?_
  · rw [Point.fault?_eq_none_iff (hkinds p hp), Point.valid_iff_fits]
  · exact Point.fault?_eq_some_iff (hkinds p hp)

/-! ### Requests -/

theorem isFraction_iff {x : Binary64} :
    x.isFraction = true ↔ ∃ units ∈ x.units?, 0 ≤ units ∧ units ≤ Magnitude.unitsPerOne := by
  rw [Binary64.isFraction]
  -- The bound stays hidden: a power as large as this one is not to be computed.
  generalize Magnitude.unitsPerOne = bound
  cases x.units? <;> simp

theorem Motion.checkedBy_fault? (m : Motion) : Rule.CheckedBy m.rules m.fault? := by
  refine (checkedBy_arityFault? m.points).or fun harity => ?_
  have hkinds : ∀ p ∈ m.points, p.kind? ≠ none := by
    intro p hp hnone
    exact PointKind.ofLength?_eq_none_iff.mp hnone (harity _ (List.mem_singleton_self _) p hp)
  refine (checkedBy_idFault? m.id).or fun _ => ?_
  refine (Rule.checkedBy_faultUnless (by simp)).or fun _ => ?_
  refine (checkedBy_pointsFault? hkinds).or fun _ => ?_
  refine (Rule.checkedBy_faultUnless isFraction_iff).or fun _ => ?_
  exact (checkedBy_reservedFault? .tool m.tool).or fun _ => checkedBy_reservedFault? .base m.base

theorem OutputSwitch.checkedBy_fault? (o : OutputSwitch) : Rule.CheckedBy o.rules o.fault? :=
  (checkedBy_idFault? o.id).or fun _ => checkedBy_requiredFault? .pin o.pin

theorem ProgramStart.checkedBy_fault? (p : ProgramStart) : Rule.CheckedBy p.rules p.fault? :=
  (checkedBy_idFault? p.id).or fun _ => checkedBy_requiredFault? .program p.program

namespace Intent

/-- The rules of a request are checked in their order. -/
theorem checkedBy_fault? (intent : Intent) : Rule.CheckedBy intent.rules intent.fault? := by
  cases intent with
  | motion m => exact m.checkedBy_fault?
  | output o => exact o.checkedBy_fault?
  | program p => exact p.checkedBy_fault?

/-- What is to be expected when a request is encoded. -/
structure IsJudged (unit : AngleUnit) (intent : Intent) : Prop where
  /-- it is accepted exactly if it is valid -/
  accepted : (∃ payload, intent.encode unit = .ok payload) ↔ intent.Valid
  /-- that is, if it keeps all of its rules -/
  valid_iff : intent.Valid ↔ ∀ rule ∈ intent.rules, rule.Kept
  /-- otherwise it is refused with what reports the first rule that it breaks -/
  refused : ∀ e, intent.encode unit = .error e ↔ Rule.FirstBroken intent.rules e

/-- Every request is accepted by its rules, or refused by the first one that it breaks. -/
theorem isJudged (unit : AngleUnit) (intent : Intent) : IsJudged unit intent := by
  obtain ⟨hkept, hbroken⟩ := intent.checkedBy_fault?
  constructor
  case accepted =>
    simp only [encode_eq_ok_iff]
    exact ⟨fun ⟨_, hvalid, _⟩ => hvalid, fun hvalid => ⟨_, hvalid, rfl⟩⟩
  case valid_iff => rw [← fault?_eq_none_iff, hkept]
  case refused =>
    intro e
    rw [← hbroken, encode]
    cases intent.fault? <;> simp

-- The kind of the second point is reported, before the speed and the tool.
example :
    (motion { family := .pointToPoint, blended := false, joint := true,
              points := [⟨List.replicate 7 .zero⟩, ⟨List.replicate 6 .nan⟩],
              tool := "a|b", base := "", speed := .nan, id := "id" }).encode .radians =
      .error (.pointKind 1 .joint .cartesian) := rfl

end Intent

end MotionLink
