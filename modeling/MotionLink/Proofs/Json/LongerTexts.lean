import Mathlib.Data.List.TakeWhile
import MotionLink.Proofs.Json.ReadBack
import MotionLink.Proofs.Text.Search

/-!
# Values at the front of longer texts

A reader stops as soon as it has a value, so nothing that stands behind a value can change how it is
read. Only a number has to see that it is over: a digit behind it would carry it on.

## Main definitions

* `Json.IsSteady` — a reader that reads the same from every longer text
* `Json.ReadsAs` — how a value was read: one case for each way in which it may begin
* `Json.ReadsOn` — what is read with some fuel is read from every longer text

## Main results

* `Json.readString_append` — a string is read from every longer text
* `Json.isSteady_readScalar` — so is a number, if anything stands behind it
* `Json.readsOn` — so are values, items and members, whatever the fuel
* `Json.readFirst_append` — an object at the front of a text is read from every longer one
* `Json.exists_eq_object_of_readFirst` — what is read behind an opening brace is an object
-/

namespace MotionLink.Json

variable {s rest : List Char}

/-! ### Blanks and strings -/

theorem skipBlanks_append {c : Char} {behind : List Char} (h : skipBlanks s = c :: behind)
    (more : List Char) : skipBlanks (s ++ more) = c :: (behind ++ more) := by
  rw [skipBlanks] at h ⊢
  rw [List.dropWhile_append, h]
  rfl

theorem skipBlanks_append_ne {c : Char} (h : ∀ b, skipBlanks s ≠ c :: b) (hne : skipBlanks s ≠ [])
    (more : List Char) : ∀ b, skipBlanks (s ++ more) ≠ c :: b := by
  obtain ⟨d, behind, hskip⟩ := List.exists_cons_of_ne_nil hne
  intro b hmore
  rw [skipBlanks_append hskip more] at hmore
  obtain ⟨rfl, -⟩ := List.cons.inj hmore
  exact h behind hskip

/-- A string is read from every longer text. -/
theorem readString_append {done : List Char} {t : String}
    (h : readString done s = some (t, rest)) (more : List Char) :
    readString done (s ++ more) = some (t, rest ++ more) := by
  -- A closing quote, two escapes that make up a pair, one escape, a letter behind a backslash and a
  -- plain character are read; in all other cases the text is refused.
  fun_induction readString done s with
  | case2 done s =>
    cases h
    rfl
  | case4 done a b c d n hunit hhigh e f g h' s n' hpair ih =>
    simpa [readString, hunit, hhigh, hpair] using ih h
  | case8 done a b c d s n hunit hhigh hlow ih =>
    simpa [readString, hunit, hhigh, hlow] using ih h
  | case9 done c s hplain c' hletter ih =>
    have hne : c ≠ 'u' := fun hc => by simp [hc, unescape?] at hletter
    simpa [readString, hne, hletter] using ih h
  | case12 done c s hquote _ _ hplain ih =>
    obtain ⟨hbackslash, hcontrol⟩ := not_or.mp hplain
    simpa [readString, hquote, hbackslash, hcontrol] using ih h
  | case1 | case3 | case5 | case6 | case7 | case10 | case11 => cases h

/-! ### Numbers -/

/-- A reader that reads the same from every longer text, if it has left anything. -/
def IsSteady {α : Type} (read : List Char → Option (α × List Char)) : Prop :=
  ∀ ⦃s x rest⦄, read s = some (x, rest) → rest ≠ [] →
    ∀ more, read (s ++ more) = some (x, rest ++ more)

theorem IsSteady.map {α β : Type} {read : List Char → Option (α × List Char)} (h : IsSteady read)
    (part : α → β) : IsSteady fun s => (read s).map fun d => (part d.1, d.2) := by
  intro s x rest hread hrest more
  obtain ⟨⟨y, behind⟩, hy, heq⟩ := Option.map_eq_some_iff.mp hread
  obtain ⟨rfl, rfl⟩ := Prod.mk.inj heq
  exact Option.map_eq_some_iff.mpr ⟨(y, behind ++ more), h hy hrest more, rfl⟩

/-- What stands before the text that a steady reader is given makes no difference. -/
theorem IsSteady.behind {α : Type} {read next : List Char → Option (α × List Char)}
    (h : IsSteady next) (front : List Char) (hread : ∀ s, read (front ++ s) = next s) {x : α}
    (hx : read (front ++ s) = some (x, rest)) (hrest : rest ≠ []) (more : List Char) :
    read (front ++ s ++ more) = some (x, rest ++ more) := by
  rw [hread] at hx
  rw [List.append_assoc, hread]
  exact h hx hrest more

/-- Where something is left, there was something to read. -/
theorem isSteady_of_cons {α : Type} {read : List Char → Option (α × List Char)}
    (hnil : ∀ x rest, read [] = some (x, rest) → rest = [])
    (h : ∀ c s x rest, read (c :: s) = some (x, rest) → rest ≠ [] →
      ∀ more, read (c :: s ++ more) = some (x, rest ++ more)) : IsSteady read := by
  intro s
  cases s with
  | nil => exact fun x rest hread hrest => absurd (hnil x rest hread) hrest
  | cons c s => exact h c s

namespace NumberText

theorem isSteady_scanDigits : IsSteady scanDigits := by
  intro s digits rest h hrest more
  rw [scanDigits] at h ⊢
  split at h
  · cases h
  · rename_i hdigits
    cases h
    rw [Text.takeWhile_append_of_dropWhile hrest, List.dropWhile_append]
    simp [hdigits, hrest]

theorem isSteady_scanWhole : IsSteady scanWhole := by
  intro s digits rest h hrest more
  obtain ⟨hdigits, hzero⟩ := Option.filter_eq_some_iff.mp h
  exact Option.filter_eq_some_iff.mpr ⟨isSteady_scanDigits hdigits hrest more, hzero⟩

theorem isSteady_scanFraction : IsSteady scanFraction := by
  refine isSteady_of_cons (by rintro _ _ ⟨⟩; rfl) fun c s fraction rest h hrest more => ?_
  by_cases hpoint : c = '.'
  · subst hpoint
    exact (isSteady_scanDigits.map some).behind ['.'] (fun _ => rfl) h hrest more
  · have hnone (s : List Char) : scanFraction (c :: s) = some (none, c :: s) := by
      simp [scanFraction, hpoint]
    rw [hnone] at h
    cases h
    exact hnone (s ++ more)

theorem isSteady_scanExponent : IsSteady scanExponent := by
  refine isSteady_of_cons (by rintro _ _ ⟨⟩; rfl) fun c s exponent rest h hrest more => ?_
  by_cases hletter : c = 'e' ∨ c = 'E'
  · have hsigned (negative : Bool) := isSteady_scanDigits.map fun digits => some (negative, digits)
    -- What stands behind the letter decides where the digits begin.
    cases s with
    | nil => simp [scanExponent, hletter, scanDigits] at h
    | cons d s =>
      by_cases hminus : d = '-'
      · subst hminus
        have hread (s : List Char) : scanExponent ([c, '-'] ++ s) =
            (scanDigits s).map fun d => (some (true, d.1), d.2) := by simp [scanExponent, hletter]
        exact (hsigned true).behind [c, '-'] hread h hrest more
      by_cases hplus : d = '+'
      · subst hplus
        have hread (s : List Char) : scanExponent ([c, '+'] ++ s) =
            (scanDigits s).map fun d => (some (false, d.1), d.2) := by simp [scanExponent, hletter]
        exact (hsigned false).behind [c, '+'] hread h hrest more
      · have hread (s : List Char) : scanExponent (c :: d :: s) =
            (scanDigits (d :: s)).map fun d => (some (false, d.1), d.2) := by
          simp [scanExponent, hletter, hminus, hplus]
        rw [hread] at h
        exact (hread _).trans (hsigned false h hrest more)
  · have hnone (s : List Char) : scanExponent (c :: s) = some (none, c :: s) := by
      simp [scanExponent, hletter]
    rw [hnone] at h
    cases h
    exact hnone (s ++ more)

theorem isSteady_scan : IsSteady scan := by
  refine isSteady_of_cons (by rintro _ _ ⟨⟩) fun c s t rest h hrest more => ?_
  unfold scan at h ⊢
  simp only [bind, Option.bind_eq_some_iff, pure, Option.some.injEq, Prod.mk.injEq] at h ⊢
  obtain ⟨⟨whole, behind⟩, hwhole, ⟨fraction, behind'⟩, hfraction, ⟨exponent, behind''⟩, hexponent,
    rfl, rfl⟩ := h
  have hbehind' : behind' ≠ [] := by
    rintro rfl
    cases hexponent
    exact hrest rfl
  have hbehind : behind ≠ [] := by
    rintro rfl
    cases hfraction
    exact hbehind' rfl
  refine ⟨(whole, behind ++ more), ?_, (fraction, behind' ++ more),
    isSteady_scanFraction hfraction hbehind' more, (exponent, behind'' ++ more),
    isSteady_scanExponent hexponent hrest more, rfl, rfl⟩
  -- The minus sign, if there is one, is the first character of the longer text too.
  have hread := isSteady_scanWhole hwhole hbehind more
  split at hread <;> simp_all

end NumberText

/-- A number begins with a minus sign or a digit. -/
theorem NumberText.exists_eq_cons_of_scan {t : NumberText}
    (h : NumberText.scan s = some (t, rest)) :
    ∃ c behind, s = c :: behind ∧ (c = '-' ∨ c.isDigit = true) := by
  cases s with
  | nil => cases h
  | cons c behind =>
    refine ⟨c, behind, rfl, ?_⟩
    by_contra hnone
    obtain ⟨hminus, hdigit⟩ := not_or.mp hnone
    simp [scan, scanWhole, scanDigits, hminus, hdigit] at h

theorem isSteady_readScalar : IsSteady readScalar := by
  intro s v rest h hrest more
  unfold readScalar at h
  split at h
  · cases h
    rfl
  · cases h
    rfl
  · cases h
    rfl
  · simp only [bind, Option.bind_eq_some_iff, pure, Option.some.injEq, Prod.mk.injEq] at h
    obtain ⟨⟨t, behind⟩, hscan, v, hvalue, rfl, rfl⟩ := h
    have hmore := NumberText.isSteady_scan hscan hrest more
    obtain ⟨c, s, rfl, hc⟩ := NumberText.exists_eq_cons_of_scan hscan
    rw [List.cons_append] at hmore ⊢
    rw [readScalar_of_number hc, hmore]
    simp [hvalue]

/-! ### Values -/

/-- How a value was read, with the fuel left for what it holds. -/
inductive ReadsAs (fuel : Nat) (s : List Char) : Nat → Json → List Char → Prop where
  | string {depth : Nat} {t : String} {behind after : List Char}
      (start : skipBlanks s = '"' :: behind) (read : readString [] behind = some (t, after)) :
      ReadsAs fuel s depth (.string t) after
  | emptyArray {depth : Nat} {behind after : List Char} (start : skipBlanks s = '[' :: behind)
      (close : skipBlanks behind = ']' :: after) : ReadsAs fuel s (depth + 1) (.array []) after
  | array {depth : Nat} {items : List Json} {behind after : List Char}
      (start : skipBlanks s = '[' :: behind) (filled : ∀ b, skipBlanks behind ≠ ']' :: b)
      (read : readItems fuel depth behind = some (items, after)) :
      ReadsAs fuel s (depth + 1) (.array items) after
  | emptyObject {depth : Nat} {behind after : List Char} (start : skipBlanks s = '\x7b' :: behind)
      (close : skipBlanks behind = '\x7d' :: after) :
      ReadsAs fuel s (depth + 1) (.object []) after
  | object {depth : Nat} {members : List (String × Json)} {behind after : List Char}
      (start : skipBlanks s = '\x7b' :: behind) (filled : ∀ b, skipBlanks behind ≠ '\x7d' :: b)
      (read : readMembers fuel depth [] behind = some (members, after)) :
      ReadsAs fuel s (depth + 1) (.object members) after
  | scalar {depth : Nat} {c : Char} {v : Json} {behind after : List Char}
      (start : skipBlanks s = c :: behind) (plain : c ∉ ['"', '[', '\x7b'])
      (read : readScalar (c :: behind) = some (v, after)) : ReadsAs fuel s depth v after

section Step

variable {fuel depth : Nat} {behind : List Char}

theorem readValue_of_quote (h : skipBlanks s = '"' :: behind) :
    readValue (fuel + 1) depth s = (readString [] behind).map fun t => (.string t.1, t.2) := by
  unfold readValue
  simp only [h]

theorem readValue_of_brackets (h : skipBlanks s = '[' :: behind)
    (hclose : skipBlanks behind = ']' :: rest) :
    readValue (fuel + 1) (depth + 1) s = some (.array [], rest) := by
  unfold readValue
  simp only [h, hclose]

theorem readValue_of_bracket (h : skipBlanks s = '[' :: behind)
    (hfilled : ∀ b, skipBlanks behind ≠ ']' :: b) :
    readValue (fuel + 1) (depth + 1) s =
      (readItems fuel depth behind).map fun t => (.array t.1, t.2) := by
  unfold readValue
  simp only [h]

theorem readValue_of_braces (h : skipBlanks s = '\x7b' :: behind)
    (hclose : skipBlanks behind = '\x7d' :: rest) :
    readValue (fuel + 1) (depth + 1) s = some (.object [], rest) := by
  unfold readValue
  simp only [h, hclose]

theorem readValue_of_brace (h : skipBlanks s = '\x7b' :: behind)
    (hfilled : ∀ b, skipBlanks behind ≠ '\x7d' :: b) :
    readValue (fuel + 1) (depth + 1) s =
      (readMembers fuel depth [] behind).map fun t => (.object t.1, t.2) := by
  unfold readValue
  simp only [h]

theorem readValue_of_plain {c : Char} (h : skipBlanks s = c :: behind)
    (hplain : c ∉ ['"', '[', '\x7b']) :
    readValue (fuel + 1) depth s = readScalar (c :: behind) := by
  unfold readValue
  rw [h]
  simp only [List.mem_cons, List.not_mem_nil, or_false, not_or] at hplain
  obtain ⟨hquote, hbracket, hbrace⟩ := hplain
  split <;> simp_all

theorem readValue_of_bracket_zero (h : skipBlanks s = '[' :: behind) :
    readValue (fuel + 1) 0 s = none := by
  unfold readValue
  simp only [h]

theorem readValue_of_brace_zero (h : skipBlanks s = '\x7b' :: behind) :
    readValue (fuel + 1) 0 s = none := by
  unfold readValue
  simp only [h]

theorem readValue_of_blank (h : skipBlanks s = []) : readValue (fuel + 1) depth s = none := by
  unfold readValue
  simp only [h]
  rfl

theorem readsAs_of_bracket {v : Json} (hskip : skipBlanks s = '[' :: behind)
    (h : readValue (fuel + 1) depth s = some (v, rest)) : ReadsAs fuel s depth v rest := by
  rcases depth with _ | depth
  · rw [readValue_of_bracket_zero hskip] at h
    cases h
  by_cases hclose : ∃ after, skipBlanks behind = ']' :: after
  · obtain ⟨after, hclose⟩ := hclose
    rw [readValue_of_brackets hskip hclose] at h
    cases h
    exact .emptyArray hskip hclose
  · have hfilled := not_exists.mp hclose
    rw [readValue_of_bracket hskip hfilled] at h
    obtain ⟨⟨items, after⟩, hread, ⟨⟩⟩ := Option.map_eq_some_iff.mp h
    exact .array hskip hfilled hread

theorem readsAs_of_brace {v : Json} (hskip : skipBlanks s = '\x7b' :: behind)
    (h : readValue (fuel + 1) depth s = some (v, rest)) : ReadsAs fuel s depth v rest := by
  rcases depth with _ | depth
  · rw [readValue_of_brace_zero hskip] at h
    cases h
  by_cases hclose : ∃ after, skipBlanks behind = '\x7d' :: after
  · obtain ⟨after, hclose⟩ := hclose
    rw [readValue_of_braces hskip hclose] at h
    cases h
    exact .emptyObject hskip hclose
  · have hfilled := not_exists.mp hclose
    rw [readValue_of_brace hskip hfilled] at h
    obtain ⟨⟨members, after⟩, hread, ⟨⟩⟩ := Option.map_eq_some_iff.mp h
    exact .object hskip hfilled hread

/-- Whatever is read was read in one of these ways, and the first character tells in which. -/
theorem readsAs_of_readValue {v : Json} (h : readValue (fuel + 1) depth s = some (v, rest)) :
    ReadsAs fuel s depth v rest := by
  rcases hskip : skipBlanks s with _ | ⟨c, behind⟩
  · rw [readValue_of_blank hskip] at h
    cases h
  by_cases hplain : c ∉ ['"', '[', '\x7b']
  · rw [readValue_of_plain hskip hplain] at h
    exact .scalar hskip hplain h
  simp only [List.mem_cons, List.not_mem_nil, or_false, not_not] at hplain
  rcases hplain with rfl | rfl | rfl
  · rw [readValue_of_quote hskip] at h
    obtain ⟨⟨t, after⟩, hread, ⟨⟩⟩ := Option.map_eq_some_iff.mp h
    exact .string hskip hread
  · exact readsAs_of_bracket hskip h
  · exact readsAs_of_brace hskip h

end Step

/-- What is read with some fuel is read from every longer text, and with more fuel. A value that is
a number needs something behind it. -/
structure ReadsOn (fuel : Nat) : Prop where
  value : ∀ {depth s v rest}, readValue fuel depth s = some (v, rest) → rest ≠ [] →
    ∀ {fuel'}, fuel ≤ fuel' → ∀ more, readValue fuel' depth (s ++ more) = some (v, rest ++ more)
  items : ∀ {depth s items rest}, readItems fuel depth s = some (items, rest) →
    ∀ {fuel'}, fuel ≤ fuel' → ∀ more,
      readItems fuel' depth (s ++ more) = some (items, rest ++ more)
  members : ∀ {depth before s members rest},
    readMembers fuel depth before s = some (members, rest) →
      ∀ {fuel'}, fuel ≤ fuel' → ∀ more,
        readMembers fuel' depth before (s ++ more) = some (members, rest ++ more)

theorem readsOn_zero : ReadsOn 0 where
  value h := by simp [readValue] at h
  items h := by simp [readItems] at h
  members h := by simp [readMembers] at h

/-- Text is left where it goes on behind blanks. -/
theorem ne_nil_of_skipBlanks {c : Char} {behind : List Char} (h : skipBlanks s = c :: behind) :
    s ≠ [] := by
  rintro rfl
  cases h

variable {fuel fuel' depth : Nat}

/-- There is nothing to read where only blanks are. -/
theorem skipBlanks_ne_nil_of_readItems {items : List Json}
    (h : readItems fuel depth s = some (items, rest)) : skipBlanks s ≠ [] := by
  intro hblank
  rcases fuel with _ | _ | fuel
  · simp [readItems] at h
  · simp [readItems, readValue] at h
  · simp [readItems, readValue_of_blank hblank] at h

theorem skipBlanks_ne_nil_of_readMembers {before members : List (String × Json)}
    (h : readMembers fuel depth before s = some (members, rest)) : skipBlanks s ≠ [] := by
  intro hblank
  rcases fuel with _ | fuel
  · simp [readMembers] at h
  · simp [readMembers, hblank] at h

namespace ReadsOn

theorem readItems_succ (ih : ReadsOn fuel) {items : List Json}
    (h : readItems (fuel + 1) depth s = some (items, rest)) (hle : fuel ≤ fuel')
    (more : List Char) : readItems (fuel' + 1) depth (s ++ more) = some (items, rest ++ more) := by
  rw [readItems] at h ⊢
  split at h
  · cases h
  -- A comma or the bracket follows the item, so a number ends here in the longer text too.
  rename_i v behind hvalue
  split at h
  · rename_i behind' hskip
    obtain ⟨⟨items, rest⟩, hitems, heq⟩ := Option.map_eq_some_iff.mp h
    cases heq
    rw [ih.value hvalue (ne_nil_of_skipBlanks hskip) hle more]
    simp only [skipBlanks_append hskip, ih.items hitems hle more]
    rfl
  · rename_i behind' hskip
    cases h
    rw [ih.value hvalue (ne_nil_of_skipBlanks hskip) hle more]
    simp only [skipBlanks_append hskip]
  · cases h

theorem readMembers_succ (ih : ReadsOn fuel) {before members : List (String × Json)}
    (h : readMembers (fuel + 1) depth before s = some (members, rest)) (hle : fuel ≤ fuel')
    (more : List Char) :
    readMembers (fuel' + 1) depth before (s ++ more) = some (members, rest ++ more) := by
  rw [readMembers] at h ⊢
  split at h
  case h_2 => cases h
  rename_i behind hquote
  split at h
  · cases h
  rename_i name behind' hname
  split at h
  case h_2 => cases h
  rename_i behind'' hcolon
  split at h
  · cases h
  rename_i v after hvalue
  simp only [skipBlanks_append hquote, readString_append hname more, skipBlanks_append hcolon]
  split at h
  · rename_i after' hskip
    rw [ih.value hvalue (ne_nil_of_skipBlanks hskip) hle more]
    simp only [skipBlanks_append hskip, ih.members h hle more]
  · rename_i after' hskip
    cases h
    rw [ih.value hvalue (ne_nil_of_skipBlanks hskip) hle more]
    simp only [skipBlanks_append hskip]
  · cases h

/-- An object needs nothing behind it, and whatever is left serves a number. -/
theorem readValue_succ (ih : ReadsOn fuel) {v : Json}
    (h : readValue (fuel + 1) depth s = some (v, rest))
    (hends : rest = [] → ∃ behind, skipBlanks s = '\x7b' :: behind) (hle : fuel ≤ fuel')
    (more : List Char) : readValue (fuel' + 1) depth (s ++ more) = some (v, rest ++ more) := by
  cases readsAs_of_readValue h with
  | string start read =>
    rw [readValue_of_quote (skipBlanks_append start more), readString_append read more]
    rfl
  | emptyArray start close =>
    exact readValue_of_brackets (skipBlanks_append start more) (skipBlanks_append close more)
  | array start filled read =>
    rw [readValue_of_bracket (skipBlanks_append start more)
      (skipBlanks_append_ne filled (skipBlanks_ne_nil_of_readItems read) more),
      ih.items read hle more]
    rfl
  | emptyObject start close =>
    exact readValue_of_braces (skipBlanks_append start more) (skipBlanks_append close more)
  | object start filled read =>
    rw [readValue_of_brace (skipBlanks_append start more)
      (skipBlanks_append_ne filled (skipBlanks_ne_nil_of_readMembers read) more),
      ih.members read hle more]
    rfl
  | @scalar _ c _ behind _ start plain read =>
    have hrest : rest ≠ [] := by
      intro hnil
      obtain ⟨behind', hbrace⟩ := hends hnil
      rw [start] at hbrace
      obtain ⟨rfl, -⟩ := List.cons.inj hbrace
      simp at plain
    rw [readValue_of_plain (skipBlanks_append start more) plain]
    exact isSteady_readScalar read hrest more

end ReadsOn

/-- What is read with some fuel is read from every longer text. -/
theorem readsOn (fuel : Nat) : ReadsOn fuel := by
  induction fuel with
  | zero => exact readsOn_zero
  | succ fuel ih =>
    -- More fuel than none is some.
    have hsucc {n : Nat} (hle : fuel + 1 ≤ n) : ∃ m, n = m + 1 ∧ fuel ≤ m :=
      ⟨n - 1, by omega, by omega⟩
    constructor
    · intro depth s v rest h hrest fuel' hle more
      obtain ⟨m, rfl, hm⟩ := hsucc hle
      exact ih.readValue_succ h (absurd · hrest) hm more
    · intro depth s items rest h fuel' hle more
      obtain ⟨m, rfl, hm⟩ := hsucc hle
      exact ih.readItems_succ h hm more
    · intro depth before s members rest h fuel' hle more
      obtain ⟨m, rfl, hm⟩ := hsucc hle
      exact ih.readMembers_succ h hm more

/-- An object at the front of a text is read from every longer one. -/
theorem readFirst_append {v : Json} (h : readFirst ('\x7b' :: s) = some (v, rest))
    (more : List Char) : readFirst ('\x7b' :: s ++ more) = some (v, rest ++ more) :=
  (readsOn _).readValue_succ h (fun _ => ⟨s, rfl⟩) (by simp) more

/-- What is read behind an opening brace is an object. -/
theorem exists_eq_object_of_readFirst {v : Json} (h : readFirst ('\x7b' :: s) = some (v, rest)) :
    ∃ members, v = .object members := by
  have hstart : skipBlanks ('\x7b' :: s) = '\x7b' :: s := rfl
  cases readsAs_of_readValue h with
  | emptyObject start close => exact ⟨[], rfl⟩
  | object start filled read => exact ⟨_, rfl⟩
  | string start read => simp [hstart] at start
  | emptyArray start close => simp [hstart] at start
  | array start filled read => simp [hstart] at start
  | scalar start plain read =>
    rw [hstart] at start
    obtain ⟨rfl, -⟩ := List.cons.inj start
    simp at plain

end MotionLink.Json
