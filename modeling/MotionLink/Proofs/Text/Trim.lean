import Mathlib.Data.List.DropRight
import MotionLink.Text.Blank

/-!
# Trimming

## Main results

* `Text.trimBy_trimEndBy` — what is trimmed at its end first is trimmed to the same text
* `Text.trimEndBy_append` — only the last part of a text is trimmed at its end
* `Text.trimBy_eq_self` — a text without blanks at its ends stays as it is
* `Text.trimBy_eq_nil_iff` — nothing is left of blanks, and of blanks only
* `Text.trimBy_append`, `Text.exists_eq_append_trimBy` — a trimmed text and what stood around it
* `Text.trimBy_infix_trimBy` — what is left of a part of a text is left of the whole text too
-/

namespace MotionLink.Text

variable {p : Char → Bool} {s t : List Char} {c : Char}

theorem trimEndBy_eq_rdropWhile (p : Char → Bool) (s : List Char) :
    trimEndBy p s = s.rdropWhile p := rfl

theorem trimStartBy_eq_nil_iff : trimStartBy p s = [] ↔ ∀ c ∈ s, p c = true := by
  simp [trimStartBy]

theorem trimEndBy_eq_nil_iff : trimEndBy p s = [] ↔ ∀ c ∈ s, p c = true := by
  rw [trimEndBy_eq_rdropWhile, List.rdropWhile_eq_nil_iff]

theorem mem_of_mem_trimStartBy (h : c ∈ trimStartBy p s) : c ∈ s :=
  (List.dropWhile_suffix p).mem h

theorem mem_of_mem_trimEndBy (h : c ∈ trimEndBy p s) : c ∈ s :=
  (List.rdropWhile_prefix p s).mem h

theorem mem_of_mem_trimBy (h : c ∈ trimBy p s) : c ∈ s :=
  mem_of_mem_trimStartBy (mem_of_mem_trimEndBy h)

/-- Only the last part of a text is trimmed at its end, if that part does not consist of blanks. -/
theorem trimEndBy_append (s : List Char) (h : trimEndBy p t ≠ []) :
    trimEndBy p (s ++ t) = s ++ trimEndBy p t := by
  have hdrop : t.reverse.dropWhile p ≠ [] := fun hnil => h (by rw [trimEndBy, hnil]; rfl)
  rw [trimEndBy, List.reverse_append, List.dropWhile_append, if_neg (by simpa using hdrop),
    List.reverse_append, List.reverse_reverse, trimEndBy]

theorem trimEndBy_cons (hc : p c = false) : trimEndBy p (c :: s) = c :: trimEndBy p s := by
  by_cases h : trimEndBy p s = []
  · have hall := trimEndBy_eq_nil_iff.mp h
    rw [h, trimEndBy, List.reverse_cons, List.dropWhile_append_of_pos (by simpa using hall)]
    simp [hc]
  · exact trimEndBy_append [c] h

/-- The two ends are trimmed in either order. -/
theorem trimStartBy_trimEndBy (p : Char → Bool) (s : List Char) :
    trimStartBy p (trimEndBy p s) = trimEndBy p (trimStartBy p s) := by
  induction s with
  | nil => rfl
  | cons c s ih =>
    by_cases hc : p c = true
    · have hstart : trimStartBy p (c :: s) = trimStartBy p s := List.dropWhile_cons_of_pos hc
      by_cases h : trimEndBy p s = []
      · have hall : ∀ d ∈ c :: s, p d = true :=
          List.forall_mem_cons.mpr ⟨hc, trimEndBy_eq_nil_iff.mp h⟩
        rw [trimEndBy_eq_nil_iff.mpr hall, trimStartBy_eq_nil_iff.mpr hall]
        rfl
      · have hend : trimEndBy p (c :: s) = c :: trimEndBy p s := trimEndBy_append [c] h
        rw [hend, hstart, ← ih]
        exact List.dropWhile_cons_of_pos hc
    · have hc : p c = false := by simpa using hc
      have hstart (r : List Char) : trimStartBy p (c :: r) = c :: r :=
        List.dropWhile_cons_of_neg (by simp [hc])
      rw [trimEndBy_cons hc, hstart, hstart, trimEndBy_cons hc]

theorem trimEndBy_trimEndBy (p : Char → Bool) (s : List Char) :
    trimEndBy p (trimEndBy p s) = trimEndBy p s :=
  List.rdropWhile_idempotent p s

/-- A trimmed text has nothing at its end to be trimmed. -/
theorem trimEndBy_eq_self (h : trimBy p s = s) : trimEndBy p s = s := by
  rw [← h, trimBy, trimEndBy_trimEndBy]

/-- What is trimmed at its end first is trimmed to the same text. -/
theorem trimBy_trimEndBy (p : Char → Bool) (s : List Char) :
    trimBy p (trimEndBy p s) = trimBy p s := by
  rw [trimBy, trimStartBy_trimEndBy, trimEndBy_trimEndBy, trimBy]

theorem trimBy_trimBy (p : Char → Bool) (s : List Char) : trimBy p (trimBy p s) = trimBy p s := by
  have hstart : trimStartBy p (trimStartBy p s) = trimStartBy p s := List.dropWhile_idempotent p s
  calc trimBy p (trimBy p s) = trimBy p (trimStartBy p s) := trimBy_trimEndBy p (trimStartBy p s)
    _ = trimBy p s := by rw [trimBy, hstart, trimBy]

/-- Nothing is left of blanks, and of blanks only. -/
theorem trimBy_eq_nil_iff : trimBy p s = [] ↔ ∀ c ∈ s, p c = true := by
  rw [trimBy, ← trimStartBy_trimEndBy, trimStartBy_eq_nil_iff]
  constructor
  · intro h
    rw [← trimEndBy_eq_nil_iff, ← trimEndBy_trimEndBy, trimEndBy_eq_nil_iff]
    exact h
  · intro h c hc
    exact h c (mem_of_mem_trimEndBy hc)

theorem trim_eq_nil_iff : trim s = [] ↔ isAllBlank s = true := by
  rw [trim, trimBy_eq_nil_iff, isAllBlank, List.all_eq_true]

/-- A text none of whose characters is of the class stays as it is. -/
theorem trimBy_eq_self (h : ∀ c ∈ s, p c = false) : trimBy p s = s := by
  have hstart : trimStartBy p s = s := by
    cases s with
    | nil => rfl
    | cons c s => exact List.dropWhile_cons_of_neg (by simp [h c])
  rw [trimBy, hstart, trimEndBy_eq_rdropWhile, List.rdropWhile_eq_self_iff]
  intro hne
  simp [h _ (List.getLast_mem hne)]

theorem trimEndBy_append_of_forall (s : List Char) (ht : ∀ c ∈ t, p c = true) :
    trimEndBy p (s ++ t) = trimEndBy p s := by
  have hpassed : ∀ c ∈ t.reverse, p c = true := by simpa using ht
  rw [trimEndBy, List.reverse_append, List.dropWhile_append_of_pos hpassed, trimEndBy]

/-- What stands around a text goes, if it is of the class. -/
theorem trimBy_append {pad pad' : List Char} (s : List Char) (hpad : ∀ c ∈ pad, p c = true)
    (hpad' : ∀ c ∈ pad', p c = true) : trimBy p (pad ++ s ++ pad') = trimBy p s := by
  have hstart : trimStartBy p (pad ++ s) = trimStartBy p s := List.dropWhile_append_of_pos hpad
  calc trimBy p (pad ++ s ++ pad') = trimBy p (trimEndBy p (pad ++ s ++ pad')) :=
        (trimBy_trimEndBy p _).symm
    _ = trimBy p (pad ++ s) := by rw [trimEndBy_append_of_forall _ hpad', trimBy_trimEndBy]
    _ = trimBy p s := by rw [trimBy, hstart, trimBy]

theorem exists_eq_append_trimEndBy (p : Char → Bool) (s : List Char) :
    ∃ pad, s = trimEndBy p s ++ pad ∧ ∀ c ∈ pad, p c = true := by
  refine ⟨(s.reverse.takeWhile p).reverse, ?_, fun c hc => ?_⟩
  · rw [trimEndBy, ← List.reverse_append, List.takeWhile_append_dropWhile, List.reverse_reverse]
  · exact List.mem_takeWhile_imp (List.mem_reverse.mp hc)

/-- A text is the trimmed one and what stood around it. -/
theorem exists_eq_append_trimBy (p : Char → Bool) (s : List Char) :
    ∃ pad pad', s = pad ++ trimBy p s ++ pad' ∧ (∀ c ∈ pad, p c = true) ∧
      ∀ c ∈ pad', p c = true := by
  obtain ⟨pad', hpad', hall⟩ := exists_eq_append_trimEndBy p (trimStartBy p s)
  refine ⟨s.takeWhile p, pad', ?_, fun c hc => List.mem_takeWhile_imp hc, hall⟩
  rw [trimBy, List.append_assoc, ← hpad', trimStartBy, List.takeWhile_append_dropWhile]

/-- What is left of a part of a text at its start is left of the whole text too. -/
theorem trimStartBy_infix_trimStartBy (h : s <:+: t) : trimStartBy p s <:+: trimStartBy p t := by
  have hself : trimStartBy p s <:+: s := (List.dropWhile_suffix p).isInfix
  obtain ⟨before, behind, rfl⟩ := h
  rw [trimStartBy, trimStartBy, List.append_assoc, List.dropWhile_append]
  split
  · rw [List.dropWhile_append]
    split
    · rename_i hempty
      rw [List.isEmpty_iff.mp hempty]
      exact List.nil_infix
    · exact (List.prefix_append _ _).isInfix
  · exact hself.trans (List.infix_append' _ _ _)

theorem trimEndBy_infix_trimEndBy (h : s <:+: t) : trimEndBy p s <:+: trimEndBy p t := by
  have hreverse : s.reverse <:+: t.reverse := List.reverse_infix.mpr h
  exact List.reverse_infix.mpr <| trimStartBy_infix_trimStartBy hreverse

/-- What is left of a part of a text is left of the whole text too. -/
theorem trimBy_infix_trimBy (h : s <:+: t) : trimBy p s <:+: trimBy p t :=
  trimEndBy_infix_trimEndBy (trimStartBy_infix_trimStartBy h)

theorem trimBy_infix_self (p : Char → Bool) (s : List Char) : trimBy p s <:+: s := by
  obtain ⟨pad, pad', hs, -⟩ := exists_eq_append_trimBy p s
  exact ⟨pad, pad', hs.symm⟩

end MotionLink.Text
