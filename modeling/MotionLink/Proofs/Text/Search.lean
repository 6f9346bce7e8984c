import Mathlib.Data.List.Basic
import Mathlib.Data.List.TakeWhile
import MotionLink.Text.Search

/-!
# What cutting leaves of a text

## Main definitions

* `Text.EndsIn` — a text that is empty or ends in a character of a class

## Main results

* `Text.eq_append_of_cutAt` — a pattern that is found stands between the two parts
* `Text.eq_append_of_cutAtChar` — so does a character
* `Text.cutAt_append` — a pattern is found at the same place of every longer text
* `Text.cutAtChar_append` — a text is cut where the character stands first
* `Text.exists_eq_append_afterLast` — a text behind its last character of a class
-/

namespace MotionLink.Text

variable {pattern passed s t before rest : List Char} {sep : Char} {p : Char → Bool}

/-- A row of members of a class that has ended is the same in every longer list. -/
theorem takeWhile_append_of_dropWhile {α : Type} {p : α → Bool} {s : List α}
    (h : s.dropWhile p ≠ []) (more : List α) : (s ++ more).takeWhile p = s.takeWhile p := by
  have hlength := congrArg List.length (List.takeWhile_append_dropWhile (p := p) (l := s))
  have hpos := List.length_pos_iff.mpr h
  rw [List.length_append] at hlength
  rw [List.takeWhile_append, if_neg (by omega)]

/-- What is passed on the way stands before the pattern. -/
theorem exists_eq_append_of_cutAtFrom (h : cutAtFrom pattern passed s = some (before, rest)) :
    ∃ skipped, before = passed.reverse ++ skipped ∧ s = skipped ++ pattern ++ rest := by
  induction s generalizing passed with
  | nil =>
    rw [cutAtFrom] at h
    split at h
    · rename_i hempty
      obtain ⟨rfl, rfl⟩ := Prod.mk.inj (Option.some.inj h)
      exact ⟨[], by simp, by simp [List.isEmpty_iff.mp hempty]⟩
    · cases h
  | cons c s ih =>
    rw [cutAtFrom] at h
    split at h
    · rename_i behind hfound
      obtain ⟨rfl, rfl⟩ := Prod.mk.inj (Option.some.inj h)
      exact ⟨[], by simp, (List.isPrefixOf?_eq_some_iff_append_eq.mp hfound).symm⟩
    · -- The character is passed, and the rest of the text is searched.
      obtain ⟨skipped, rfl, rfl⟩ := ih h
      exact ⟨c :: skipped, by simp, rfl⟩

/-- A pattern that is found stands between the two parts. -/
theorem eq_append_of_cutAt (h : cutAt pattern s = some (before, rest)) :
    s = before ++ pattern ++ rest := by
  obtain ⟨skipped, rfl, hs⟩ := exists_eq_append_of_cutAtFrom h
  exact hs

theorem cutAtFrom_append (h : cutAtFrom pattern passed s = some (before, rest))
    (more : List Char) : cutAtFrom pattern passed (s ++ more) = some (before, rest ++ more) := by
  induction s generalizing passed with
  | nil =>
    rw [cutAtFrom] at h
    split at h
    · rename_i hempty
      obtain ⟨rfl, rfl⟩ := Prod.mk.inj (Option.some.inj h)
      rw [List.isEmpty_iff.mp hempty]
      cases more <;> rfl
    · cases h
  | cons c s ih =>
    rw [cutAtFrom] at h
    rw [List.cons_append, cutAtFrom]
    split at h
    · rename_i behind hfound
      obtain ⟨rfl, rfl⟩ := Prod.mk.inj (Option.some.inj h)
      have hmore : pattern.isPrefixOf? (c :: (s ++ more)) = some (behind ++ more) := by
        rw [List.isPrefixOf?_eq_some_iff_append_eq] at hfound ⊢
        rw [← List.append_assoc, hfound, List.cons_append]
      rw [hmore]
    · rename_i hnone
      -- The pattern stands further on, so it is too short to reach into what is appended.
      obtain ⟨skipped, -, hs⟩ := exists_eq_append_of_cutAtFrom h
      have hmore : pattern.isPrefixOf? (c :: (s ++ more)) = none := by
        rw [Option.eq_none_iff_forall_ne_some]
        intro behind hfound
        have hlength : pattern.length ≤ (c :: s).length := by
          rw [hs]
          simp only [List.length_cons, List.length_append]
          omega
        obtain ⟨tail, htail⟩ : pattern <+: c :: s := List.prefix_of_prefix_length_le
          ⟨behind, List.isPrefixOf?_eq_some_iff_append_eq.mp hfound⟩ (List.prefix_append _ more)
          hlength
        rw [List.isPrefixOf?_eq_some_iff_append_eq.mpr htail] at hnone
        cases hnone
      rw [hmore]
      exact ih h

/-- A pattern that is found is found at the same place of every longer text. -/
theorem cutAt_append (h : cutAt pattern s = some (before, rest)) (more : List Char) :
    cutAt pattern (s ++ more) = some (before, rest ++ more) :=
  cutAtFrom_append h more

/-- A character that is found stands between the two parts. -/
theorem eq_append_of_cutAtChar (h : cutAtChar sep s = some (before, rest)) :
    s = before ++ sep :: rest := by
  rw [cutAtChar] at h
  split at h
  · cases h
  · rename_i c behind hdrop
    obtain ⟨rfl, rfl⟩ := Prod.mk.inj (Option.some.inj h)
    have hne : s.dropWhile (· != sep) ≠ [] := by simp [hdrop]
    have hc : c = sep := by
      have hnot := List.head_dropWhile_not (· != sep) hne
      simpa [hdrop] using hnot
    calc s = s.takeWhile (· != sep) ++ s.dropWhile (· != sep) :=
        List.takeWhile_append_dropWhile.symm
      _ = s.takeWhile (· != sep) ++ sep :: behind := by rw [hdrop, hc]

/-- A text is cut where the character stands first. -/
theorem cutAtChar_append (h : sep ∉ before) (rest : List Char) :
    cutAtChar sep (before ++ sep :: rest) = some (before, rest) := by
  have hpassed : ∀ c ∈ before, (c != sep) = true := fun c hc =>
    bne_iff_ne.mpr fun heq => h (heq ▸ hc)
  have hsep : ¬(sep != sep) = true := by simp
  rw [cutAtChar, List.dropWhile_append_of_pos hpassed, List.takeWhile_append_of_pos hpassed,
    List.dropWhile_cons_of_neg (p := (· != sep)) hsep,
    List.takeWhile_cons_of_neg (p := (· != sep)) hsep, List.append_nil]

theorem cutAtChar_eq_none_iff : cutAtChar sep s = none ↔ sep ∉ s := by
  constructor
  · intro h hmem
    obtain ⟨first, behind, rfl, hfirst⟩ := List.eq_append_cons_of_mem hmem
    rw [cutAtChar_append hfirst] at h
    cases h
  · intro h
    rcases hcut : cutAtChar sep s with _ | ⟨before, rest⟩
    · rfl
    · rw [eq_append_of_cutAtChar hcut] at h
      exact absurd (List.mem_append_right before List.mem_cons_self) h

theorem not_mem_of_cutAtChar (h : cutAtChar sep s = some (before, rest)) : sep ∉ before := by
  obtain ⟨first, behind, hs, hfirst⟩ := List.eq_append_cons_of_mem
    (Decidable.not_not.mp (mt cutAtChar_eq_none_iff.mpr (by rw [h]; nofun)))
  rw [hs, cutAtChar_append hfirst] at h
  obtain ⟨rfl, -⟩ := Prod.mk.inj (Option.some.inj h)
  exact hfirst

/-- A character that is found is found at the same place of every longer text. -/
theorem cutAtChar_append_of_eq_some (h : cutAtChar sep s = some (before, rest))
    (more : List Char) : cutAtChar sep (s ++ more) = some (before, rest ++ more) := by
  rw [eq_append_of_cutAtChar h, List.append_assoc, List.cons_append]
  exact cutAtChar_append (not_mem_of_cutAtChar h) (rest ++ more)

/-- What stands behind any place of the character stands behind the first one. -/
theorem suffix_of_cutAtChar {first behind : List Char}
    (h : cutAtChar sep (first ++ sep :: behind) = some (before, rest)) : behind <:+ rest := by
  by_cases hmem : sep ∈ first
  · obtain ⟨a, b, rfl, ha⟩ := List.eq_append_cons_of_mem hmem
    rw [List.append_assoc, List.cons_append, cutAtChar_append ha] at h
    obtain ⟨-, rfl⟩ := Prod.mk.inj (Option.some.inj h)
    exact ⟨b ++ [sep], by simp⟩
  · rw [cutAtChar_append hmem] at h
    obtain ⟨-, rfl⟩ := Prod.mk.inj (Option.some.inj h)
    exact List.suffix_rfl

/-- The text is empty or ends in a character of the class. -/
def EndsIn (p : Char → Bool) (s : List Char) : Prop := ∀ c ∈ s.getLast?, p c = true

/-- Behind a last character of the class stand only others. -/
theorem afterLast_append (hs : EndsIn p s) (ht : ∀ c ∈ t, p c = false) :
    afterLast p (s ++ t) = t := by
  have hpassed : ∀ c ∈ t.reverse, (!p c) = true := by simpa using ht
  have hstop : s.reverse.takeWhile (fun c => !p c) = [] := by
    rcases List.eq_nil_or_concat' s with rfl | ⟨first, last, rfl⟩
    · rfl
    · have hlast : p last = true := hs last (by simp)
      rw [List.reverse_concat, List.takeWhile_cons_of_neg (by simp [hlast])]
  rw [afterLast, List.reverse_append, List.takeWhile_append_of_pos hpassed, hstop,
    List.append_nil, List.reverse_reverse]

/-- A text is one that ends in a character of the class, and others behind it. -/
theorem exists_eq_append_afterLast (p : Char → Bool) (s : List Char) :
    ∃ first, s = first ++ afterLast p s ∧ EndsIn p first ∧ ∀ c ∈ afterLast p s, p c = false := by
  refine ⟨(s.reverse.dropWhile fun c => !p c).reverse, ?_, ?_, ?_⟩
  · rw [afterLast, ← List.reverse_append, List.takeWhile_append_dropWhile, List.reverse_reverse]
  · intro c hc
    rw [List.getLast?_reverse] at hc
    have hnot := List.head?_dropWhile_not (fun c => !p c) s.reverse
    rw [hc] at hnot
    simpa using hnot
  · intro c hc
    simpa using List.mem_takeWhile_imp (List.mem_reverse.mp hc)

end MotionLink.Text
