import Mathlib.Data.List.Forall2
import MotionLink.Proofs.Text.Trim

/-!
# What stands around a text

A text can be written with blanks around it, and so can the pieces that it is cut into. The blanks
around a text are blanks around its first and its last piece, so without them the pieces are the
same.

## Main definitions

* `Text.IsBare` — a text without characters of a class at its ends
* `Text.IsPadded` — a text with blanks around another one

## Main results

* `Text.isBare_iff` — bare texts are those that stay as they are when trimmed
* `Text.mem_iff_exists_mem_splitOn`, `Text.not_mem_of_mem_splitOn` — what stands in the pieces
* `Text.map_trim_splitOn` — a trimmed text is cut into the same pieces, once these are trimmed
-/

namespace MotionLink.Text

variable {p : Char → Bool} {s t piece : List Char} {c sep : Char}

/-! ### Bare texts -/

/-- The text neither begins nor ends with a character of the class. -/
structure IsBare (p : Char → Bool) (s : List Char) : Prop where
  head : ∀ c ∈ s.head?, p c = false
  last : ∀ c ∈ s.getLast?, p c = false

theorem trimStartBy_eq_self_iff : trimStartBy p s = s ↔ ∀ c ∈ s.head?, p c = false := by
  cases s with
  | nil => simp [trimStartBy]
  | cons c s => simp [trimStartBy, List.dropWhile_eq_self_iff]

theorem trimEndBy_eq_self_iff : trimEndBy p s = s ↔ ∀ c ∈ s.getLast?, p c = false := by
  rcases List.eq_nil_or_concat' s with rfl | ⟨first, c, rfl⟩
  · simp [trimEndBy]
  · simp [trimEndBy_eq_rdropWhile, List.rdropWhile_eq_self_iff]

/-- Bare texts are those that stay as they are when trimmed. -/
theorem isBare_iff : IsBare p s ↔ trimBy p s = s := by
  constructor
  · intro h
    rw [trimBy, trimStartBy_eq_self_iff.mpr h.head, trimEndBy_eq_self_iff.mpr h.last]
  · intro h
    have hstart : trimStartBy p s = s := by
      rw [← h, trimBy, trimStartBy_trimEndBy]
      exact congrArg _ (List.dropWhile_idempotent p s)
    exact ⟨trimStartBy_eq_self_iff.mp hstart, trimEndBy_eq_self_iff.mp (trimEndBy_eq_self h)⟩

theorem isBare_trimBy (p : Char → Bool) (s : List Char) : IsBare p (trimBy p s) :=
  isBare_iff.mpr (trimBy_trimBy p s)

/-! ### Padded texts -/

/-- The text `t` is `s` with blanks around it. -/
def IsPadded (s t : List Char) : Prop :=
  ∃ pad pad', (∀ c ∈ pad, isBlank c = true) ∧ (∀ c ∈ pad', isBlank c = true) ∧
    t = pad ++ s ++ pad'

theorem IsPadded.trim_eq (h : IsPadded s t) : trim t = trim s := by
  obtain ⟨pad, pad', hpad, hpad', rfl⟩ := h
  exact trimBy_append s hpad hpad'

theorem isPadded_trim (s : List Char) : IsPadded (trim s) s := by
  obtain ⟨pad, pad', hs, hpad, hpad'⟩ := exists_eq_append_trimBy isBlank s
  exact ⟨pad, pad', hpad, hpad', hs⟩

/-- Nothing but blanks is added. -/
theorem IsPadded.mem (h : IsPadded s t) (hc : c ∈ t) : c ∈ s ∨ isBlank c = true := by
  obtain ⟨pad, pad', hpad, hpad', rfl⟩ := h
  rcases List.mem_append.mp hc with hc | hc
  · exact (List.mem_append.mp hc).symm.imp_right (hpad c)
  · exact .inr (hpad' c hc)

/-! ### Pieces -/

theorem not_mem_of_mem_splitOn (h : piece ∈ s.splitOn sep) : sep ∉ piece := by
  induction s generalizing piece with
  | nil =>
    obtain rfl := List.mem_singleton.mp h
    exact List.not_mem_nil
  | cons c s ih =>
    rw [List.splitOn_cons_eq_if_modifyHead] at h
    split at h
    · rcases List.mem_cons.mp h with rfl | h
      · exact List.not_mem_nil
      · exact ih h
    · rename_i hc
      obtain ⟨first, others, hsplit⟩ :=
        List.exists_cons_of_ne_nil (List.splitOn_ne_nil sep s)
      rw [hsplit] at ih
      rw [hsplit, List.modifyHead_cons] at h
      rcases List.mem_cons.mp h with rfl | h
      · rw [List.mem_cons, not_or]
        exact ⟨fun heq => hc (by simp [heq]), ih List.mem_cons_self⟩
      · exact ih (List.mem_cons_of_mem _ h)

/-- Every other character of a text stands in one of the pieces. -/
theorem mem_iff_exists_mem_splitOn (hc : c ≠ sep) :
    c ∈ s ↔ ∃ piece ∈ s.splitOn sep, c ∈ piece := by
  induction s with
  | nil => simp
  | cons d s ih =>
    obtain ⟨first, others, hsplit⟩ := List.exists_cons_of_ne_nil (List.splitOn_ne_nil sep s)
    rw [List.splitOn_cons_eq_if_modifyHead, List.mem_cons, ih, hsplit]
    split
    · rename_i hd
      have hne : c ≠ d := fun heq => hc (heq.trans (by simpa using hd))
      simp [hne]
    · simp [or_assoc]

/-- A text with the character in it, cut at the last place. -/
theorem exists_eq_append_of_mem (h : sep ∈ s) :
    ∃ first behind, s = first ++ sep :: behind ∧ sep ∉ behind := by
  obtain ⟨behind, first, hs, hbehind⟩ := List.eq_append_cons_of_mem (List.mem_reverse.mpr h)
  refine ⟨first.reverse, behind.reverse, ?_, by simpa using hbehind⟩
  rw [← List.reverse_reverse s, hs, List.reverse_append, List.reverse_cons,
    List.append_assoc, List.singleton_append]

/-- Blanks in front of a text are blanks in front of its first piece. -/
theorem map_trim_splitOn_of_front {pad : List Char} (hsep : isBlank sep = false) (s : List Char)
    (hpad : ∀ c ∈ pad, isBlank c = true) :
    ((pad ++ s).splitOn sep).map trim = (s.splitOn sep).map trim := by
  have hplain : sep ∉ pad := fun hmem => by simp [hpad sep hmem] at hsep
  have htrim (t : List Char) : trim (pad ++ t) = trim t :=
    IsPadded.trim_eq ⟨pad, [], hpad, by simp, by simp⟩
  by_cases hmem : sep ∈ s
  · obtain ⟨first, behind, rfl, hfirst⟩ := List.eq_append_cons_of_mem hmem
    have hboth : sep ∉ pad ++ first := by simp [hplain, hfirst]
    rw [← List.append_assoc, List.splitOn_append_cons_self_of_not_mem hboth,
      List.splitOn_append_cons_self_of_not_mem hfirst, List.map_cons, List.map_cons, htrim]
  · rw [List.splitOn_eq_singleton (by simp [hplain, hmem]), List.splitOn_eq_singleton hmem,
      List.map_singleton, List.map_singleton, htrim]

/-- Blanks behind a text are blanks behind its last piece. -/
theorem map_trim_splitOn_of_behind {pad : List Char} (hsep : isBlank sep = false) (s : List Char)
    (hpad : ∀ c ∈ pad, isBlank c = true) :
    ((s ++ pad).splitOn sep).map trim = (s.splitOn sep).map trim := by
  have hplain : sep ∉ pad := fun hmem => by simp [hpad sep hmem] at hsep
  have htrim (t : List Char) : trim (t ++ pad) = trim t :=
    IsPadded.trim_eq ⟨[], pad, by simp, hpad, by simp⟩
  by_cases hmem : sep ∈ s
  · obtain ⟨first, behind, rfl, hbehind⟩ := exists_eq_append_of_mem hmem
    have hboth : sep ∉ behind ++ pad := by simp [hplain, hbehind]
    rw [List.append_assoc, List.cons_append, List.splitOn_append_cons_self,
      List.splitOn_append_cons_self, List.splitOn_eq_singleton hboth,
      List.splitOn_eq_singleton hbehind, List.map_append, List.map_append, List.map_singleton,
      List.map_singleton, htrim]
  · rw [List.splitOn_eq_singleton (by simp [hplain, hmem]), List.splitOn_eq_singleton hmem,
      List.map_singleton, List.map_singleton, htrim]

/-- A trimmed text is cut into the same pieces, once these are trimmed. -/
theorem map_trim_splitOn (hsep : isBlank sep = false) (s : List Char) :
    ((trim s).splitOn sep).map trim = (s.splitOn sep).map trim := by
  obtain ⟨pad, pad', hpad, hpad', hs⟩ := isPadded_trim s
  calc ((trim s).splitOn sep).map trim
      = ((pad ++ trim s).splitOn sep).map trim := (map_trim_splitOn_of_front hsep _ hpad).symm
    _ = ((pad ++ trim s ++ pad').splitOn sep).map trim :=
        (map_trim_splitOn_of_behind hsep _ hpad').symm
    _ = (s.splitOn sep).map trim := by rw [← hs]

end MotionLink.Text
