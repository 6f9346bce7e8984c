import MotionLink.Command.Decode
import MotionLink.Command.Encode
import MotionLink.Proofs.Number.ReadBack
import MotionLink.Proofs.Text.Trim

/-!
# Slots read back

Texts without bars are found in the slots they were written to, and a number in a slot is read as
itself.

## Main results

* `Decoded.ofPayload_payload` — slots without bars are found where they were written
* `not_isBlank_of_isWireChar` — numbers show neither blanks nor separators
* `readAction_naturalChars`, `readNatural_naturalChars`, `readSpeed_wireChars` — numbers in slots
-/

namespace MotionLink

/-! ### Texts with separators -/

/-- What stands in a row of texts is a separator or stands in one of the texts. -/
theorem mem_intercalate {sep c : Char} {texts : List (List Char)}
    (h : c ∈ [sep].intercalate texts) : c = sep ∨ ∃ t ∈ texts, c ∈ t := by
  induction texts with
  | nil => cases h
  | cons t rest ih =>
    cases rest with
    | nil =>
      rw [List.intercalate_singleton] at h
      exact .inr ⟨t, by simp, h⟩
    | cons u rest =>
      rw [List.intercalate_cons_cons, List.mem_append, List.mem_append] at h
      rcases h with (hmem | hmem) | hmem
      · exact .inr ⟨t, by simp, hmem⟩
      · exact .inl (List.mem_singleton.mp hmem)
      · rcases ih hmem with hsep | ⟨v, hv, hmem⟩
        · exact .inl hsep
        · exact .inr ⟨v, List.mem_cons_of_mem _ hv, hmem⟩

theorem intercalate_ne_nil {sep : Char} {texts : List (List Char)} (hne : texts ≠ [])
    (h : ∀ t ∈ texts, t ≠ []) : [sep].intercalate texts ≠ [] := by
  cases texts with
  | nil => exact absurd rfl hne
  | cons t rest =>
    have ht : t ≠ [] := h t List.mem_cons_self
    cases rest with
    | nil => rwa [List.intercalate_singleton]
    | cons u rest =>
      rw [List.intercalate_cons_cons, List.append_assoc]
      exact List.append_ne_nil_of_left_ne_nil ht _

/-- There is a separator between any two texts of a row. -/
theorem length_le_length_intercalate (sep : Char) (texts : List (List Char)) :
    texts.length ≤ ([sep].intercalate texts).length + 1 := by
  induction texts with
  | nil => simp
  | cons t rest ih =>
    cases rest with
    | nil => simp
    | cons u rest =>
      rw [List.intercalate_cons_cons]
      simp only [List.length_cons, List.length_append, List.length_nil] at ih ⊢
      omega

/-! ### Finding the slots -/

namespace Slot

variable {texts : Slot → List Char}

theorem payload_eq_append (texts : Slot → List Char) :
    payload texts = [bar].intercalate (all.dropLast.map texts) ++ bar :: texts id := by
  simp [payload, all, List.intercalate, List.intersperse]

/-- The texts of the slots, the last one without the blanks at its end. -/
def trimLast (texts : Slot → List Char) (slot : Slot) : List Char :=
  if slot = id then Text.trimEnd (texts slot) else texts slot

/-- The bar before the last slot is no blank, so at the end of a payload only that slot is
trimmed. -/
theorem trimEnd_payload (texts : Slot → List Char) :
    Text.trimEnd (payload texts) = payload (trimLast texts) := by
  have hbar : Text.trimEnd (bar :: texts id) = bar :: Text.trimEnd (texts id) :=
    Text.trimEndBy_cons (by decide)
  have happend : Text.trimEnd ([bar].intercalate (all.dropLast.map texts) ++ bar :: texts id) =
      [bar].intercalate (all.dropLast.map texts) ++ Text.trimEnd (bar :: texts id) :=
    Text.trimEndBy_append _ (by rw [← Text.trimEnd, hbar]; exact List.cons_ne_nil _ _)
  rw [payload_eq_append, happend, hbar, payload_eq_append]
  simp [all, trimLast]

theorem trim_trimLast (texts : Slot → List Char) (slot : Slot) :
    Text.trim (trimLast texts slot) = Text.trim (texts slot) := by
  rw [trimLast]
  split
  · exact Text.trimBy_trimEndBy _ _
  · rfl

theorem mem_of_mem_trimLast {slot : Slot} {c : Char} (h : c ∈ trimLast texts slot) :
    c ∈ texts slot := by
  rw [trimLast] at h
  split at h
  · exact Text.mem_of_mem_trimEndBy h
  · exact h

/-- A payload ends as its last slot does. -/
theorem getLast?_payload (hlast : (texts id).getLast? ≠ some hash) :
    (payload texts).getLast? ≠ some hash := by
  rw [payload_eq_append, List.getLast?_append_of_ne_nil _ (List.cons_ne_nil _ _)]
  cases hid : texts id with
  | nil => decide
  | cons c rest =>
    rw [hid] at hlast
    rwa [List.getLast?_cons_cons]

theorem getElem?_map_all (f : Slot → List Char) (slot : Slot) :
    (all.map f)[slot.index]? = some (f slot) := by
  cases slot <;> rfl

end Slot

/-- Slots without bars are found where they were written, without the blanks around them. -/
theorem Decoded.ofPayload_payload {texts : Slot → List Char}
    (hbar : ∀ slot, Slot.bar ∉ texts slot)
    (hlast : (Text.trimEnd (texts .id)).getLast? ≠ some Slot.hash) :
    Decoded.ofPayload (String.ofList (Slot.payload texts)) =
      Decoded.ofSlots fun slot => Text.trim (texts slot) := by
  have hparts : payloadParts (Slot.payload texts) = Slot.all.map (Slot.trimLast texts) := by
    -- Blanks are taken off first, so a terminator behind them would have to belong to the id.
    have hhash : Text.dropLastChar? Slot.hash (Slot.payload (Slot.trimLast texts)) = none := by
      rw [Text.dropLastChar?, if_neg (Slot.getLast?_payload hlast)]
    have hne : Slot.all.map (Slot.trimLast texts) ≠ [] := List.cons_ne_nil _ _
    rw [payloadParts, Slot.trimEnd_payload, hhash, Option.getD_none, Slot.payload]
    apply List.splitOn_intercalate Slot.bar _ hne
    intro l hl hmem
    obtain ⟨slot, -, rfl⟩ := List.mem_map.mp hl
    exact hbar slot (Slot.mem_of_mem_trimLast hmem)
  have hslots : slotText (Slot.all.map (Slot.trimLast texts)) =
      fun slot => Text.trim (texts slot) := by
    funext slot
    rw [slotText, Slot.getElem?_map_all, Option.getD_some, Slot.trim_trimLast]
  rw [Decoded.ofPayload, String.toList_ofList, hparts, hslots]
  rfl

/-! ### Numbers in slots -/

theorem digit_bounds {c : Char} (h : c.isDigit = true) : 0x30 ≤ c.toNat ∧ c.toNat ≤ 0x39 := by
  simp only [Char.isDigit, Bool.and_eq_true, decide_eq_true_eq] at h
  exact ⟨UInt32.le_iff_toNat_le.mp h.1, UInt32.le_iff_toNat_le.mp h.2⟩

/-- A character of a number is neither a blank nor a separator. -/
theorem not_isBlank_of_isWireChar {c : Char} (h : Binary64.isWireChar c = true) :
    Text.isBlank c = false ∧ isReserved c = false := by
  simp only [Binary64.isWireChar, Bool.or_eq_true, beq_iff_eq] at h
  rcases h with (hdigit | rfl) | rfl
  · have hbounds := digit_bounds hdigit
    refine ⟨?_, ?_⟩
    · simp [Text.isBlank, Text.inRanges, Text.blankRanges]
      omega
    · simp only [isReserved, Bool.or_eq_false_iff, beq_eq_false_iff_ne]
      refine ⟨⟨⟨?_, ?_⟩, ?_⟩, ?_⟩ <;> rintro rfl <;> exact absurd hbounds (by decide)
  · decide
  · decide

theorem ne_of_isWireChar {c sep : Char} (h : Binary64.isWireChar c = true)
    (hsep : isReserved sep = true) : c ≠ sep := by
  rintro rfl
  rw [(not_isBlank_of_isWireChar h).2] at hsep
  cases hsep

/-- A text of such characters, as numbers and rows of numbers are. -/
theorem trim_eq_self {s : List Char} (h : ∀ c ∈ s, Binary64.isWireChar c = true) :
    Text.trim s = s :=
  Text.trimBy_eq_self fun c hc => (not_isBlank_of_isWireChar (h c hc)).1

theorem isWireChar_of_mem_naturalChars {n : Nat} {c : Char} (h : c ∈ naturalChars n) :
    Binary64.isWireChar c = true := by
  simp [Binary64.isWireChar, isRow_toDigits n c h]

/-- A natural below the bound is read as itself. -/
theorem readNatural_naturalChars {bound n : Nat} (h : n < bound) :
    readNatural bound (naturalChars n) = some n := by
  have hrow : IsRow (naturalChars n) := isRow_toDigits n
  have hne : naturalChars n ≠ [] := Nat.toDigits_ne_nil
  have hall : (naturalChars n).all Char.isDigit = true := List.all_eq_true.mpr hrow
  have hread : readDigits (naturalChars n) = some n := by
    rw [readDigits, if_pos (by simp [hne, hall]), numeral_eq_rowValue, naturalChars,
      rowValue_toDigits]
  obtain ⟨c, rest, hcons⟩ := List.exists_cons_of_ne_nil (Nat.toDigits_ne_nil (b := 10) (n := n))
  have hplus : c ≠ '+' := (digit_ne (hrow c (by simp [naturalChars, hcons]))).2.1
  rw [readNatural]
  · rw [hread, Option.filter_some, if_pos (by simpa using h)]
  · intro r hr
    rw [naturalChars, hcons] at hr
    exact absurd (List.cons.inj hr).1 hplus

theorem slotValue_some {α : Type} (slot : Slot) (text : List Char) (v : α) :
    slotValue slot text (some v) = .ok v := rfl

theorem readAction_naturalChars (a : Action) : readAction (naturalChars a.code) = .ok a := by
  have hcode : a.code < actionBound := by cases a <;> decide
  have hof : Action.ofCode? a.code = some a := by cases a <;> rfl
  simp only [readAction, readNatural_naturalChars hcode, slotValue_some, bind, Except.bind, hof]
  rfl

theorem readSpeed_wireChars {x : Binary64} : readSpeed x.wireChars = .ok (some x) := by
  rw [readSpeed, if_neg (by simpa using x.wireChars_ne_nil), Binary64.read_wireChars]
  rfl

end MotionLink
