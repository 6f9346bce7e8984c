import MotionLink.Json.Value
import MotionLink.Proofs.Number.ReadBack

/-!
# JSON on one line

The compact text of a value holds no line break: a line break inside a string is escaped, and
nothing else that is written is one.

## Main definitions

* `isNumberChar` — the characters that the text of a number may show

## Main results

* `Layout.isNumberChar_of_mem_decimal` — the text of a number shows no others
* `Json.newline_not_mem_chars` — the text of a value is a single line
-/

namespace MotionLink

/-! ### Numbers -/

/-- A digit, or one of the other characters that the text of a number may show. -/
def isNumberChar (c : Char) : Bool := c.isDigit || ['.', 'e', '+', '-'].contains c

theorem IsRow.isNumberChar {s : List Char} (h : IsRow s) {c : Char} (hc : c ∈ s) :
    isNumberChar c = true := by
  simp [MotionLink.isNumberChar, h c hc]

namespace Layout

variable {layout : Layout} {d : Decimal} {c : Char}

theorem isNumberChar_of_mem_plain (h : c ∈ layout.plain d) : isNumberChar c = true := by
  have hdigits := isRow_toDigits d.digits
  rw [plain] at h
  split at h
  · rcases List.mem_append.mp h with hrow | hpoint
    · exact (hdigits.append (isRow_replicate_zero _)).isNumberChar hrow
    · split at hpoint
      · simp only [List.mem_cons, List.not_mem_nil, or_false] at hpoint
        rcases hpoint with rfl | rfl <;> rfl
      · cases hpoint
  · dsimp only at h
    split at h
    · -- The point stands among the digits.
      rcases List.mem_append.mp h with hwhole | hrest
      · exact (hdigits.take _).isNumberChar hwhole
      · rcases List.mem_cons.mp hrest with rfl | hfraction
        · rfl
        · exact (hdigits.drop _).isNumberChar hfraction
    · -- All digits stand behind the point.
      rcases List.mem_cons.mp h with rfl | hrest
      · rfl
      · rcases List.mem_cons.mp hrest with rfl | hfraction
        · rfl
        · exact ((isRow_replicate_zero _).append hdigits).isNumberChar hfraction

theorem isNumberChar_of_mem_scientific (h : c ∈ scientific d) : isNumberChar c = true := by
  have hdigits := isRow_toDigits d.digits
  rw [scientific] at h
  rcases List.mem_append.mp h with hmantissa | hexponent
  · split at hmantissa
    · rename_i first second more hrow
      rw [hrow] at hdigits
      simp only [List.mem_cons] at hmantissa
      rcases hmantissa with rfl | rfl | hmore
      · exact hdigits.isNumberChar List.mem_cons_self
      · rfl
      · exact hdigits.isNumberChar (List.mem_cons_of_mem _ (List.mem_cons.mpr hmore))
    · exact hdigits.isNumberChar hmantissa
  · simp only [List.mem_cons] at hexponent
    rcases hexponent with rfl | rfl | hdigit
    · rfl
    · split <;> rfl
    · exact (isRow_toDigits _).isNumberChar hdigit

/-- Digits, a point, a sign and the letter of the exponent are all that a number shows. -/
theorem isNumberChar_of_mem_decimal (h : c ∈ layout.decimal d) : isNumberChar c = true := by
  rw [decimal] at h
  split at h
  · exact isNumberChar_of_mem_plain h
  · dsimp only at h
    split at h
    · exact isNumberChar_of_mem_plain h
    · exact isNumberChar_of_mem_scientific h

end Layout

namespace Json

theorem newline_not_mem_integerChars (n : Int) : '\n' ∉ integerChars n := by
  intro h
  rcases List.mem_append.mp h with hsign | hdigits
  · split at hsign
    · exact absurd hsign (by decide)
    · cases hsign
  · exact absurd ((isRow_toDigits n.natAbs).isNumberChar hdigits) (by decide)

theorem newline_not_mem_doubleChars (x : Binary64) : '\n' ∉ doubleChars x := by
  intro h
  cases x with
  | nan => exact absurd h (by decide)
  | infinite negative =>
    have hnull : doubleChars (.infinite negative) = ['n', 'u', 'l', 'l'] := by
      rw [doubleChars]
      exact nofun
    rw [hnull] at h
    exact absurd h (by decide)
  | finite negative m =>
    rcases List.mem_append.mp h with hsign | hdigits
    · cases negative
      · cases hsign
      · exact absurd hsign (by decide)
    · exact absurd (Layout.isNumberChar_of_mem_decimal hdigits) (by decide)

/-! ### Strings -/

theorem newline_ne_hexDigit {n : Nat} (h : n < 16) : '\n' ≠ hexDigit n := by
  revert n
  decide

/-- A line break is escaped, and no other character is escaped by one. -/
theorem newline_not_mem_escaped (c : Char) : '\n' ∉ escaped c := by
  by_cases hbreak : c = '\n'
  · rw [hbreak]
    decide
  · have hhigh : c.toNat < 0x20 → '\n' ≠ hexDigit (c.toNat / 16) := fun h =>
      newline_ne_hexDigit (by omega)
    have hlow : '\n' ≠ hexDigit (c.toNat % 16) := newline_ne_hexDigit (by omega)
    rw [escaped]
    split_ifs <;> simp_all [eq_comm]

theorem newline_not_mem_stringChars (s : String) : '\n' ∉ stringChars s := by
  simp [stringChars, newline_not_mem_escaped]

/-! ### Values -/

mutual

/-- The text of a value is a single line. -/
theorem newline_not_mem_chars (v : Json) : '\n' ∉ v.chars := by
  match v with
  | null => decide
  | bool true => decide
  | bool false => decide
  | integer n => exact newline_not_mem_integerChars n
  | double x => exact newline_not_mem_doubleChars x
  | string s => exact newline_not_mem_stringChars s
  | array [] => decide
  | array (v :: rest) =>
    simp [chars, newline_not_mem_chars v, newline_not_mem_itemsChars rest]
  | object [] => decide
  | object ((name, v) :: rest) =>
    simp [chars, newline_not_mem_stringChars, newline_not_mem_chars v,
      newline_not_mem_membersChars rest]

theorem newline_not_mem_itemsChars (items : List Json) : '\n' ∉ itemsChars items := by
  match items with
  | [] => decide
  | v :: rest => simp [itemsChars, newline_not_mem_chars v, newline_not_mem_itemsChars rest]

theorem newline_not_mem_membersChars (members : List (String × Json)) :
    '\n' ∉ membersChars members := by
  match members with
  | [] => decide
  | (name, v) :: rest =>
    simp [membersChars, newline_not_mem_stringChars, newline_not_mem_chars v,
      newline_not_mem_membersChars rest]

end

end Json

end MotionLink
