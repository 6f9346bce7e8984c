import Mathlib.Tactic.Ring
import MotionLink.Text.Utf8

/-!
# Reading text back from its octets

A reader of UTF-8 takes the octets of one character after the other. The octets of a text are read
as this text. Of octets that are no text little can be said, but a character of the ASCII range is
read only where its own octet stands, so no separator is ever made up.

## Main results

* `Utf8.decode_encode` — the octets of a text are read as the text
* `Utf8.mem_of_mem_decode` — an ASCII character that is read stands among the octets
* `Utf8.mem_of_mem_encode` — an ASCII octet that is written stands for its character
-/

namespace MotionLink.Utf8

/-- A reader between two characters. -/
def Reader.ready (replaced : Nat) (chars : Array Char) : Reader := ⟨none, replaced, chars⟩

theorem toNat_ofNat {n : Nat} (h : n < 256) : (UInt8.ofNat n).toNat = n := by
  simp [Nat.mod_eq_of_lt h]

/-! ### The first octet of a character -/

section Begin

variable (replaced : Nat) (chars : Array Char) {b : Nat}

theorem begin_ascii (h : b < 0x80) :
    (Reader.ready replaced chars).begin b = .ready replaced (chars.push (Char.ofNat b)) := by
  simp [Reader.begin, Reader.ready, h]

theorem begin_two (hlow : 0xC2 ≤ b) (hhigh : b ≤ 0xDF) :
    (Reader.ready replaced chars).begin b =
      ⟨some ⟨b - 0xC0, 0x80, 0xBF, 0⟩, replaced, chars⟩ := by
  rw [Reader.begin, if_neg (by omega), if_pos ⟨hlow, hhigh⟩]
  rfl

/-- The narrower ranges behind `E0` and `ED` exclude overlong forms and surrogates. -/
theorem begin_three (hlow : 0xE0 ≤ b) (hhigh : b ≤ 0xEF) :
    (Reader.ready replaced chars).begin b =
      ⟨some ⟨b - 0xE0, if b = 0xE0 then 0xA0 else 0x80, if b = 0xED then 0x9F else 0xBF, 1⟩,
        replaced, chars⟩ := by
  rw [Reader.begin, if_neg (by omega), if_neg (by omega)]
  by_cases hfirst : b = 0xE0
  · subst hfirst
    rfl
  by_cases hsurrogate : b = 0xED
  · subst hsurrogate
    rfl
  simp [Reader.ready, hfirst, hsurrogate, show 0xE1 ≤ b by omega, hhigh]

/-- The narrower ranges behind `F0` and `F4` exclude overlong forms and too great values. -/
theorem begin_four (hlow : 0xF0 ≤ b) (hhigh : b ≤ 0xF4) :
    (Reader.ready replaced chars).begin b =
      ⟨some ⟨b - 0xF0, if b = 0xF0 then 0x90 else 0x80, if b = 0xF4 then 0x8F else 0xBF, 2⟩,
        replaced, chars⟩ := by
  rw [Reader.begin, if_neg (by omega), if_neg (by omega), if_neg (by omega), if_neg (by omega),
    if_neg (by omega)]
  by_cases hfirst : b = 0xF0
  · subst hfirst
    rfl
  by_cases hlast : b = 0xF4
  · subst hlast
    rfl
  simp [Reader.ready, hfirst, hlast, show 0xF1 ≤ b ∧ b ≤ 0xF3 by omega]

/-- An octet that can begin no character is replaced. -/
theorem begin_other (h : (0x80 ≤ b ∧ b < 0xC2) ∨ 0xF4 < b) :
    (Reader.ready replaced chars).begin b = .ready (replaced + 1) (chars.push replacement) := by
  rw [Reader.begin, if_neg (by omega), if_neg (by omega), if_neg (by omega), if_neg (by omega),
    if_neg (by omega), if_neg (by omega), if_neg (by omega), if_neg (by omega)]
  rfl

theorem read_ready (hb : b < 256) :
    (Reader.ready replaced chars).read (UInt8.ofNat b) =
      (Reader.ready replaced chars).begin b := by
  simp only [Reader.read, Reader.ready, toNat_ofNat hb]

end Begin

/-! ### The other octets -/

section Tail

variable (replaced : Nat) (chars : Array Char) {value low high b : Nat}

theorem read_tail (owed : Nat) (hb : b < 256) (hlow : low ≤ b) (hhigh : b ≤ high) :
    (⟨some ⟨value, low, high, owed + 1⟩, replaced, chars⟩ : Reader).read (UInt8.ofNat b) =
      ⟨some ⟨value * 0x40 + (b - 0x80), 0x80, 0xBF, owed⟩, replaced, chars⟩ := by
  simp only [Reader.read, toNat_ofNat hb, hlow, hhigh, and_self, if_true]

theorem read_last (hb : b < 256) (hlow : low ≤ b) (hhigh : b ≤ high) :
    (⟨some ⟨value, low, high, 0⟩, replaced, chars⟩ : Reader).read (UInt8.ofNat b) =
      .ready replaced (chars.push (Char.ofNat (value * 0x40 + (b - 0x80)))) := by
  simp only [Reader.read, toNat_ofNat hb, hlow, hhigh, and_self, if_true, Reader.ready]

end Tail

/-! ### Whole characters -/

theorem valid_toNat (c : Char) : c.toNat < 0xD800 ∨ 0xDFFF < c.toNat ∧ c.toNat < 0x110000 :=
  c.valid

/-- The octets of a character are read as the character. -/
theorem foldl_read_encodeChar (c : Char) (replaced : Nat) (chars : Array Char) :
    (encodeChar c).foldl Reader.read (.ready replaced chars) =
      .ready replaced (chars.push c) := by
  have hvalid := valid_toNat c
  have hself : Char.ofNat c.toNat = c := Char.ofNat_toNat c
  simp only [encodeChar]
  split
  · rename_i hone
    rw [List.foldl_cons, List.foldl_nil, read_ready _ _ (by omega), begin_ascii _ _ hone, hself]
  split
  · rename_i hone htwo
    have hvalue : (0xC0 + c.toNat / 0x40 - 0xC0) * 0x40 + (0x80 + c.toNat % 0x40 - 0x80) =
        c.toNat := by omega
    rw [List.foldl_cons, List.foldl_cons, List.foldl_nil, read_ready _ _ (by omega),
      begin_two _ _ (by omega) (by omega), read_last _ _ (by omega) (by omega) (by omega),
      hvalue, hself]
  split
  · rename_i hone htwo hthree
    have hvalue :
        ((0xE0 + c.toNat / 0x1000 - 0xE0) * 0x40 + (0x80 + c.toNat / 0x40 % 0x40 - 0x80)) * 0x40 +
          (0x80 + c.toNat % 0x40 - 0x80) = c.toNat := by omega
    rw [List.foldl_cons, List.foldl_cons, List.foldl_cons, List.foldl_nil,
      read_ready _ _ (by omega), begin_three _ _ (by omega) (by omega),
      read_tail _ _ _ (by omega) (by split <;> omega) (by split <;> omega),
      read_last _ _ (by omega) (by omega) (by omega), hvalue, hself]
  · rename_i hone htwo hthree
    have hvalue :
        (((0xF0 + c.toNat / 0x40000 - 0xF0) * 0x40 + (0x80 + c.toNat / 0x1000 % 0x40 - 0x80)) *
          0x40 + (0x80 + c.toNat / 0x40 % 0x40 - 0x80)) * 0x40 +
          (0x80 + c.toNat % 0x40 - 0x80) = c.toNat := by omega
    rw [List.foldl_cons, List.foldl_cons, List.foldl_cons, List.foldl_cons, List.foldl_nil,
      read_ready _ _ (by omega), begin_four _ _ (by omega) (by omega),
      read_tail _ _ _ (by omega) (by split <;> omega) (by split <;> omega),
      read_tail _ _ _ (by omega) (by omega) (by omega),
      read_last _ _ (by omega) (by omega) (by omega), hvalue, hself]

theorem encode_append (s t : List Char) : encode (s ++ t) = encode s ++ encode t :=
  List.flatMap_append

theorem foldl_read_encode (s : List Char) (replaced : Nat) (chars : Array Char) :
    (encode s).foldl Reader.read (.ready replaced chars) = .ready replaced (chars ++ s) := by
  induction s generalizing chars with
  | nil => simp [encode]
  | cons c s ih =>
    have hcons : encode (c :: s) = encodeChar c ++ encode s := List.flatMap_cons ..
    rw [hcons, List.foldl_append, foldl_read_encodeChar, ih]
    simp

/-- The octets of a text are read as the text. -/
theorem decode_encode (s : List Char) : decode (encode s) = s := by
  have hread : (encode s).foldl Reader.read .start = .ready 0 (#[] ++ s) :=
    foldl_read_encode s 0 #[]
  rw [decode, Reader.ofBytes, hread]
  simp [Reader.finish, Reader.ready]

theorem text_octets (s : String) : text (octets s) = s := by
  rw [text, octets, decode_encode, String.ofList_toList]

/-! ### Octets of the ASCII range -/

theorem encodeChar_ascii {c : Char} (h : c.toNat < 0x80) :
    encodeChar c = [UInt8.ofNat c.toNat] := by
  simp [encodeChar, h]

/-- Of a character beyond the ASCII range all octets are beyond it. -/
theorem le_of_mem_encodeChar {c : Char} {octet : UInt8} (hlong : 0x80 ≤ c.toNat)
    (h : octet ∈ encodeChar c) : 0x80 ≤ octet.toNat := by
  have hvalid := valid_toNat c
  have hof {n : Nat} (hlow : 0x80 ≤ n) (hhigh : n < 256) : 0x80 ≤ (UInt8.ofNat n).toNat := by
    rwa [toNat_ofNat hhigh]
  simp only [encodeChar, Nat.not_lt.mpr hlong, if_false] at h
  split at h
  · simp only [List.mem_cons, List.not_mem_nil, or_false] at h
    rcases h with rfl | rfl <;> exact hof (by omega) (by omega)
  split at h
  · simp only [List.mem_cons, List.not_mem_nil, or_false] at h
    rcases h with rfl | rfl | rfl <;> exact hof (by omega) (by omega)
  · simp only [List.mem_cons, List.not_mem_nil, or_false] at h
    rcases h with rfl | rfl | rfl | rfl <;> exact hof (by omega) (by omega)

/-- An ASCII octet is written only for its own character. -/
theorem mem_of_mem_encode {s : List Char} {octet : UInt8} (h : octet ∈ encode s)
    (hascii : octet.toNat < 0x80) : Char.ofNat octet.toNat ∈ s := by
  obtain ⟨c, hc, hmem⟩ := List.mem_flatMap.mp h
  rcases Nat.lt_or_ge c.toNat 0x80 with hshort | hlong
  · rw [encodeChar_ascii hshort, List.mem_singleton] at hmem
    rwa [hmem, toNat_ofNat (by omega), Char.ofNat_toNat]
  · have := le_of_mem_encodeChar hlong hmem
    omega

theorem toNat_charOfNat {n : Nat} (h : n < 0x80) : (Char.ofNat n).toNat = n := by
  rw [Char.ofNat, dif_pos (Or.inl (by omega))]
  rfl

theorem le_toNat_charOfNat {n : Nat} (h : 0x80 ≤ n) (hne : Char.ofNat n ≠ '\x00') :
    0x80 ≤ (Char.ofNat n).toNat := by
  by_cases hvalid : n.isValidChar
  · rw [Char.ofNat, dif_pos hvalid]
    exact h
  · rw [Char.ofNat, dif_neg hvalid] at hne
    exact absurd rfl hne

/-- A character begun that will be beyond the ASCII range, however it goes on: the least value that
it can still get is beyond it. -/
def Pending.IsLong (p : Pending) : Prop :=
  0x80 ≤ p.low ∧ 0x80 ≤ (p.value * 0x40 + (p.low - 0x80)) * 0x40 ^ p.owed

/-- What a reader holds after some octets: an ASCII character only if its octet is among them, and
a character begun only if it will be no ASCII character. -/
structure Reader.Holds (r : Reader) (bytes : Bytes) : Prop where
  mem : ∀ c ∈ r.chars, c ≠ '\x00' → c.toNat < 0x80 → UInt8.ofNat c.toNat ∈ bytes
  isLong : ∀ p, r.pending = some p → p.IsLong

namespace Reader.Holds

variable {r : Reader} {bytes : Bytes}

theorem push (h : r.Holds bytes) {c : Char} (octet : UInt8)
    (hc : c ≠ '\x00' → c.toNat < 0x80 → UInt8.ofNat c.toNat = octet) (replaced : Nat) :
    (Reader.ready replaced (r.chars.push c)).Holds (bytes ++ [octet]) where
  mem d hd hne hascii := by
    rcases Array.mem_push.mp hd with hd | rfl
    · exact List.mem_append_left _ (h.mem d hd hne hascii)
    · simp [hc hne hascii]
  isLong p hp := by cases hp

theorem await (h : r.Holds bytes) {p : Pending} (octet : UInt8) (hp : p.IsLong) (replaced : Nat) :
    (⟨some p, replaced, r.chars⟩ : Reader).Holds (bytes ++ [octet]) where
  mem d hd hne hascii := List.mem_append_left _ (h.mem d hd hne hascii)
  isLong q hq := by
    obtain rfl := Option.some_inj.mp hq
    exact hp

theorem replace (h : r.Holds bytes) : r.replace.Holds bytes where
  mem d hd hne hascii := by
    rcases Array.mem_push.mp hd with hd | rfl
    · exact h.mem d hd hne hascii
    · exact absurd hascii (by decide)
  isLong p hp := by cases hp

theorem begin (h : r.Holds bytes) (hready : r.pending = none) (octet : UInt8) :
    (r.begin octet.toNat).Holds (bytes ++ [octet]) := by
  have hr : r = .ready r.replaced r.chars := by
    rw [Reader.ready, ← hready]
  have hlt : octet.toNat < 256 := octet.toNat_lt
  generalize hb : octet.toNat = b at hlt ⊢
  rw [hr]
  by_cases hascii : b < 0x80
  · rw [begin_ascii _ _ hascii]
    refine h.push octet (fun _ _ => ?_) _
    rw [toNat_charOfNat hascii, ← hb, UInt8.ofNat_toNat]
  by_cases htwo : 0xC2 ≤ b ∧ b ≤ 0xDF
  · rw [begin_two _ _ htwo.1 htwo.2]
    exact h.await octet ⟨le_refl 0x80, by dsimp only; omega⟩ _
  by_cases hthree : 0xE0 ≤ b ∧ b ≤ 0xEF
  · rw [begin_three _ _ hthree.1 hthree.2]
    exact h.await octet ⟨by dsimp only; split <;> omega, by dsimp only; split <;> omega⟩ _
  by_cases hfour : 0xF0 ≤ b ∧ b ≤ 0xF4
  · rw [begin_four _ _ hfour.1 hfour.2]
    exact h.await octet ⟨by dsimp only; split <;> omega, by dsimp only; split <;> omega⟩ _
  · rw [begin_other _ _ (by omega)]
    exact h.push octet (fun _ hc => absurd hc (by decide)) _

/-- Reading one octet keeps to the octets read. -/
theorem read (h : r.Holds bytes) (octet : UInt8) : (r.read octet).Holds (bytes ++ [octet]) := by
  cases hp : r.pending with
  | none =>
    simp only [Reader.read, hp]
    exact h.begin hp octet
  | some p =>
    obtain ⟨value, low, high, owed⟩ := p
    obtain ⟨hlow, hlong⟩ := h.isLong _ hp
    dsimp only at hlow hlong
    simp only [Reader.read, hp]
    split
    · rename_i hrange
      have hvalue : value * 0x40 + (low - 0x80) ≤ value * 0x40 + (octet.toNat - 0x80) := by omega
      split
      · refine h.push octet (fun hne hascii => ?_) _
        exact absurd (le_toNat_charOfNat (le_trans hlong (by simpa using hvalue)) hne)
          (by omega)
      · rename_i owed
        refine h.await octet ⟨le_refl 0x80, ?_⟩ _
        calc 0x80 ≤ (value * 0x40 + (low - 0x80)) * 0x40 ^ (owed + 1) := hlong
          _ ≤ (value * 0x40 + (octet.toNat - 0x80)) * 0x40 ^ (owed + 1) :=
            Nat.mul_le_mul_right _ hvalue
          _ = ((value * 0x40 + (octet.toNat - 0x80)) * 0x40 + (0x80 - 0x80)) * 0x40 ^ owed := by
            rw [Nat.pow_succ', ← Nat.mul_assoc, Nat.sub_self, Nat.add_zero]
    · exact h.replace.begin rfl octet

theorem foldl_read (h : r.Holds bytes) (more : Bytes) :
    (more.foldl Reader.read r).Holds (bytes ++ more) := by
  induction more generalizing r bytes with
  | nil => simpa using h
  | cons octet more ih => simpa using ih (h.read octet)

theorem finish (h : r.Holds bytes) : r.finish.Holds bytes := by
  rw [Reader.finish]
  split
  · exact h
  · exact h.replace

end Reader.Holds

theorem Reader.start_holds : Reader.start.Holds [] where
  mem c hc := by simp [Reader.start] at hc
  isLong p hp := by cases hp

/-- An ASCII character other than the null character is read only where its octet stands. -/
theorem mem_of_mem_decode {bytes : Bytes} {c : Char} (h : c ∈ decode bytes) (hne : c ≠ '\x00')
    (hascii : c.toNat < 0x80) : UInt8.ofNat c.toNat ∈ bytes := by
  have hholds := (Reader.start_holds.foldl_read bytes).finish
  exact hholds.mem c (Array.mem_toList_iff.mp h) hne hascii

end MotionLink.Utf8
