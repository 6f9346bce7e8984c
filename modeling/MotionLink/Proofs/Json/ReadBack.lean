import MotionLink.Json.Reader
import MotionLink.Proofs.Number.ReadBack

/-!
# JSON reads back

The compact text of a value is read as that value, whatever stands behind it that does not carry a
number on. Doubles are left out: they are read in stages, and the last bit may change.

## Main definitions

* `Json.Ends` — text that does not carry a number on
* `Json.Readable` — values that read back, given how deep containers may be nested
* `Json.ReadsBack` — a value is read from its text, and the text behind it is left

## Main results

* `Json.readString_flatMap_escaped` — a string is read from its escapes
* `Json.Readable.readsBack` — a value reads back at any depth that has room for it
* `Json.readFirst_chars` — so does the first value of a text
-/

namespace MotionLink.Json

/-! ### Strings -/

theorem hexUnit?_control {n : Nat} (h : n < 0x20) :
    hexUnit? '0' '0' (hexDigit (n / 16)) (hexDigit (n % 16)) = some n := by
  revert n
  decide

theorem eq_ofNat {c : Char} {n : Nat} (h : c.toNat = n) : c = Char.ofNat n := by
  rw [← h, Char.ofNat_toNat]

/-- A letter behind a backslash is read as what it stands for. -/
theorem readString_unescape {c : Char} (done : List Char) (letter : Char) (rest : List Char)
    (hletter : letter ≠ 'u') (h : unescape? letter = some c) :
    readString done ('\\' :: letter :: rest) = readString (c :: done) rest := by
  simp [readString, hletter, h]

/-- A character is read from the way in which it is written. -/
theorem readString_escaped (done : List Char) (c : Char) (rest : List Char) :
    readString done (escaped c ++ rest) = readString (c :: done) rest := by
  rw [escaped]
  split_ifs with hquote hbackslash hback htab hline hform hreturn hcontrol
  · rw [hquote]
    exact readString_unescape done '"' rest (by decide) rfl
  · rw [hbackslash]
    exact readString_unescape done '\\' rest (by decide) rfl
  · rw [eq_ofNat hback]
    exact readString_unescape done 'b' rest (by decide) rfl
  · rw [eq_ofNat htab]
    exact readString_unescape done 't' rest (by decide) rfl
  · rw [eq_ofNat hline]
    exact readString_unescape done 'n' rest (by decide) rfl
  · rw [eq_ofNat hform]
    exact readString_unescape done 'f' rest (by decide) rfl
  · rw [eq_ofNat hreturn]
    exact readString_unescape done 'r' rest (by decide) rfl
  · have hpair : ¬(0xD800 ≤ c.toNat ∧ c.toNat ≤ 0xDBFF) := by omega
    have hhalf : ¬(0xDC00 ≤ c.toNat ∧ c.toNat ≤ 0xDFFF) := by omega
    simp [readString, hexUnit?_control hcontrol, hpair, hhalf]
  · simp [readString, hbackslash, hcontrol]

theorem readString_flatMap_escaped (s done rest : List Char) :
    readString done (s.flatMap escaped ++ '"' :: rest) =
      some (String.ofList (done.reverse ++ s), rest) := by
  induction s generalizing done with
  | nil => simp [readString]
  | cons c s ih =>
    rw [List.flatMap_cons, List.append_assoc, readString_escaped, ih, List.reverse_cons,
      List.append_assoc]
    rfl

theorem stringChars_append (s : String) (rest : List Char) :
    stringChars s ++ rest = '"' :: (s.toList.flatMap escaped ++ '"' :: rest) := by
  simp [stringChars]

/-! ### Whole numbers -/

/-- The text does not carry a number on. -/
def Ends (rest : List Char) : Prop :=
  ∀ c ∈ rest.head?, c.isDigit = false ∧ c ∉ ['.', 'e', 'E']

theorem digitChar_ne_zero {n : Nat} (hsmall : n < 10) (hne : n ≠ 0) : n.digitChar ≠ '0' := by
  revert n
  decide

/-- Only zero begins with a zero. -/
theorem head?_toDigits_ne_zero {n : Nat} (h : n ≠ 0) : (Nat.toDigits 10 n).head? ≠ some '0' := by
  induction n using Nat.strong_induction_on with
  | h n ih =>
    by_cases hsmall : n < 10
    · rw [Nat.toDigits_of_lt_base hsmall]
      simpa using digitChar_ne_zero hsmall h
    · have hne : n / 10 ≠ 0 := by omega
      rw [Nat.toDigits_of_base_le (by decide) (Nat.not_lt.mp hsmall),
        List.head?_append_of_ne_nil]
      · exact ih (n / 10) (by omega) hne
      · exact Nat.toDigits_ne_nil

namespace NumberText

variable {digits rest : List Char}

theorem takeWhile_of_ends (hrest : Ends rest) : rest.takeWhile Char.isDigit = [] := by
  cases rest with
  | nil => rfl
  | cons c rest => simp [(hrest c rfl).1]

theorem dropWhile_of_ends (hrest : Ends rest) : rest.dropWhile Char.isDigit = rest := by
  cases rest with
  | nil => rfl
  | cons c rest => simp [(hrest c rfl).1]

theorem scanDigits_append (h : IsRow digits) (hne : digits ≠ []) (hrest : Ends rest) :
    scanDigits (digits ++ rest) = some (digits, rest) := by
  rw [scanDigits, List.takeWhile_append_of_pos h, List.dropWhile_append_of_pos h,
    takeWhile_of_ends hrest, dropWhile_of_ends hrest, List.append_nil]
  simp [hne]

theorem scanWhole_toDigits (n : Nat) (hrest : Ends rest) :
    scanWhole (Nat.toDigits 10 n ++ rest) = some (Nat.toDigits 10 n, rest) := by
  rw [scanWhole, scanDigits_append (isRow_toDigits n) Nat.toDigits_ne_nil hrest]
  have hzero : Nat.toDigits 10 n = ['0'] ∨ (Nat.toDigits 10 n).head? ≠ some '0' := by
    by_cases h : n = 0
    · rw [h]
      exact .inl rfl
    · exact .inr (head?_toDigits_ne_zero h)
  exact Option.filter_eq_some_iff.mpr ⟨rfl, decide_eq_true hzero⟩

theorem scanFraction_of_ends (hrest : Ends rest) : scanFraction rest = some (none, rest) := by
  cases rest with
  | nil => rfl
  | cons c rest =>
    have hpoint : c ≠ '.' := fun h => (hrest c rfl).2 (by simp [h])
    simp [scanFraction, hpoint]

theorem scanExponent_of_ends (hrest : Ends rest) : scanExponent rest = some (none, rest) := by
  cases rest with
  | nil => rfl
  | cons c rest =>
    have hletter : ¬(c = 'e' ∨ c = 'E') := fun h => (hrest c rfl).2 (by simpa using .inr h)
    unfold scanExponent
    exact if_neg hletter

/-- Digits that stand for a number of 64 bits are all collected. -/
theorem collectWhole_eq (h : rowValue digits < wordLimit) :
    collectWhole digits = (rowValue digits, 0) := by
  induction digits using List.reverseRecOn with
  | nil => rfl
  | append_singleton digits c ih =>
    have hnext : rowValue (digits ++ [c]) = 10 * rowValue digits + digitValue c := by
      rw [rowValue, List.foldl_append]
      rfl
    have hbefore : rowValue digits < wordLimit := by omega
    rw [collectWhole] at ih ⊢
    rw [List.foldl_append, ih hbefore]
    simp [← hnext, h]

theorem exists_toDigits_eq_cons (n : Nat) :
    ∃ c more, Nat.toDigits 10 n = c :: more ∧ c.isDigit = true := by
  obtain ⟨c, more, hdigits⟩ := List.exists_cons_of_ne_nil (@Nat.toDigits_ne_nil n 10)
  exact ⟨c, more, hdigits, isRow_toDigits n c (hdigits ▸ List.mem_cons_self)⟩

theorem scan_toDigits (n : Nat) (hrest : Ends rest) :
    scan (Nat.toDigits 10 n ++ rest) = some (⟨false, Nat.toDigits 10 n, none, none⟩, rest) := by
  have hplus : ((Nat.toDigits 10 n ++ rest).head? == some '-') = false := by
    obtain ⟨c, more, hdigits, hdigit⟩ := exists_toDigits_eq_cons n
    have hminus : c ≠ '-' := fun h => absurd hdigit (by rw [h]; decide)
    simpa [hdigits] using hminus
  unfold scan
  simp only [hplus, Bool.false_eq_true, if_false, scanWhole_toDigits n hrest]
  simp [scanFraction_of_ends hrest, scanExponent_of_ends hrest]

theorem scan_minus_toDigits (n : Nat) (hrest : Ends rest) :
    scan ('-' :: Nat.toDigits 10 n ++ rest) =
      some (⟨true, Nat.toDigits 10 n, none, none⟩, rest) := by
  simp [scan, scanWhole_toDigits n hrest, scanFraction_of_ends hrest, scanExponent_of_ends hrest]

/-- The parts of a whole number that fits a word give the number. -/
theorem value?_toDigits {n : Nat} (h : n < wordLimit) :
    value? ⟨false, Nat.toDigits 10 n, none, none⟩ = some (.integer n) := by
  have hcollect : collectWhole (Nat.toDigits 10 n) = (n, 0) := by
    rw [collectWhole_eq, rowValue_toDigits]
    rwa [rowValue_toDigits]
  simp [value?, hcollect]

theorem value?_minus_toDigits {n : Nat} (hpos : 0 < n) (h : n ≤ negativeLimit) :
    value? ⟨true, Nat.toDigits 10 n, none, none⟩ = some (.integer (-n)) := by
  have hword : n < wordLimit := Nat.lt_of_le_of_lt h (by decide)
  have hcollect : collectWhole (Nat.toDigits 10 n) = (n, 0) := by
    rw [collectWhole_eq, rowValue_toDigits]
    rwa [rowValue_toDigits]
  simp [value?, hcollect, hpos, h]

end NumberText

/-! ### Values without values inside -/

/-- Values that read back, given how deep containers may be nested. -/
inductive Readable : Nat → Json → Prop where
  | null (depth : Nat) : Readable depth .null
  | bool (depth : Nat) (value : Bool) : Readable depth (.bool value)
  | integer (depth : Nat) {n : Int} (hleast : -NumberText.negativeLimit ≤ n)
      (hword : n < NumberText.wordLimit) : Readable depth (.integer n)
  | string (depth : Nat) (value : String) : Readable depth (.string value)
  | array {depth : Nat} {items : List Json} (hitems : ∀ v ∈ items, Readable depth v) :
      Readable (depth + 1) (.array items)
  | object {depth : Nat} {members : List (String × Json)} (hnames : (members.map Prod.fst).Nodup)
      (hmembers : ∀ m ∈ members, Readable depth m.2) : Readable (depth + 1) (.object members)

/-- A character that a value begins with. -/
def isStart (c : Char) : Bool := c.isDigit || ['-', '"', '[', '\x7b', 'n', 't', 'f'].contains c

theorem exists_integerChars_eq_cons (n : Int) :
    ∃ c more, integerChars n = c :: more ∧ (c = '-' ∨ c.isDigit = true) := by
  rw [integerChars]
  split_ifs
  · exact ⟨'-', _, rfl, .inl rfl⟩
  · obtain ⟨c, more, hdigits, hdigit⟩ := NumberText.exists_toDigits_eq_cons n.natAbs
    exact ⟨c, more, hdigits, .inr hdigit⟩

theorem isStart_of_number {c : Char} (h : c = '-' ∨ c.isDigit = true) : isStart c = true := by
  rcases h with rfl | hdigit
  · rfl
  · simp [isStart, hdigit]

theorem skipBlanks_cons {c : Char} (h : isStart c = true) (s : List Char) :
    skipBlanks (c :: s) = c :: s := by
  refine List.dropWhile_cons_of_neg ?_
  simp only [Bool.or_eq_true, decide_eq_true_eq]
  rintro (((rfl | rfl) | rfl) | rfl) <;> exact absurd h (by decide)

/-- A value begins with such a character, so that neither a blank nor a closing bracket stands
before it. -/
theorem Readable.exists_chars_eq_cons {depth : Nat} {v : Json} (h : Readable depth v) :
    ∃ c more, v.chars = c :: more ∧ isStart c = true := by
  cases h with
  | null => exact ⟨'n', _, rfl, rfl⟩
  | bool depth value =>
    cases value
    · exact ⟨'f', _, rfl, rfl⟩
    · exact ⟨'t', _, rfl, rfl⟩
  | @integer _ n =>
    obtain ⟨c, more, hchars, hstart⟩ := exists_integerChars_eq_cons n
    exact ⟨c, more, hchars, isStart_of_number hstart⟩
  | string => exact ⟨'"', _, rfl, rfl⟩
  | @array _ items =>
    cases items
    · exact ⟨'[', _, rfl, rfl⟩
    · exact ⟨'[', _, rfl, rfl⟩
  | @object _ members =>
    cases members
    · exact ⟨'\x7b', _, rfl, rfl⟩
    · exact ⟨'\x7b', _, rfl, rfl⟩

theorem readScalar_of_number {c : Char} (h : c = '-' ∨ c.isDigit = true) (s : List Char) :
    readScalar (c :: s) = (do
      let (t, rest) ← NumberText.scan (c :: s)
      let v ← t.value?
      pure (v, rest)) := by
  have hletter : c ≠ 'n' ∧ c ≠ 't' ∧ c ≠ 'f' := by
    refine ⟨?_, ?_, ?_⟩ <;> rintro rfl <;> exact absurd h (by decide)
  obtain ⟨hn, ht, hf⟩ := hletter
  unfold readScalar
  split <;> simp_all

theorem readScalar_integerChars {n : Int} (hleast : -NumberText.negativeLimit ≤ n)
    (hword : n < NumberText.wordLimit) {rest : List Char} (hrest : Ends rest) :
    readScalar (integerChars n ++ rest) = some (.integer n, rest) := by
  obtain ⟨c, more, hchars, hstart⟩ := exists_integerChars_eq_cons n
  have hscan : readScalar (integerChars n ++ rest) = (do
      let (t, rest) ← NumberText.scan (integerChars n ++ rest)
      let v ← t.value?
      pure (v, rest)) := by
    rw [hchars, List.cons_append]
    exact readScalar_of_number hstart _
  rw [hscan, integerChars]
  split_ifs with hneg
  · rw [List.cons_append, List.nil_append, NumberText.scan_minus_toDigits _ hrest]
    have hvalue := NumberText.value?_minus_toDigits (n := n.natAbs) (by omega) (by omega)
    have hn : -(n.natAbs : Int) = n := by omega
    simp only [bind, Option.bind_some, hvalue, hn]
    rfl
  · rw [List.nil_append, NumberText.scan_toDigits _ hrest]
    have hvalue := NumberText.value?_toDigits (n := n.natAbs) (by omega)
    have hn : (n.natAbs : Int) = n := by omega
    simp only [bind, Option.bind_some, hvalue, hn]
    rfl

/-- What is no string and no container is read as a scalar. -/
theorem readValue_of_scalar {c : Char} (hstart : isStart c = true)
    (hplain : c ∉ ['"', '[', '\x7b']) (fuel depth : Nat) (s : List Char) :
    readValue (fuel + 1) depth (c :: s) = readScalar (c :: s) := by
  unfold readValue
  rw [skipBlanks_cons hstart]
  simp only [List.mem_cons, List.not_mem_nil, or_false, not_or] at hplain
  obtain ⟨hquote, hbracket, hbrace⟩ := hplain
  split <;> simp_all

theorem readValue_integerChars {n : Int} (hleast : -NumberText.negativeLimit ≤ n)
    (hword : n < NumberText.wordLimit) (fuel depth : Nat) {rest : List Char} (hrest : Ends rest) :
    readValue (fuel + 1) depth (integerChars n ++ rest) = some (.integer n, rest) := by
  obtain ⟨c, more, hchars, hstart⟩ := exists_integerChars_eq_cons n
  have hplain : c ∉ ['"', '[', '\x7b'] := by
    intro h
    simp only [List.mem_cons, List.not_mem_nil, or_false] at h
    rcases h with rfl | rfl | rfl <;> exact absurd hstart (by decide)
  have hread := readScalar_integerChars hleast hword hrest
  rw [hchars, List.cons_append] at hread ⊢
  rw [readValue_of_scalar (isStart_of_number hstart) hplain, hread]

theorem readValue_stringChars (fuel depth : Nat) (s : String) (rest : List Char) :
    readValue (fuel + 1) depth (stringChars s ++ rest) = some (.string s, rest) := by
  rw [stringChars_append]
  unfold readValue
  rw [skipBlanks_cons rfl]
  simp [readString_flatMap_escaped]

/-! ### Containers -/

/-- A value reads back, and the text behind it is left. Two steps are enough for each character. -/
def ReadsBack (depth : Nat) (v : Json) : Prop :=
  ∀ (fuel : Nat) (rest : List Char), Ends rest → 2 * v.chars.length + 1 ≤ fuel →
    readValue fuel depth (v.chars ++ rest) = some (v, rest)

theorem ends_punctuation {c : Char} (h : c ∈ [',', ']', '\x7d']) (rest : List Char) :
    Ends (c :: rest) := by
  rintro _ ⟨⟩
  simp only [List.mem_cons, List.not_mem_nil, or_false] at h
  rcases h with rfl | rfl | rfl <;> decide

theorem skipBlanks_punctuation {c : Char} (h : c ∈ [',', ':', ']', '\x7d']) (rest : List Char) :
    skipBlanks (c :: rest) = c :: rest := by
  simp only [List.mem_cons, List.not_mem_nil, or_false] at h
  rcases h with rfl | rfl | rfl | rfl <;> rfl

theorem ends_itemsChars (items : List Json) (rest : List Char) :
    Ends (itemsChars items ++ rest) := by
  cases items with
  | nil => exact ends_punctuation (by decide) rest
  | cons v items => exact ends_punctuation (by decide) _

theorem ends_membersChars (members : List (String × Json)) (rest : List Char) :
    Ends (membersChars members ++ rest) := by
  cases members with
  | nil => exact ends_punctuation (by decide) rest
  | cons m members => exact ends_punctuation (by decide) _

theorem itemsChars_cons_append (v : Json) (items : List Json) (rest : List Char) :
    itemsChars (v :: items) ++ rest = ',' :: (v.chars ++ (itemsChars items ++ rest)) := by
  simp [itemsChars]

theorem length_itemsChars_cons (v : Json) (items : List Json) :
    (itemsChars (v :: items)).length = v.chars.length + (itemsChars items).length + 1 := by
  simp [itemsChars]

theorem length_itemsChars_pos (items : List Json) : 0 < (itemsChars items).length := by
  cases items <;> simp [itemsChars]

/-- The items of an array read back when each one does. -/
theorem readItems_itemsChars {depth fuel : Nat} {v : Json} {items : List Json}
    (h : ∀ w ∈ v :: items, ReadsBack depth w) (rest : List Char)
    (hfuel : 2 * (v.chars.length + (itemsChars items).length) ≤ fuel) :
    readItems fuel depth (v.chars ++ (itemsChars items ++ rest)) = some (v :: items, rest) := by
  have hpos := length_itemsChars_pos items
  cases fuel with
  | zero => omega
  | succ fuel =>
    have hvalue := h v List.mem_cons_self fuel _ (ends_itemsChars items rest) (by omega)
    rw [readItems, hvalue]
    cases items with
    | nil => rfl
    | cons w items =>
      have hlength := length_itemsChars_cons w items
      have hmore : readItems fuel depth (w.chars ++ (itemsChars items ++ rest)) =
          some (w :: items, rest) :=
        readItems_itemsChars (List.forall_mem_cons.mp h).2 rest (by omega)
      rw [itemsChars_cons_append]
      simp [skipBlanks_punctuation, hmore]

theorem upsert_of_not_mem {name : String} {members : List (String × Json)}
    (h : name ∉ members.map Prod.fst) (v : Json) :
    upsert name v members = members ++ [(name, v)] := by
  induction members with
  | nil => rfl
  | cons m members ih =>
    obtain ⟨hfirst, hmore⟩ := List.ne_and_not_mem_of_not_mem_cons h
    rw [upsert, if_neg (Ne.symm hfirst), ih hmore]
    rfl

/-- A member: its name, a colon and its value. -/
def memberChars (m : String × Json) : List Char := stringChars m.1 ++ ':' :: m.2.chars

theorem membersChars_cons_append (m : String × Json) (members : List (String × Json))
    (rest : List Char) :
    membersChars (m :: members) ++ rest =
      ',' :: (memberChars m ++ (membersChars members ++ rest)) := by
  simp [membersChars, memberChars]

theorem length_membersChars_cons (m : String × Json) (members : List (String × Json)) :
    (membersChars (m :: members)).length =
      (memberChars m).length + (membersChars members).length + 1 := by
  simp [membersChars, memberChars]
  omega

theorem length_membersChars_pos (members : List (String × Json)) :
    0 < (membersChars members).length := by
  cases members <;> simp [membersChars]

theorem length_memberChars (m : String × Json) :
    (memberChars m).length = (stringChars m.1).length + m.2.chars.length + 1 := by
  simp [memberChars]
  omega

/-- The members of an object read back when each value does and no name comes twice. -/
theorem readMembers_membersChars {depth fuel : Nat} {done : List (String × Json)}
    {m : String × Json} {members : List (String × Json)}
    (hnames : ((done ++ m :: members).map Prod.fst).Nodup)
    (h : ∀ n ∈ m :: members, ReadsBack depth n.2) (rest : List Char)
    (hfuel : 2 * ((memberChars m).length + (membersChars members).length) ≤ fuel) :
    readMembers fuel depth done (memberChars m ++ (membersChars members ++ rest)) =
      some (done ++ m :: members, rest) := by
  have hlength := length_memberChars m
  have hpos := length_membersChars_pos members
  have hnew : m.1 ∉ done.map Prod.fst := by
    rw [List.map_append, List.nodup_append] at hnames
    exact fun hmem => hnames.2.2 m.1 hmem m.1 List.mem_cons_self rfl
  cases fuel with
  | zero => omega
  | succ fuel =>
    have hvalue := h m List.mem_cons_self fuel _ (ends_membersChars members rest) (by omega)
    have hcolon := skipBlanks_punctuation (c := ':') (by decide)
    -- The member is read, and added behind those already read.
    rw [memberChars, List.append_assoc, stringChars_append, readMembers, skipBlanks_cons rfl]
    simp only [readString_flatMap_escaped, List.cons_append, List.reverse_nil, List.nil_append,
      hcolon, hvalue, String.ofList_toList, upsert_of_not_mem hnew]
    cases members with
    | nil => rfl
    | cons next members =>
      have hmembers := length_membersChars_cons next members
      have hmore : readMembers fuel depth (done ++ [m])
          (memberChars next ++ (membersChars members ++ rest)) =
            some (done ++ [m] ++ next :: members, rest) :=
        readMembers_membersChars (by simpa using hnames) (List.forall_mem_cons.mp h).2 rest
          (by omega)
      rw [membersChars_cons_append, skipBlanks_punctuation (by decide)]
      simpa using hmore

/-! ### Values -/

theorem readValue_array {depth fuel : Nat} {items : List Json}
    (h : ∀ v ∈ items, Readable depth v) (hitems : ∀ v ∈ items, ReadsBack depth v)
    (rest : List Char) (hfuel : 2 * (array items).chars.length ≤ fuel) :
    readValue (fuel + 1) (depth + 1) ((array items).chars ++ rest) = some (array items, rest) := by
  cases items with
  | nil => rfl
  | cons v items =>
    have hlength : (array (v :: items)).chars.length =
        v.chars.length + (itemsChars items).length + 1 := by simp [chars]
    have htext : (array (v :: items)).chars ++ rest =
        '[' :: (v.chars ++ (itemsChars items ++ rest)) := by simp [chars]
    have hread : readItems fuel depth (v.chars ++ (itemsChars items ++ rest)) =
        some (v :: items, rest) := readItems_itemsChars hitems rest (by omega)
    -- No bracket follows at once, so the array is not taken for an empty one.
    obtain ⟨c, more, hchars, hstart⟩ := (h v List.mem_cons_self).exists_chars_eq_cons
    have hskip : skipBlanks (v.chars ++ (itemsChars items ++ rest)) =
        c :: (more ++ (itemsChars items ++ rest)) := by
      rw [hchars, List.cons_append, skipBlanks_cons hstart]
    have hclosing : c ≠ ']' := fun hc => absurd hstart (by rw [hc]; decide)
    rw [htext]
    unfold readValue
    rw [skipBlanks_cons rfl]
    simp [hskip, hclosing, hread]

theorem readValue_object {depth fuel : Nat} {members : List (String × Json)}
    (hnames : (members.map Prod.fst).Nodup) (hmembers : ∀ m ∈ members, ReadsBack depth m.2)
    (rest : List Char) (hfuel : 2 * (object members).chars.length ≤ fuel) :
    readValue (fuel + 1) (depth + 1) ((object members).chars ++ rest) =
      some (object members, rest) := by
  cases members with
  | nil => rfl
  | cons m members =>
    have hlength : (object (m :: members)).chars.length =
        (memberChars m).length + (membersChars members).length + 1 := by
      simp [chars, memberChars]
      omega
    have htext : (object (m :: members)).chars ++ rest =
        '\x7b' :: (memberChars m ++ (membersChars members ++ rest)) := by
      simp [chars, memberChars]
    have hread : readMembers fuel depth [] (memberChars m ++ (membersChars members ++ rest)) =
        some (m :: members, rest) := readMembers_membersChars hnames hmembers rest (by omega)
    have hskip : skipBlanks (memberChars m ++ (membersChars members ++ rest)) =
        memberChars m ++ (membersChars members ++ rest) := skipBlanks_cons rfl _
    have hquote : memberChars m ++ (membersChars members ++ rest) =
        '"' :: (memberChars m ++ (membersChars members ++ rest)).tail := rfl
    rw [htext]
    unfold readValue
    rw [skipBlanks_cons rfl]
    simp only [hskip, hread]
    rw [hquote]
    rfl

/-- A value reads back, and the text behind it is left. -/
theorem Readable.readsBack {depth : Nat} {v : Json} (h : Readable depth v) :
    ReadsBack depth v := by
  induction h with
  | null depth =>
    rintro (_ | fuel) rest - hfuel
    · cases hfuel
    · exact readValue_of_scalar rfl (by decide) fuel depth _
  | bool depth value =>
    rintro (_ | fuel) rest - hfuel
    · cases hfuel
    · cases value
      · exact readValue_of_scalar rfl (by decide) fuel depth _
      · exact readValue_of_scalar rfl (by decide) fuel depth _
  | integer depth hleast hword =>
    rintro (_ | fuel) rest hrest hfuel
    · cases hfuel
    · exact readValue_integerChars hleast hword fuel depth hrest
  | string depth value =>
    rintro (_ | fuel) rest - hfuel
    · cases hfuel
    · exact readValue_stringChars fuel depth value rest
  | array hitems ih =>
    rintro (_ | fuel) rest - hfuel
    · cases hfuel
    · exact readValue_array hitems ih rest (by omega)
  | object hnames hmembers ih =>
    rintro (_ | fuel) rest - hfuel
    · cases hfuel
    · exact readValue_object hnames ih rest (by omega)

/-- A value reads back from its text, whatever stands behind it. -/
theorem readFirst_chars {v : Json} (h : Readable maxDepth v) {rest : List Char}
    (hrest : Ends rest) : readFirst (v.chars ++ rest) = some (v, rest) := by
  refine h.readsBack _ rest hrest ?_
  rw [List.length_append]
  omega

end MotionLink.Json
