import MotionLink.Log.Payload
import MotionLink.Proofs.Json.LongerTexts
import MotionLink.Proofs.Text.Search

/-!
# Text behind a payload

A payload begins at the first opening brace behind the first place of the phrase, and it is over
when its object is. So nothing that is appended to a line that shows a command can move the
payload or carry it on, be it another phrase, another object or a stray brace.

## Main definitions

* `Payload.Shows` — the header that a line has, and the members of the object behind it

## Main results

* `Payload.ofLine_eq_ok_iff` — a line shows a command exactly if it has a header and an object
* `Payload.ofLine_append_eq_ok` — a longer line shows the same command
-/

namespace MotionLink

deriving instance DecidableEq for Payload

namespace Payload

variable {line header : List Char} {members : List (String × Json)} {p : Payload}

/-- A line has a header, and behind it an object with these members. -/
def Shows (line header : List Char) (members : List (String × Json)) : Prop :=
  ∃ payload rest, split? line = some (header, '\x7b' :: payload) ∧
    Json.readFirst ('\x7b' :: payload) = some (.object members, rest)

/-- The payload begins with its opening brace. -/
theorem exists_eq_cons_of_split {payload : List Char} (h : split? line = some (header, payload)) :
    ∃ behind, payload = '\x7b' :: behind := by
  simp only [split?, bind, Option.bind_eq_some_iff, pure, Option.some.injEq, Prod.mk.injEq] at h
  obtain ⟨_, -, ⟨between, behind⟩, -, -, rfl⟩ := h
  exact ⟨behind, rfl⟩

/-- A line shows a command exactly if it has a header and an object behind it. -/
theorem ofLine_eq_ok_iff :
    ofLine line = .ok p ↔
      ∃ members, Shows line p.header members ∧ p.fields = Field.ofMembers 0 members := by
  constructor
  · intro h
    rw [ofLine] at h
    split at h
    · cases h
    rename_i header payload hsplit
    obtain ⟨behind, rfl⟩ := exists_eq_cons_of_split hsplit
    split at h
    · cases h
    rename_i value rest hread
    obtain ⟨members, rfl⟩ := Json.exists_eq_object_of_readFirst hread
    cases h
    exact ⟨members, ⟨behind, rest, hsplit, hread⟩, rfl⟩
  · rintro ⟨members, ⟨payload, rest, hsplit, hread⟩, hfields⟩
    simp only [ofLine, hsplit, hread, fieldsOf, ← hfields]

theorem split_append {payload : List Char} (h : split? line = some (header, payload))
    (more : List Char) : split? (line ++ more) = some (header, payload ++ more) := by
  simp only [split?, bind, Option.bind_eq_some_iff, pure, Option.some.injEq,
    Prod.mk.injEq] at h ⊢
  obtain ⟨⟨before, after⟩, hphrase, ⟨between, behind⟩, hbrace, rfl, rfl⟩ := h
  exact ⟨_, Text.cutAt_append hphrase more, _, Text.cutAtChar_append_of_eq_some hbrace more,
    rfl, rfl⟩

theorem Shows.append (h : Shows line header members) (more : List Char) :
    Shows (line ++ more) header members := by
  obtain ⟨payload, rest, hsplit, hread⟩ := h
  exact ⟨payload ++ more, rest ++ more, split_append hsplit more, Json.readFirst_append hread more⟩

/-- A longer line shows the same command. -/
theorem ofLine_append_eq_ok (h : ofLine line = .ok p) (more : List Char) :
    ofLine (line ++ more) = .ok p := by
  obtain ⟨members, hshows, hfields⟩ := ofLine_eq_ok_iff.mp h
  exact ofLine_eq_ok_iff.mpr ⟨members, hshows.append more, hfields⟩

/-- An object with one in it and an escaped quote, and behind it another phrase and object. -/
theorem ofLine_append_eq_ok_nested :
    let header := "CP: Successfully parsed command:".toList
    let payload := " \x7b\"a\":\x7b\"b\":\"\\\"\x7d\"\x7d,\"c\":[-12,0.5]\x7d".toList
    let more := "\x7d Successfully parsed command: \x7b\"a\":1\x7d".toList
    let command : Payload := ⟨header, [⟨['a'], .container .object, 0⟩,
      ⟨['b'], .text ['"', '\x7d'], 1⟩, ⟨['c'], .container .array, 0⟩,
      ⟨['[', '0', ']'], .scalar ['-', '1', '2'], 1⟩, ⟨['[', '1', ']'], .scalar ['0', '.', '5'], 1⟩]⟩
    ofLine (header ++ payload) = .ok command ∧ ofLine (header ++ payload ++ more) = .ok command :=
  have hline := by decide +kernel
  ⟨hline, ofLine_append_eq_ok hline _⟩

end Payload

end MotionLink
