import MotionLink.Json.Number

/-!
# Reading JSON

Reading is strict, and stops behind the first complete value. Containers may be nested 127 deep.
Of several members with one name the first gives the place and the last the value.

## Main definitions

* `Json.readString` — a string behind its opening quote
* `Json.readValue`, `Json.readItems`, `Json.readMembers` — the grammar
* `Json.readFirst` — the first value of a text, and the text behind it
-/

namespace MotionLink.Json

/-- The text from its first character that is no JSON blank. -/
def skipBlanks (s : List Char) : List Char :=
  s.dropWhile fun c => c = ' ' || c = '\t' || c = '\n' || c = '\r'

/-- The value of a hexadecimal digit of either case. -/
def hexValue? (c : Char) : Option Nat :=
  if '0' ≤ c ∧ c ≤ '9' then some (c.toNat - 0x30)
  else if 'a' ≤ c ∧ c ≤ 'f' then some (c.toNat - 0x57)
  else if 'A' ≤ c ∧ c ≤ 'F' then some (c.toNat - 0x37)
  else none

/-- The value of four hexadecimal digits. -/
def hexUnit? (a b c d : Char) : Option Nat := do
  let a ← hexValue? a
  let b ← hexValue? b
  let c ← hexValue? c
  let d ← hexValue? d
  pure (((a * 16 + b) * 16 + c) * 16 + d)

/-- The character that a letter behind a backslash stands for. -/
def unescape? (c : Char) : Option Char :=
  if c = '"' ∨ c = '\\' ∨ c = '/' then some c
  else if c = 'b' then some '\x08'
  else if c = 'f' then some '\x0c'
  else if c = 'n' then some '\n'
  else if c = 'r' then some '\r'
  else if c = 't' then some '\t'
  else none

/-- Two halves of a surrogate pair as one code point. -/
def surrogatePair? (high low : Nat) : Option Nat :=
  if 0xDC00 ≤ low ∧ low ≤ 0xDFFF then some (0x10000 + (high - 0xD800) * 0x400 + (low - 0xDC00))
  else none

/-- The rest of a string up to its closing quote, and the text behind it; `done` holds the
characters already read, last first. Controls have to be escaped, and half of a surrogate pair
never stands alone. -/
def readString (done : List Char) : List Char → Option (String × List Char)
  | [] => none
  | '"' :: s => some (String.ofList done.reverse, s)
  | '\\' :: 'u' :: a :: b :: c :: d :: s =>
    match hexUnit? a b c d with
    | none => none
    | some n =>
      if 0xD800 ≤ n ∧ n ≤ 0xDBFF then
        -- The first half of a pair: the second half has to follow at once.
        match s with
        | '\\' :: 'u' :: e :: f :: g :: h :: s =>
          match (hexUnit? e f g h).bind (surrogatePair? n) with
          | some n => readString (Char.ofNat n :: done) s
          | none => none
        | _ => none
      else if 0xDC00 ≤ n ∧ n ≤ 0xDFFF then none
      else readString (Char.ofNat n :: done) s
  | '\\' :: c :: s =>
    match unescape? c with
    | some c => readString (c :: done) s
    | none => none
  | c :: s => if c = '\\' ∨ c.toNat < 0x20 then none else readString (c :: done) s

/-- A value that begins with a letter, a digit or a minus sign. -/
def readScalar (s : List Char) : Option (Json × List Char) :=
  match s with
  | 'n' :: 'u' :: 'l' :: 'l' :: s => some (null, s)
  | 't' :: 'r' :: 'u' :: 'e' :: s => some (bool true, s)
  | 'f' :: 'a' :: 'l' :: 's' :: 'e' :: s => some (bool false, s)
  | s => do
    let (t, rest) ← NumberText.scan s
    let v ← t.value?
    pure (v, rest)

mutual

/-- A value and the text behind it; containers may be nested `depth` deep. -/
def readValue : (fuel depth : Nat) → List Char → Option (Json × List Char)
  | 0, _, _ => none
  | fuel + 1, depth, s =>
    match skipBlanks s, depth with
    | '"' :: r, _ => (readString [] r).map fun t => (string t.1, t.2)
    | '[' :: _, 0 => none
    | '[' :: r, depth + 1 =>
      match skipBlanks r with
      | ']' :: rest => some (array [], rest)
      | _ => (readItems fuel depth r).map fun t => (array t.1, t.2)
    | '\x7b' :: _, 0 => none
    | '\x7b' :: r, depth + 1 =>
      match skipBlanks r with
      | '\x7d' :: rest => some (object [], rest)
      | _ => (readMembers fuel depth [] r).map fun t => (object t.1, t.2)
    | s, _ => readScalar s

/-- One or more items of an array, up to its closing bracket. -/
def readItems : (fuel depth : Nat) → List Char → Option (List Json × List Char)
  | 0, _, _ => none
  | fuel + 1, depth, s =>
    match readValue fuel depth s with
    | none => none
    | some (v, rest) =>
      match skipBlanks rest with
      | ',' :: rest => (readItems fuel depth rest).map fun t => (v :: t.1, t.2)
      | ']' :: rest => some ([v], rest)
      | _ => none

/-- One or more members of an object, up to its closing brace, added to those already read. -/
def readMembers : (fuel depth : Nat) → List (String × Json) → List Char →
    Option (List (String × Json) × List Char)
  | 0, _, _, _ => none
  | fuel + 1, depth, members, s =>
    match skipBlanks s with
    | '"' :: r =>
      match readString [] r with
      | none => none
      | some (name, rest) =>
        match skipBlanks rest with
        | ':' :: rest =>
          match readValue fuel depth rest with
          | none => none
          | some (v, rest) =>
            match skipBlanks rest with
            | ',' :: rest => readMembers fuel depth (upsert name v members) rest
            | '\x7d' :: rest => some (upsert name v members, rest)
            | _ => none
        | _ => none
    | _ => none

end

/-- How deep containers may be nested. -/
def maxDepth : Nat := 127

/-- The first value of a text, and the text behind it. Every step reads a character, and two
steps at most belong to one. -/
def readFirst (s : List Char) : Option (Json × List Char) :=
  readValue (2 * s.length + 2) maxDepth s

end MotionLink.Json
