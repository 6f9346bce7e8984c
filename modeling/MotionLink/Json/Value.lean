import MotionLink.Number.Shortest

/-!
# JSON values

## Main definitions

* `Json` — a value; the members of an object keep their order
* `Json.upsert` — a member list with one more member
* `Json.chars`, `Json.write` — the compact text of a value
-/

namespace MotionLink

/-- A JSON value. Numbers that are whole and fit a machine word stay whole. -/
inductive Json where
  | null
  | bool (value : Bool)
  | integer (value : Int)
  | double (value : Binary64)
  | string (value : String)
  | array (items : List Json)
  | object (members : List (String × Json))

namespace Json

/-- The members with one more: a name already present keeps its place and takes the new value. -/
def upsert (name : String) (value : Json) : List (String × Json) → List (String × Json)
  | [] => [(name, value)]
  | (n, v) :: rest => if n = name then (name, value) :: rest else (n, v) :: upsert name value rest

/-- A hexadecimal digit. -/
def hexDigit (n : Nat) : Char := if n < 10 then Char.ofNat (0x30 + n) else Char.ofNat (0x57 + n)

/-- How a character is written inside a string. -/
def escaped (c : Char) : List Char :=
  if c = '"' then ['\\', '"']
  else if c = '\\' then ['\\', '\\']
  else if c.toNat = 0x08 then ['\\', 'b']
  else if c.toNat = 0x09 then ['\\', 't']
  else if c.toNat = 0x0A then ['\\', 'n']
  else if c.toNat = 0x0C then ['\\', 'f']
  else if c.toNat = 0x0D then ['\\', 'r']
  else if c.toNat < 0x20 then
    ['\\', 'u', '0', '0', hexDigit (c.toNat / 16), hexDigit (c.toNat % 16)]
  else [c]

/-- A string between quotes. -/
def stringChars (s : String) : List Char := '"' :: s.toList.flatMap escaped ++ ['"']

/-- Doubles always show a point or an exponent; positional from 0.00001 up to below 10^16. -/
def doubleLayout : Layout := ⟨some (-5, 16), true, .toEven⟩

/-- A double; what is no finite number has no JSON form and becomes `null`. -/
def doubleChars : Binary64 → List Char
  | .finite negative m => doubleLayout.write (.finite negative m)
  | _ => ['n', 'u', 'l', 'l']

/-- A whole number. -/
def integerChars (n : Int) : List Char :=
  (if n < 0 then ['-'] else []) ++ Nat.toDigits 10 n.natAbs

mutual

/-- The compact text of a value. -/
def chars : Json → List Char
  | null => ['n', 'u', 'l', 'l']
  | bool true => ['t', 'r', 'u', 'e']
  | bool false => ['f', 'a', 'l', 's', 'e']
  | integer n => integerChars n
  | double x => doubleChars x
  | string s => stringChars s
  | array [] => ['[', ']']
  | array (v :: rest) => '[' :: chars v ++ itemsChars rest
  | object [] => ['\x7b', '\x7d']
  | object ((name, v) :: rest) => '\x7b' :: stringChars name ++ ':' :: chars v ++ membersChars rest

/-- The items behind the first one, each behind a comma, and the closing bracket. -/
def itemsChars : List Json → List Char
  | [] => [']']
  | v :: rest => ',' :: chars v ++ itemsChars rest

/-- The members behind the first one, each behind a comma, and the closing brace. -/
def membersChars : List (String × Json) → List Char
  | [] => ['\x7d']
  | (name, v) :: rest => ',' :: stringChars name ++ ':' :: chars v ++ membersChars rest

end

/-- The compact text of a value, as a string. -/
def write (v : Json) : String := String.ofList v.chars

/-- A value that may be absent, as no member or one. -/
def optional (name : String) (value : Option Json) : List (String × Json) :=
  match value with
  | some v => [(name, v)]
  | none => []

end Json

end MotionLink
