import MotionLink.Text.Utf8

/-!
# Lines of a stream

A stream arrives in chunks that may end anywhere, also inside a character. Bytes wait until their
line is complete and are read as text only then. A line that reaches the limit is cut there.

## Main definitions

* `LineBuffer` — the bytes of the line not yet complete
* `LineBuffer.push` — the lines that a chunk completes
* `LineBuffer.flush` — the line not yet complete
-/

namespace MotionLink

/-- The bytes of the line not yet complete. -/
structure LineBuffer where
  /-- the most bytes of a line; zero counts as one -/
  limit : Nat
  pending : Array UInt8

namespace LineBuffer

/-- The longest line unless another limit is asked for. -/
def defaultLimit : Nat := 65536

/-- The byte that ends a line. -/
def newline : UInt8 := 0x0A

/-- The byte that may stand before the end of a line. -/
def carriageReturn : UInt8 := 0x0D

/-- A buffer without any bytes. -/
def ofLimit (limit : Nat) : LineBuffer := ⟨limit, #[]⟩

/-- The bytes of a line without one carriage return at their end. -/
def content (bytes : Bytes) : Bytes :=
  if bytes.getLast? = some carriageReturn then bytes.dropLast else bytes

/-- The text of a line. -/
def lineOf (pending : Array UInt8) : List Char := Utf8.decode (content pending.toList)

/-- The buffer behind a line. -/
def cleared (buffer : LineBuffer) : LineBuffer := { buffer with pending := #[] }

/-- Take in one byte: the line that it completes, if it does, and the buffer behind it. -/
def feed (buffer : LineBuffer) (byte : UInt8) : Option (List Char) × LineBuffer :=
  if byte = newline then (some (lineOf buffer.pending), buffer.cleared)
  else
    -- The parts are taken out of the buffer so that the bytes have one owner while they grow.
    let ⟨limit, pending⟩ := buffer
    let pending := pending.push byte
    if max limit 1 ≤ pending.size then (some (lineOf pending), ofLimit limit)
    else (none, ⟨limit, pending⟩)

/-- Take in one byte behind others that have completed some lines. -/
def feedOnto (taken : Array (List Char) × LineBuffer) (byte : UInt8) :
    Array (List Char) × LineBuffer :=
  let (lines, buffer) := taken
  match buffer.feed byte with
  | (some line, buffer) => (lines.push line, buffer)
  | (none, buffer) => (lines, buffer)

/-- The lines that a chunk completes, and the buffer behind it. -/
def push (buffer : LineBuffer) (chunk : Bytes) : List (List Char) × LineBuffer :=
  let (lines, buffer) := chunk.foldl feedOnto (#[], buffer)
  (lines.toList, buffer)

/-- The line not yet complete, if it has any bytes. -/
def flush (buffer : LineBuffer) : Option (List Char) × LineBuffer :=
  if buffer.pending.isEmpty then (none, buffer)
  else (some (lineOf buffer.pending), buffer.cleared)

end LineBuffer

end MotionLink
