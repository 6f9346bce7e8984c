import MotionLink.Text.Utf8
import MotionLink.Wire.Fault

/-!
# Frames

A message on the command channel is a payload followed by a terminator. There is no length in
front and no escaping, so a payload never holds the terminator.

## Main definitions

* `Frame` — a message without its terminator
* `Frame.encode` — the wire form of a payload
* `Frame.decode` — the first message of a buffer, and what stays behind it
* `BufferStep` — one operation on a buffer shared by both
-/

namespace MotionLink

/-- A message without its terminator. -/
structure Frame where
  payload : Bytes
deriving DecidableEq

/-- Why a message could not be written or read. -/
inductive FrameError where
  /-- the payload would be cut in two at this offset -/
  | terminatorInPayload (offset : Nat)
  | payloadTooLarge (size limit : Nat)
  | fault (fault : Fault)
  /-- the stream ended before the terminator came -/
  | closed
deriving DecidableEq

/-- The wording shown to the operator. -/
def FrameError.message : FrameError → String
  | terminatorInPayload offset => s!"payload contains frame terminator '#' at offset {offset}"
  | payloadTooLarge size limit => s!"payload too large ({size} bytes, max {limit})"
  | fault f => "frame I/O error: " ++ f.message
  | closed => "connection closed (incomplete frame)"

namespace Frame

/-- The byte that ends a message: `#`. -/
def terminator : UInt8 := 0x23

/-- The largest payload unless another limit is asked for. -/
def defaultLimit : Nat := 65536

/-- The number of bytes on the wire. -/
def wireSize (frame : Frame) : Nat := frame.payload.length + 1

/-- The message as it stands on the wire. -/
def toWire (frame : Frame) : Bytes := frame.payload ++ [terminator]

/-- The payload as text. -/
def text (frame : Frame) : String := Utf8.text frame.payload

/-- The payload without a terminator at its end. -/
def body (payload : Bytes) : Bytes :=
  if payload.getLast? = some terminator then payload.dropLast else payload

/-- The wire form of a payload, which may bring its terminator along. -/
def encode (payload : Bytes) : Except FrameError Bytes :=
  match (body payload).findIdx? (· == terminator) with
  | some offset => .error (.terminatorInPayload offset)
  | none => .ok (body payload ++ [terminator])

/-- The first message of a buffer and the bytes behind it; nothing while the terminator has not
come and may still come within the limit. -/
def decode (limit : Nat) (buffer : Bytes) : Except FrameError (Option (Frame × Bytes)) :=
  let payload := buffer.takeWhile (· != terminator)
  -- A message over the limit is refused even before its terminator has come.
  if limit < payload.length then .error (.payloadTooLarge payload.length limit)
  else
    match buffer.dropWhile (· != terminator) with
    | [] => .ok none
    | _ :: rest => .ok (some (⟨payload⟩, rest))

theorem length_lt_of_decode {limit : Nat} {buffer rest : Bytes} {frame : Frame}
    (h : decode limit buffer = .ok (some (frame, rest))) : rest.length < buffer.length := by
  simp only [decode] at h
  split at h
  · cases h
  · split at h
    · cases h
    · rename_i b tail heq
      have hle := (List.dropWhile_suffix (l := buffer) (· != terminator)).length_le
      rw [heq, List.length_cons] at hle
      simp only [Except.ok.injEq, Option.some.injEq, Prod.mk.injEq] at h
      obtain ⟨-, rfl⟩ := h
      omega

end Frame

/-- One operation on a buffer that holds wire bytes. -/
inductive BufferStep where
  | append (bytes : Bytes)
  | encode (payload : Bytes)
  | decode (limit : Nat)

/-- What an operation on a buffer answers. -/
inductive BufferAnswer where
  | done
  | frame (frame : Frame)
  /-- no complete message yet -/
  | incomplete
  | refused (error : FrameError)

/-- Carry out one operation; a refused one leaves the buffer as it was. -/
def BufferStep.run (buffer : Bytes) : BufferStep → BufferAnswer × Bytes
  | append bytes => (.done, buffer ++ bytes)
  | encode payload =>
    match Frame.encode payload with
    | .ok wire => (.done, buffer ++ wire)
    | .error e => (.refused e, buffer)
  | decode limit =>
    match Frame.decode limit buffer with
    | .ok (some (frame, rest)) => (.frame frame, rest)
    | .ok none => (.incomplete, buffer)
    | .error e => (.refused e, buffer)

end MotionLink
