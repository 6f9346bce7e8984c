/-!
# Ids made up for requests

A request that brings no id is given one of random digits: sixteen bytes in hexadecimal, in five
groups, with the four bits of the version and the two of the variant fixed.

## Main definitions

* `RequestId.ofRandom` — the id made of random bytes
-/

namespace MotionLink.RequestId

/-- A byte as two hexadecimal digits. -/
def digits (b : UInt8) : List Char :=
  [Nat.digitChar (b.toNat / 16), Nat.digitChar (b.toNat % 16)]

/-- The sizes of the groups, in bytes. -/
def groupSizes : List Nat := [4, 2, 2, 2, 6]

/-- Say with the byte at place six that the id is random, and with the byte at place eight how it
is laid out. -/
def marked (bytes : List UInt8) : List UInt8 :=
  let versioned := bytes.modify 6 fun b => 64 + b % 16
  versioned.modify 8 fun b => 128 + b % 64

/-- The bytes in groups of the sizes given. -/
def grouped : List Nat → List UInt8 → List (List UInt8)
  | [], _ => []
  | size :: sizes, bytes => bytes.take size :: grouped sizes (bytes.drop size)

/-- The id made of sixteen random bytes. -/
def ofRandom (bytes : List UInt8) : String :=
  "-".intercalate
    ((grouped groupSizes (marked bytes)).map fun group => String.ofList (group.flatMap digits))

end MotionLink.RequestId
