/-!
# Decoding UTF-8 in pieces

Bytes arrive in pieces, so the bytes at the end of a piece may start a character that the next
piece completes. Decoding therefore gives the characters that are complete and the bytes that are
left over; it fails when some bytes start no character.

The first two bytes of a surrogate count as a start when nothing follows them yet, although no
character can come of them.
-/

namespace GeoStream

namespace Utf8

/-- What stands at the start of some bytes. -/
inductive Head where
  | char (c : Char) (size : Nat)
  | incomplete
  | invalid

/-- The bytes that may follow a first byte at once, and how many follow in all. -/
def followers? (b : Nat) : Option (Nat × Nat × Nat) :=
  if 0xc2 ≤ b ∧ b ≤ 0xdf then some (0x80, 0xbf, 1)
  else if b = 0xe0 then some (0xa0, 0xbf, 2)
  else if b = 0xed then some (0x80, 0x9f, 2)
  else if 0xe1 ≤ b ∧ b ≤ 0xef then some (0x80, 0xbf, 2)
  else if b = 0xf0 then some (0x90, 0xbf, 3)
  else if 0xf1 ≤ b ∧ b ≤ 0xf3 then some (0x80, 0xbf, 3)
  else if b = 0xf4 then some (0x80, 0x8f, 3)
  else none

/-- Whether the bytes at the end are the first two of a surrogate. -/
def isHalfSurrogate (first : Nat) (tail : List Nat) : Bool :=
  first == 0xed && match tail with
    | [t] => 0xa0 ≤ t && t ≤ 0xbf
    | _ => false

/-- The character that some bytes start with. -/
def head : List UInt8 → Head
  | [] => .incomplete
  | b :: rest =>
    let b := b.toNat
    if b < 0x80 then .char (Char.ofNat b) 1
    else
      match followers? b with
      | none => .invalid
      | some (low, high, count) =>
        let tail := (rest.take count).map UInt8.toNat
        let inRange := match tail with
          | [] => true
          | t :: more =>
            (low ≤ t && t ≤ high) && more.all fun t => 0x80 ≤ t && t ≤ 0xbf
        if isHalfSurrogate b tail then .incomplete
        else if !inRange then .invalid
        else if tail.length < count then .incomplete
        else
          let lead := b % Nat.pow 2 (6 - count)
          .char (Char.ofNat (tail.foldl (fun n t => n * 64 + t % 64) lead)) (count + 1)

/-- The characters of some bytes and the bytes left over. The characters before are in `done`, the
last one first, and the first `skip` bytes belong to the last of them. -/
def decodeFrom (done : List Char) : Nat → List UInt8 → Option (List Char × List UInt8)
  | _, [] => some (done.reverse, [])
  | skip + 1, _ :: rest => decodeFrom done skip rest
  | 0, b :: rest =>
    match head (b :: rest) with
    | .char c size => decodeFrom (c :: done) (size - 1) rest
    | .incomplete => some (done.reverse, b :: rest)
    | .invalid => none

/-- The characters of some bytes and the bytes left over, or `none` when the bytes are not UTF-8. -/
def decode (bytes : List UInt8) : Option (List Char × List UInt8) := decodeFrom [] 0 bytes

end Utf8

end GeoStream
