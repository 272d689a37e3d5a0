import Sightline.Codec.Piece

/-!
UTF-16 in either order of octets, strictly: a leading unit and a trailing unit stand for one
character and never alone.
-/
namespace Sightline.Codec.Utf16

/-- The order of the two octets of a unit. -/
inductive Order where
  | littleEndian
  | bigEndian
  deriving DecidableEq, Repr

/-- The unit of two octets. -/
def unit : Order → UInt8 → UInt8 → Nat
  | .littleEndian, x, y => x.toNat + 256 * y.toNat
  | .bigEndian, x, y => 256 * x.toNat + y.toNat

/-- The octets of a unit, the lower one first. -/
def unitOctets (n : Nat) : Bytes := [(n % 256).toUInt8, (n / 256).toUInt8]

/-- The octets of one character, the lower one of each unit first. -/
def encodeChar (c : Char) : Bytes :=
  let n := c.toNat
  if n < 0x10000 then unitOctets n
  else
    unitOctets (0xD800 + (n - 0x10000) / 1024) ++ unitOctets (0xDC00 + (n - 0x10000) % 1024)

/-- The octets of a text. -/
def encode (s : Text) : Bytes := s.flatMap encodeChar

/-- Decodes octets of which the first is at `offset`. -/
def decodeFrom (order : Order) (offset : Nat) : Bytes → Decoded
  | [] => .ok ([], [])
  | [x] => .ok ([], [x])
  | x :: y :: rest =>
    let u := unit order x y
    if u < 0xD800 || 0xDFFF < u then (decodeFrom order (offset + 2) rest).cons (Char.ofNat u)
    else if u < 0xDC00 then
      match rest with
      | x' :: y' :: rest' =>
        let v := unit order x' y'
        if 0xDC00 ≤ v && v ≤ 0xDFFF then
          (decodeFrom order (offset + 4) rest').cons
            (Char.ofNat (0x10000 + (u - 0xD800) * 1024 + (v - 0xDC00)))
        else .error ⟨offset, [x, y], .loneLeadingUnit⟩
      | tail => .ok ([], x :: y :: tail)
    else .error ⟨offset, [x, y], .loneTrailingUnit⟩

/-- The number of octets before an even offset that belong to a pair of units which goes on behind
it. -/
def heldAt (order : Order) (octets : Bytes) (offset : Nat) : Nat :=
  match octets.drop (offset - 2) with
  | x :: y :: _ => if 0xD800 ≤ unit order x y && unit order x y < 0xDC00 then 2 else 0
  | _ => 0

/-- The number of octets from the start of a flaw on that show it. -/
def extent (f : Flaw) : Nat :=
  match f.reason with
  | .loneLeadingUnit => 4
  | _ => 2

/-- A flaw of a file, in the place that is told of it. -/
def told (order : Order) (octets : Bytes) (f : Flaw) : Flaw :=
  { f with start :=
      placeInPiece 0 (heldAt order octets) octets.length f.start (f.start + extent f) }

end Sightline.Codec.Utf16
