import Sightline.Codec.Piece

/-!
Encodings with one octet for each of the first characters of the code.
-/
namespace Sightline.Codec.OneOctet

/-- The text of octets, each the number of its character. -/
def decodeAll (octets : Bytes) : Text := octets.map fun b => Char.ofNat b.toNat

/-- The text of octets that must all be below `size`; `offset` is the place of the first. -/
def decodeBelow (size offset : Nat) : Bytes → Decoded
  | [] => .ok ([], [])
  | b :: rest =>
    if b.toNat < size then (decodeBelow size (offset + 1) rest).cons (Char.ofNat b.toNat)
    else .error ⟨offset, [b], .beyondAscii⟩

/-- A flaw of a file of `total` octets, in the place that is told of it. -/
def told (total : Nat) (f : Flaw) : Flaw :=
  { f with start := placeInPiece 0 (fun _ => 0) total f.start (f.start + 1) }

/-- The characters at the start of a text that an encoding of `size` characters does not have. -/
def strangers (size : Nat) (s : Text) : Text := s.takeWhile fun c => size ≤ c.toNat

/-- The octets of a text in an encoding of `size` characters, or the first run of characters that
it does not have; `offset` is the place of the first character. -/
def encodeFrom (codec : String) (size offset : Nat) : Text → Except EncodeFault Bytes
  | [] => .ok []
  | c :: rest =>
    if c.toNat < size then
      (encodeFrom codec size (offset + 1) rest).map (c.toNat.toUInt8 :: ·)
    else .error (.strangers codec offset (c :: strangers size rest) (.beyond size))

/-- The octets of a text in an encoding of `size` characters. -/
def encode (codec : String) (size : Nat) (s : Text) : Except EncodeFault Bytes :=
  encodeFrom codec size 0 s

end Sightline.Codec.OneOctet
