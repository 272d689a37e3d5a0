import Sightline.Codec.Piece

/-!
UTF-8, strictly: no overlong forms, no surrogates, nothing above U+10FFFF. The decoder reads octet
by octet and refuses at the first octet that no character can have there.
-/
namespace Sightline.Codec.Utf8

/-- The octets of one character. -/
def encodeChar (c : Char) : Bytes :=
  let n := c.toNat
  if n < 0x80 then [n.toUInt8]
  else if n < 0x800 then [(0xC0 + n / 64).toUInt8, (0x80 + n % 64).toUInt8]
  else if n < 0x10000 then
    [(0xE0 + n / 4096).toUInt8, (0x80 + n / 64 % 64).toUInt8, (0x80 + n % 64).toUInt8]
  else
    [(0xF0 + n / 262144).toUInt8, (0x80 + n / 4096 % 64).toUInt8, (0x80 + n / 64 % 64).toUInt8,
      (0x80 + n % 64).toUInt8]

/-- The octets of a text. -/
def encode (s : Text) : Bytes := s.flatMap encodeChar

/-- A character of which some octets have been read: those octets, the value they carry, how many
are still owed, and the bounds of the next one. -/
structure Pending where
  octets : Bytes
  value : Nat
  owed : Nat
  low : Nat
  high : Nat
  deriving DecidableEq, Repr

/-- What the first octet of a character starts: a whole character, or one that owes octets. The
bounds of the second octet rule out overlong forms, surrogates and what lies above U+10FFFF. -/
def lead? (b : UInt8) : Option (Char ⊕ Pending) :=
  let n := b.toNat
  if n < 0x80 then some (.inl (Char.ofNat n))
  else if n < 0xC2 then none
  else if n < 0xE0 then some (.inr ⟨[b], n - 0xC0, 1, 0x80, 0xBF⟩)
  else if n < 0xF0 then
    some (.inr ⟨[b], n - 0xE0, 2, if n = 0xE0 then 0xA0 else 0x80, if n = 0xED then 0x9F else 0xBF⟩)
  else if n < 0xF5 then
    some (.inr ⟨[b], n - 0xF0, 3, if n = 0xF0 then 0x90 else 0x80, if n = 0xF4 then 0x8F else 0xBF⟩)
  else none

/-- Decodes octets of which the first, or the first octet of the character begun, is at `offset`. -/
def decodeFrom (offset : Nat) : Option Pending → Bytes → Decoded
  | none, [] => .ok ([], [])
  | some p, [] => .ok ([], p.octets)
  | none, b :: rest =>
    match lead? b with
    | some (.inl c) => (decodeFrom (offset + 1) none rest).cons c
    | some (.inr p) => decodeFrom offset (some p) rest
    | none => .error ⟨offset, [b], .startOctet⟩
  | some p, b :: rest =>
    if p.low ≤ b.toNat && b.toNat ≤ p.high then
      let value := p.value * 64 + (b.toNat - 0x80)
      if p.owed = 1 then
        (decodeFrom (offset + p.octets.length + 1) none rest).cons (Char.ofNat value)
      else decodeFrom offset (some ⟨p.octets ++ [b], value, p.owed - 1, 0x80, 0xBF⟩) rest
    else .error ⟨offset, p.octets, .continuationOctet⟩

/-- Decodes octets from the start. -/
def decode (octets : Bytes) : Decoded := decodeFrom 0 none octets

/-- An octet that can only stand inside a character. -/
def isInner (b : UInt8) : Bool := 0x80 ≤ b.toNat && b.toNat < 0xC0

/-- The number of octets before an offset that belong to a character which goes on behind it. -/
def heldAt (octets : Bytes) (offset : Nat) : Nat :=
  match octets.drop offset with
  | [] => 0
  | b :: _ =>
    if isInner b then ((octets.take offset).reverse.takeWhile isInner).length + 1 else 0

/-- The number of octets from the start of a flaw on that show it. The first two octets of what
would be a surrogate wait for a third. -/
def extent (octets : Bytes) (f : Flaw) : Nat :=
  match octets.drop f.start with
  | 0xED :: b :: _ => if 0xA0 ≤ b.toNat && b.toNat < 0xC0 then 3 else f.octets.length + 1
  | _ => match f.reason with
    | .startOctet => 1
    | _ => f.octets.length + 1

/-- A flaw of a file, in the place that is told of it; the first `mark` octets do not count. -/
def told (mark : Nat) (octets : Bytes) (f : Flaw) : Flaw :=
  { f with start :=
      placeInPiece mark (heldAt octets) octets.length f.start (f.start + extent octets f) }

end Sightline.Codec.Utf8
