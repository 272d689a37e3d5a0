import Sightline.Codec.Flaw

/-!
Files are read in pieces of one size. A decoder gets a piece together with the octets of a character
that the piece before has left incomplete, and counts the places of flaws from there; so the place
that is told of a flaw is not its place in the file.
-/
namespace Sightline.Codec

/-- The number of octets in a piece of a file. -/
def pieceSize : Nat := 8192

/-- The place that is told of a flaw which starts at `start` in a file of `total` octets and shows
once `seen` octets have been read. `held` gives the number of octets held over at the start of a
piece, and the first `mark` octets of the file do not count. A flaw that shows only at the end of
the file is the whole of what is held over there. -/
def placeInPiece (mark : Nat) (held : Nat → Nat) (total start seen : Nat) : Nat :=
  if total < seen then 0
  else
    let piece := (seen - 1) / pieceSize * pieceSize
    if piece = 0 then start - mark
    else if start ≤ piece then 0
    else start - piece + held piece

/-- A flaw in a file of at most one piece is told by its own place, the mark not counted. -/
theorem placeInPiece_of_le {total : Nat} (mark : Nat) (held : Nat → Nat) {start seen : Nat}
    (hTotal : total ≤ pieceSize) (hSeen : seen ≤ total) :
    placeInPiece mark held total start seen = start - mark := by
  have hPiece : (seen - 1) / pieceSize = 0 := Nat.div_eq_of_lt (by unfold pieceSize at *; omega)
  simp [placeInPiece, hPiece, Nat.not_lt.2 hSeen]

end Sightline.Codec
