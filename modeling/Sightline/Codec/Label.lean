import Sightline.Codec.Registry

/-!
Text in labels, as the names of hosts are written. A dot ends a label, and a label is handed over
once it is ended; so what stands behind the last dot never gets into a file. Labels with characters
beyond ASCII have a spelling of their own, which is left out here.
-/
namespace Sightline.Codec.Label

/-- The most characters that a label may have. -/
def maxLength : Nat := 63

/-- A label that can be handed over. -/
def isSound (label : Text) : Bool :=
  0 < label.length && label.length ≤ maxLength && label.all fun c => c.toNat < 128

/-- The octets of the labels that are ended in a text, with their dots. -/
def handOver (s : Text) : Except EncodeFault Bytes :=
  let labels := (Text.splitOn '.' s).dropLast
  if labels.all isSound then
    .ok (labels.flatMap fun label => (label ++ ['.']).map fun c => c.toNat.toUInt8)
  else .error (.refused "label empty or too long")

/-- What is withheld of a text: the label that is not ended. -/
def withheld (s : Text) : Text := (Text.splitOn '.' s).getLastD []

/-- The codec for labels in ASCII. -/
def codec : Codec where
  decode := Encoding.ascii.decode
  encode written piece := handOver (withheld written.reverse.flatten ++ piece)

end Sightline.Codec.Label
