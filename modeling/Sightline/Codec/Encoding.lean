import Sightline.Codec.OneOctet
import Sightline.Codec.Utf16
import Sightline.Codec.Utf8

/-!
The text encodings a file may be in, by name, and what each makes of a whole file.

A file is decoded piece by piece, and the end of the file comes as a last piece of its own. So an
incomplete character at the end is told by its place in the octets that are left over there, and any
other flaw by its place in the piece in which it shows.
-/
namespace Sightline

/-- An encoding of text files. -/
inductive Encoding where
  | utf8
  /-- UTF-8 with a mark in front of the text. -/
  | markedUtf8
  | latin1
  | ascii
  /-- UTF-16 with a mark that tells the order of octets. -/
  | utf16
  deriving DecidableEq, Repr, Inhabited

namespace Encoding

/-- The encoding that is meant by one of the usual names. -/
def ofName? : String → Option Encoding
  | "utf-8" => some utf8
  | "UTF-8" => some utf8
  | "utf-8-sig" => some markedUtf8
  | "latin-1" => some latin1
  | "ISO-8859-1" => some latin1
  | "ascii" => some ascii
  | "utf-16" => some utf16
  | _ => none

/-- What stands in front of a text that is not empty. -/
def mark : Encoding → Bytes
  | markedUtf8 => [0xEF, 0xBB, 0xBF]
  | utf16 => [0xFF, 0xFE]
  | _ => []

/-- The octets of a text, without a mark. -/
def encode : Encoding → Text → Except Codec.EncodeFault Bytes
  | utf8, s => .ok (Codec.Utf8.encode s)
  | markedUtf8, s => .ok (Codec.Utf8.encode s)
  | latin1, s => Codec.OneOctet.encode "latin-1" 256 s
  | ascii, s => Codec.OneOctet.encode "ascii" 128 s
  | utf16, s => .ok (Codec.Utf16.encode s)

/-- The end of decoding: nothing may be left over. `early` is the reason for refusing what is, and
`told` puts any other flaw in the place that is told of it. -/
def finish (codec : String) (early : Bytes → Codec.Reason) (told : Codec.Flaw → Codec.Flaw) :
    Codec.Decoded → Except Codec.DecodeFault Text
  | .ok (s, []) => .ok s
  | .ok (_, tail) => .error (.flaw codec ⟨0, tail, early tail⟩)
  | .error f => .error (.flaw codec (told f))

/-- The text of octets in UTF-8, of which the first `mark` are no part of the text. -/
def decodeUtf8 (mark : Nat) (octets : Bytes) : Except Codec.DecodeFault Text :=
  finish "utf-8" (fun _ => .earlyEnd) (Codec.Utf8.told mark octets)
    (Codec.Utf8.decodeFrom mark none (octets.drop mark))

/-- The text of octets in UTF-16, of which the first `mark` are no part of the text. -/
def decodeUtf16 (order : Codec.Utf16.Order) (mark : Nat) (octets : Bytes) :
    Except Codec.DecodeFault Text :=
  let codec := match order with
    | .littleEndian => "utf-16-le"
    | .bigEndian => "utf-16-be"
  finish codec (fun tail => if tail.length = 1 then .oddOctet else .earlyEnd)
    (Codec.Utf16.told order octets) (Codec.Utf16.decodeFrom order mark (octets.drop mark))

/-- The lack of a mark in octets of UTF-16. A flaw comes before it if it shows in the first piece,
and so does a file too short to have a mark. -/
def decodeUnmarked (octets : Bytes) : Except Codec.DecodeFault Text :=
  match Codec.Utf16.decodeFrom .littleEndian 0 octets with
  | .ok (_ :: _, _) => .error .missingMark
  | .ok ([], _) => decodeUtf16 .littleEndian 0 octets
  | .error f =>
    if f.start + Codec.Utf16.extent f ≤ Codec.pieceSize then decodeUtf16 .littleEndian 0 octets
    else .error .missingMark

/-- The text of the octets of a file. -/
def decode : Encoding → Bytes → Except Codec.DecodeFault Text
  | utf8, octets => decodeUtf8 0 octets
  | markedUtf8, octets =>
    match octets with
    | 0xEF :: 0xBB :: 0xBF :: _ => decodeUtf8 3 octets
    | [0xEF, 0xBB] => .ok []
    | [0xEF] => .ok []
    | _ => decodeUtf8 0 octets
  | latin1, octets => .ok (Codec.OneOctet.decodeAll octets)
  | ascii, octets =>
    finish "ascii" (fun _ => .earlyEnd) (Codec.OneOctet.told octets.length)
      (Codec.OneOctet.decodeBelow 128 0 octets)
  | utf16, octets =>
    match octets with
    | 0xFF :: 0xFE :: _ => decodeUtf16 .littleEndian 2 octets
    | 0xFE :: 0xFF :: _ => decodeUtf16 .bigEndian 2 octets
    | _ => decodeUnmarked octets

/-- The text of octets in UTF-8 that are decoded in one step, so that an incomplete character at
the end is reported by its place in the file. -/
def decodeWhole (octets : Bytes) : Except Codec.DecodeFault Text :=
  match Codec.Utf8.decode octets with
  | .ok (s, []) => .ok s
  | .ok (_, tail) => .error (.flaw "utf-8" ⟨octets.length - tail.length, tail, .earlyEnd⟩)
  | .error f => .error (.flaw "utf-8" f)

end Encoding

end Sightline
