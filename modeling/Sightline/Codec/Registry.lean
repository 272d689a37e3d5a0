import Sightline.Codec.Encoding

/-!
Codecs, and how they are found by name. Which codecs there are is not settled here: what reads or
writes a file is handed a registry, and the encodings of this library are some of those that a
registry can hold.

A text is written piece by piece. A codec may have to know the pieces before, as one does that puts
a mark in front of the first, and it may withhold octets that depend on the piece behind. What is
withheld when the last piece has been written is lost.
-/
namespace Sightline

/-- What a codec makes of the octets of a file, and of text that is to be written to one. -/
structure Codec where
  /-- The text of the octets of a file. -/
  decode : Bytes → Except Codec.DecodeFault Text
  /-- The octets that are handed over for a piece of text when some pieces have been written, the
  last of them first. -/
  encode : List Text → Text → Except Codec.EncodeFault Bytes

/-- The codec of an encoding: each piece on its own, the first behind the mark. -/
def Encoding.codec (e : Encoding) : Codec where
  decode := e.decode
  encode written piece :=
    (e.encode piece).map fun octets => if written.isEmpty then e.mark ++ octets else octets

/-- Why no codec is found under a name. -/
inductive LookupFault where
  /-- Nothing has the name. -/
  | unknown
  /-- What has the name is no encoding of text. -/
  | notText
  deriving DecidableEq, Repr

/-- The codecs that can be asked for by name. -/
abbrev Registry := String → Except LookupFault Codec

namespace Registry

/-- The encodings of this library under their usual names. -/
def common : Registry := fun name =>
  match Encoding.ofName? name with
  | some e => .ok e.codec
  | none => .error .unknown

/-- One codec more. -/
def add (codecs : Registry) (name : String) (codec : Codec) : Registry := fun asked =>
  if asked = name then .ok codec else codecs asked

end Registry

end Sightline
