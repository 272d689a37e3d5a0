import Sightline.Record
import Sightline.Text.Quoted

/-!
What can be wrong with encoded text. A decoder that reads a prefix of a file stops in one of three
ways: at the end, at octets that no continuation can mend, or inside a character that more octets
could still complete.
-/
namespace Sightline.Codec

/-- Why octets stand for no character. -/
inductive Reason where
  | startOctet
  | continuationOctet
  | earlyEnd
  | beyondAscii
  | loneTrailingUnit
  | loneLeadingUnit
  | oddOctet
  /-- A reason that the codec has its own words for. -/
  | other (text : String)
  deriving DecidableEq, Repr

namespace Reason

/-- The wording of a reason. -/
def message : Reason → String
  | startOctet => "invalid start byte"
  | continuationOctet => "invalid continuation byte"
  | earlyEnd => "unexpected end of data"
  | beyondAscii => "ordinal not in range(128)"
  | loneTrailingUnit => "illegal encoding"
  | loneLeadingUnit => "illegal UTF-16 surrogate"
  | oddOctet => "truncated data"
  | other text => text

end Reason

/-- Refused octets: where they start, what they are, and why they are refused. -/
structure Flaw where
  start : Nat
  octets : Bytes
  reason : Reason
  deriving DecidableEq, Repr

/-- What a decoder makes of octets: the characters, and the octets of a character that is not
complete; or the first flaw. -/
abbrev Decoded := Except Flaw (Text × Bytes)

/-- A character in front of what is decoded behind it. -/
def Decoded.cons (c : Char) (d : Decoded) : Decoded := d.map fun r => (c :: r.1, r.2)

/-- Why a file is no text of an encoding. -/
inductive DecodeFault where
  /-- A flaw, in the words of the codec that met it. -/
  | flaw (codec : String) (f : Flaw)
  /-- The lack of the mark that tells the order of octets. -/
  | missingMark
  /-- The lack of something that the codec has to look up. -/
  | missing (message : String)
  /-- Anything else, of which no octets are told. -/
  | refused (message : String)
  deriving DecidableEq, Repr

namespace DecodeFault

/-- The octets of a flaw and their place. -/
def place (f : Flaw) : String :=
  match f.octets with
  | [octet] => "byte 0x" ++ String.ofList (Text.hex 2 octet.toNat) ++ " in position " ++
      toString f.start
  | octets => "bytes in position " ++ toString f.start ++ "-" ++
      toString (f.start + octets.length - 1)

/-- The wording of a fault. -/
def message : DecodeFault → String
  | flaw codec f =>
    "'" ++ codec ++ "' codec can't decode " ++ place f ++ ": " ++ f.reason.message
  | missingMark => "UTF-16 stream does not start with BOM"
  | missing message => message
  | refused message => message

end DecodeFault

/-- What an encoding does not have: the characters from a number on, or some that the codec has its
own words for. -/
inductive Lack where
  | beyond (size : Nat)
  | other (text : String)
  deriving DecidableEq, Repr

/-- The wording of a lack. -/
def Lack.message : Lack → String
  | beyond size => "ordinal not in range(" ++ toString size ++ ")"
  | other text => text

/-- Why a text has no octets in an encoding. -/
inductive EncodeFault where
  /-- Characters that the encoding does not have: where the first run of them starts, and that
  run. -/
  | strangers (codec : String) (start : Nat) (run : Text) (lack : Lack)
  /-- Anything else, of which no characters are told. -/
  | refused (message : String)
  deriving DecidableEq, Repr

namespace EncodeFault

/-- A run of code points that cannot be encoded, given by their numbers, and its place. -/
def place (start : Nat) (run : List Nat) : String :=
  match run with
  | [code] => "character '" ++ String.ofList (Text.escapeCode code) ++ "' in position " ++
      toString start
  | run => "characters in position " ++ toString start ++ "-" ++
      toString (start + run.length - 1)

/-- The wording of a fault. -/
def message : EncodeFault → String
  | strangers codec start run lack =>
    "'" ++ codec ++ "' codec can't encode " ++ place start (run.map Char.toNat) ++ ": " ++
      lack.message
  | refused message => message

end EncodeFault

end Sightline.Codec
