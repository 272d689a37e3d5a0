import Sightline.Codec.Registry
import Sightline.Setting.Value
import Sightline.Store

/-!
Why a text file could not be read or written: the path, the encoding, the octets or characters, or
a setting that is no value of the kind needed.
-/
namespace Sightline

/-- A setting that cannot be used for what it is there for. -/
inductive SettingFault where
  /-- A value of this kind names no encoding. -/
  | encodingKind (kind : String)
  /-- The name of an encoding holds the character with number zero. -/
  | encodingNull
  /-- The name of an encoding has these surrogates at an offset. -/
  | encodingSurrogates (start : Nat) (run : List Nat)
  /-- A value of this kind is no length of a sample. -/
  | sampleKind (kind : String)
  /-- A negative length other than -1, which stands for everything. -/
  | sampleNegative
  /-- A length that is no machine number. -/
  | sampleHuge
  /-- A length that no string of octets can have. -/
  | sampleBeyondStrings
  /-- A length for which there is no memory. -/
  | sampleBeyondMemory
  /-- A whole number as confidence that is beyond all floating ones. -/
  | hugeConfidence
  /-- A confidence of the first kind does not compare with a threshold of the second. -/
  | thresholdKind (confidence threshold : String)
  /-- A value of this kind has no members. -/
  | noMembers (kind : String)
  /-- A value of this kind is no text to search for. -/
  | notText (kind : String)
  /-- A value that is to be told of has no written form. -/
  | unwritable
  deriving DecidableEq, Repr

namespace SettingFault

/-- The wording of a fault. -/
def message : SettingFault → String
  | encodingKind kind => "open() argument 'encoding' must be str or None, not " ++ kind
  | encodingNull => "embedded null character"
  | encodingSurrogates start run =>
    "'utf-8' codec can't encode " ++ Codec.EncodeFault.place start run ++
      ": surrogates not allowed"
  | sampleKind kind => "argument should be integer or None, not '" ++ kind ++ "'"
  | sampleNegative => "read length must be non-negative or -1"
  | sampleHuge => "cannot fit 'int' into an index-sized integer"
  | sampleBeyondStrings => "byte string is too large"
  | sampleBeyondMemory => ""
  | hugeConfidence => "int too large to convert to float"
  | thresholdKind confidence threshold =>
    "'>=' not supported between instances of '" ++ confidence ++ "' and '" ++ threshold ++ "'"
  | noMembers kind => "'" ++ kind ++ "' object is not iterable"
  | notText kind => "'in <string>' requires string as left operand, not " ++ kind
  | unwritable => Numeral.unwritable

end SettingFault

/-- Why a text file could not be read or written. -/
inductive FileFault where
  | path (fault : PathFault)
  | decode (fault : Codec.DecodeFault)
  | encode (fault : Codec.EncodeFault)
  /-- No codec has this name. -/
  | unknownEncoding (name : String)
  /-- The codec of this name is none for text. -/
  | notTextEncoding (name : String)
  | setting (fault : SettingFault)
  /-- No candidate encoding fits the file at this path. -/
  | undecodable (path : String)
  deriving DecidableEq, Repr

namespace FileFault

/-- The wording of a fault. -/
def message : FileFault → String
  | path fault => fault.message
  | decode fault => fault.message
  | encode fault => fault.message
  | unknownEncoding name => "unknown encoding: " ++ name
  | notTextEncoding name =>
    "'" ++ name ++ "' is not a text encoding; use codecs.open() to handle arbitrary codecs"
  | setting fault => fault.message
  | undecodable file => "Could not decode '" ++ file ++ "' with any candidate encoding."

/-- The operating system refused the path. -/
def isPathRefusal : FileFault → Bool
  | .path .nullCharacter => false
  | .path _ => true
  | _ => false

/-- The octets have a flaw in the encoding tried. -/
def isFlaw : FileFault → Bool
  | decode (.flaw _ _) => true
  | _ => false

/-- Something was looked up and not found: a codec for text, or what the codec needs. -/
def isMissing : FileFault → Bool
  | unknownEncoding _ => true
  | notTextEncoding _ => true
  | decode (.missing _) => true
  | _ => false

/-- The encoding tried is passed over, and the next one is tried. -/
def isPassedOver (fault : FileFault) : Bool := fault.isFlaw || fault.isMissing

end FileFault

end Sightline
