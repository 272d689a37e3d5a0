import Sightline.TextFile.Fault

/-!
The encodings to try for a file, most likely first: what a detector makes of a sample of the file,
if it is sure enough, and then UTF-8 and Latin-1. The last of them fits every file.
-/
namespace Sightline

/-- What a detector answers: the name of an encoding, if it has one to offer, and how sure it is. -/
structure Guess where
  encoding : Option String
  confidence : Option Number
  deriving DecidableEq, Repr, Inhabited

/-- How sure a guess is. Nothing and every zero count as the floating zero. -/
def Guess.sureness (guess : Guess) : Number :=
  match guess.confidence with
  | none => .zero
  | some n => if n.isZero then .zero else n

/-- Something that guesses the encoding of a sample. -/
abbrev Detector := Bytes → Guess

/-- The settings of detection, as they stand in a settings document. -/
structure DetectionSettings where
  /-- How many octets the sample has at most; nothing or -1 stands for the whole file. -/
  sampleSize : Value := .whole 20480
  /-- The least confidence at which a guess is tried. -/
  minConfidence : Value := .number (.floating (.ofDecimal false 75 (-2)))
  deriving Repr, Inhabited

namespace TextFile

/-- What text files are read with. -/
structure Means where
  codecs : Registry
  detector : Detector
  /-- The length of a sample for which there is no memory. -/
  memory : Int

/-- The length that no string of octets can have. -/
def stringBound : Int := 9223372036854775775

/-- The first octets of a file, as many as a sample size asks for. The place for the sample is made
before the file is read. -/
def sample (memory : Int) (size : Value) (octets : Bytes) : Except SettingFault Bytes :=
  match size, size.asNumber? with
  | .null, _ => .ok octets
  | _, some (.whole n) =>
    if n < -9223372036854775808 || 9223372036854775808 ≤ n then .error .sampleHuge
    else if n = -1 then .ok octets
    else if n < 0 then .error .sampleNegative
    else if stringBound ≤ n then .error .sampleBeyondStrings
    else if memory ≤ n then .error .sampleBeyondMemory
    else .ok (octets.take n.toNat)
  | _, _ => .error (.sampleKind size.kind)

/-- Whether a guess is sure enough to be tried. -/
def reaches (confidence : Number) (threshold : Value) : Except SettingFault Bool :=
  match threshold.asNumber? with
  | some n => .ok (n.le confidence)
  | none => .error (.thresholdKind confidence.kind threshold.kind)

/-- A confidence with two decimal places. A whole number has none if it is beyond all floating
ones. -/
def places2 : Number → Except SettingFault String
  | .whole n =>
    match Binary64.ofInt n with
    | .infinite _ => .error .hugeConfidence
    | x => .ok x.toPlaces2
  | .floating x => .ok x.toPlaces2

/-- Reported of an answer of the detector. -/
def guessNote (path : String) (guess : Guess) : Except SettingFault Event :=
  (places2 guess.sureness).map fun confidence =>
    .note .debug ("Chardet detected encoding '" ++ guess.encoding.getD "None" ++
      "' with confidence " ++ confidence ++ " for '" ++ path ++ "'.")

/-- The encodings that are always tried, each unless it has been named before. -/
def withFallbacks (candidates : List String) : List String :=
  ["utf-8", "latin-1"].foldl
    (fun names name => if names.contains name then names else names ++ [name]) candidates

/-- The names that a detector's answer puts in front of the fallbacks. -/
def guessed (guess : Guess) (threshold : Value) : Except SettingFault (List String) :=
  match guess.encoding with
  | none | some "" => .ok []
  | some name =>
    (reaches guess.sureness threshold).map fun sure => if sure then [name] else []

/-- The encodings to try for the file at `path`. An empty sample is not shown to the detector. -/
def candidates (store : Store) (means : Means) (path : String)
    (settings : DetectionSettings) : Except FileFault (List String) × List Event :=
  match store.read path with
  | .error fault => (.error (.path fault), [])
  | .ok octets =>
    match sample means.memory settings.sampleSize octets with
    | .error fault => (.error (.setting fault), [])
    | .ok [] => (.ok (withFallbacks []), [])
    | .ok (b :: rest) =>
      let guess := means.detector (b :: rest)
      match guessNote path guess with
      | .error fault => (.error (.setting fault), [.sampled (b :: rest)])
      | .ok note =>
        let events := [.sampled (b :: rest), note]
        match guessed guess settings.minConfidence with
        | .ok names => (.ok (withFallbacks names), events)
        | .error fault => (.error (.setting fault), events)

end TextFile

end Sightline
