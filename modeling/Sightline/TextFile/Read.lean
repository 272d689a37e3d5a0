import Sightline.Text.Newline
import Sightline.TextFile.Detect

/-!
Reading the lines of a text file, in an encoding that is named or in the first candidate that fits.
-/
namespace Sightline.TextFile

/-- The name that stands for detection instead of an encoding. -/
def detection : String := "auto"

/-- The codec for the name of an encoding; no name stands for UTF-8. -/
def encodingOf (codecs : Registry) : Option String → Except FileFault Codec
  | none => .ok Encoding.utf8.codec
  | some name =>
    if Text.holdsNull name.toList then .error (.setting .encodingNull)
    else match codecs name with
      | .ok codec => .ok codec
      | .error .unknown => .error (.unknownEncoding name)
      | .error .notText => .error (.notTextEncoding name)

/-- The lines of the file at `path` in an encoding. A name that no encoding can have is refused
before the file is opened, and any other is looked up when it is open. -/
def linesIn (codecs : Registry) (store : Store) (path : String) (encoding : Option String) :
    Except FileFault (List Text) :=
  match encodingOf codecs encoding, store.read path with
  | .error (.setting fault), _ => .error (.setting fault)
  | _, .error fault => .error (.path fault)
  | .error fault, .ok _ => .error fault
  | .ok codec, .ok octets =>
    match codec.decode octets with
    | .error fault => .error (.decode fault)
    | .ok s => .ok (Text.linesOf s)

/-- How many lines were read from where. -/
def readNote (lines : List Text) (path : String) : String :=
  "Read " ++ toString lines.length ++ " lines from '" ++ path ++ "'"

/-- Reads the file at `path` in one encoding. The path and flaws of the octets are reported. -/
def readNamed (codecs : Registry) (store : Store) (path : String) (encoding : Option String) :
    Except FileFault (List Text × Option String) × List Event :=
  match linesIn codecs store path encoding with
  | .ok lines => (.ok (lines, encoding), [.note .info (readNote lines path ++ ".")])
  | .error fault =>
    (.error fault,
      if fault.isPathRefusal || fault.isFlaw then
        [.note .error ("Failed to read '" ++ path ++ "': " ++ fault.message)]
      else [])

/-- Reads the file at `path` in the first of some encodings that fits. An encoding that is not
found, or that the octets have a flaw in, is reported and passed over; any other fault ends the
search. -/
def readFirst (codecs : Registry) (store : Store) (path : String) :
    List String → Except FileFault (List Text × Option String) × List Event
  | [] => (.error (.undecodable path), [])
  | name :: names =>
    match linesIn codecs store path (some name) with
    | .ok lines =>
      (.ok (lines, some name),
        [.note .info (readNote lines path ++ " using encoding '" ++ name ++ "'.")])
    | .error fault =>
      if fault.isPassedOver then
        let (result, events) := readFirst codecs store path names
        (result, .note .warning ("Failed to read '" ++ path ++ "' with encoding '" ++ name ++
          "': " ++ fault.message) :: events)
      else (.error fault, [])

/-- Reads the lines of the file at `path`, with the name of the encoding they were read in. -/
def read (store : Store) (means : Means) (path : String) (encoding : Option String)
    (settings : DetectionSettings) :
    Except FileFault (List Text × Option String) × List Event :=
  if encoding = some detection then
    match candidates store means path settings with
    | (.error fault, events) => (.error fault, events)
    | (.ok names, events) =>
      let (result, more) := readFirst means.codecs store path names
      (result, events ++ more)
  else readNamed means.codecs store path encoding

end Sightline.TextFile
