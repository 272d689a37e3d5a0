import Sightline.Buffer.Bracket
import Sightline.Buffer.Change
import Sightline.Buffer.Member
import Sightline.Mask.Choice
import Sightline.TextFile.Write

/-!
An editing session: a buffer together with the file it belongs to. Opening one reads the file, if it
is to be read, and makes the search view, which has to fit the lines.
-/
namespace Sightline

/-- What a session works with beside its own state. -/
structure Surroundings where
  store : Store
  means : TextFile.Means
  /-- The lexer registered for the name of a file. -/
  lexerFor : String → Option Mask.Lexer

/-- Why a session could not be opened, or an operation could not be carried out. -/
inductive SessionFault where
  /-- A file is to be read, and there is no path. -/
  | noPathToRead
  /-- The buffer is to be written, and there is no path. -/
  | noPathToWrite
  | file (fault : FileFault)
  | delimiters (fault : DelimiterFault)
  | mask (fault : Mask.TokenFault)
  | alignment (fault : AlignmentFault)
  | cursor (fault : CursorFault)
  | bracket (fault : BracketFault)
  | setting (fault : SettingFault)
  deriving Repr

namespace SessionFault

/-- The wording of a fault. -/
def message : SessionFault → String
  | noPathToRead => "A path is required to load a file"
  | noPathToWrite => "FileModel has no path to write to"
  | file fault => fault.message
  | delimiters fault => fault.message
  | mask fault => fault.message
  | alignment fault => fault.message
  | cursor fault => fault.message
  | bracket fault => fault.message
  | setting fault => fault.message

end SessionFault

/-- A buffer, the path it is written to, the encoding it is written in, the masker that made its
views, and the words that start a member. Encoding and words are kept as the settings give them. -/
structure Session where
  buffer : Buffer
  path : Option String
  encoding : Value
  masker : Masker
  keywords : List Value

namespace Session

/-- A path inside a message. -/
def pathText (path : Option String) : String := path.getD "None"

/-- The session in one line. -/
def summary (s : Session) : String :=
  "FileModel(path=" ++ Text.quoteString (pathText s.path) ++ ", lines=" ++
    toString s.buffer.size ++ ", position=" ++ toString s.buffer.position ++ ")"

/-- The name of an encoding in the settings; nothing stands for the encoding of the surroundings. -/
def encodingName : Value → Except SettingFault (Option String)
  | .null => .ok none
  | .text name =>
    if Text.holdsNull name.toList then .error .encodingNull else .ok (some name)
  | .points s =>
    let (start, run) := CodePoint.surrogateRun s
    .error (.encodingSurrogates start run)
  | v => .error (.encodingKind v.kind)

/-- The setting for the name of an encoding. -/
def encodingValue : Option String → Value
  | none => .null
  | some name => .text name

/-- The lines of a buffer for some texts, with the views a masker makes of them. -/
def build (masker : Masker) (texts : List Text) : Except SessionFault (List Line) :=
  match masker.mask texts with
  | .error fault => .error (.mask fault)
  | .ok views =>
    match Mask.alignmentFault? texts views with
    | some fault => .error (.alignment fault)
    | none => .ok (texts.zipWith Line.mk views)

/-- What a session is opened with. -/
structure Opening where
  path : Option String
  delimiters : Value
  /-- Read the file at the path, instead of starting with no lines. -/
  reading : Bool
  masker : Option Masker
  settings : Table

/-- Reads the lines to start with, and the encoding they are in. -/
def startLines (w : Surroundings) (path : Option String) (encoding : Value) (o : Opening) :
    Except SessionFault (List Text × Value) × List Event :=
  if !o.reading then (.ok ([], encoding), [])
  else match path with
    | none => (.error .noPathToRead, [])
    | some path =>
      let (sampleSize, sizeNotes) := Setting.lookup o.settings "io" "detect_sample_size"
      let (minConfidence, confidenceNotes) :=
        Setting.lookup o.settings "io" "detect_min_confidence"
      let notes := (sizeNotes ++ confidenceNotes).map .logged
      match encodingName encoding with
      | .error fault => (.error (.setting fault), notes)
      | .ok name =>
        match TextFile.read w.store w.means path name ⟨sampleSize, minConfidence⟩ with
        | (.error fault, events) => (.error (.file fault), notes ++ events)
        | (.ok (lines, name), events) => (.ok (lines, encodingValue name), notes ++ events)

/-- The masker a session is opened with, or the one the settings ask for. -/
def startMasker (w : Surroundings) (path : Option String) (o : Opening) :
    Except DelimiterFault Masker × List Record :=
  match o.masker with
  | some masker => (.ok masker, [])
  | none => Masker.choose w.lexerFor path o.settings o.delimiters

/-- Opens a session. -/
def start (w : Surroundings) (o : Opening) : Except SessionFault Session × List Event :=
  let path := o.path.map Path.shorten
  let (encoding, encodingNotes) := Setting.lookup o.settings "io" "encoding"
  let (keywords, keywordNotes) := Setting.lookup o.settings "navigation" "member_keywords"
  let notes := (encodingNotes ++ keywordNotes).map Event.logged
  match keywords.members? with
  | none => (.error (.setting (.noMembers keywords.kind)), notes)
  | some keywords =>
    match startLines w path encoding o with
    | (.error fault, events) => (.error fault, notes ++ events)
    | (.ok (texts, encoding), events) =>
      let events := notes ++ events
      match startMasker w path o with
      | (.error fault, more) => (.error (.delimiters fault), events ++ more.map .logged)
      | (.ok masker, more) =>
        let events := events ++ more.map .logged
        match build masker texts with
        | .error fault => (.error fault, events)
        | .ok lines =>
          (.ok ⟨.ofLines lines, path, encoding, masker, keywords⟩,
            events ++ [.note .debug
              ("FileModel: " ++ toString lines.length ++ " lines, masker " ++ masker.label ++
                ", path '" ++ pathText path ++ "'.")])

/-- Opens a session on given lines. The masker has to fit no lines at all as well. -/
def ofLines (w : Surroundings) (texts : List Text) (o : Opening) :
    Except SessionFault Session × List Event :=
  match start w { o with path := none, reading := false } with
  | (.error fault, events) => (.error fault, events)
  | (.ok session, events) =>
    match build session.masker texts with
    | .error fault => (.error fault, events)
    | .ok lines => (.ok { session with buffer := .ofLines lines }, events)

end Session

end Sightline
