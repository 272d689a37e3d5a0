import Sightline.Codec.Encoding
import Sightline.Setting.Document.Read
import Sightline.Setting.Lookup
import Sightline.Store
import Sightline.Text.Newline

/-!
Loading the settings: the embedded ones, overlaid with a document if there is one. What makes a
document of the octets of a file is handed to the loading. A document that breaks the rules is
reported and left aside.
-/
namespace Sightline.Setting

/-- Why the octets of a file are not read as a settings document. -/
inductive ReaderFault where
  /-- The octets are no text. -/
  | decode (fault : Codec.DecodeFault)
  /-- The document breaks a rule, as the reader tells. -/
  | problem (message : String)
  /-- The reader itself comes to grief, with an error of this kind. -/
  | breach (kind message : String)
  deriving DecidableEq, Repr

/-- Something that reads the octets of a file as a settings document. -/
abbrev Reader := Bytes → Except ReaderFault Table

/-- Why settings could not be loaded. -/
inductive LoadFault where
  /-- The path cannot even be looked up. -/
  | lookup (fault : PathFault)
  | path (fault : PathFault)
  | reader (fault : ReaderFault)
  deriving DecidableEq, Repr

namespace ReaderFault

/-- The wording of a fault. -/
def message : ReaderFault → String
  | decode fault => fault.message
  | problem message => message
  | breach _ message => message

/-- The fault of a document whose text could be read. -/
def ofDocument : DocumentFault → ReaderFault
  | .problem p place => .problem (DocumentFault.problem p place).message
  | .breach b => .breach b.kind b.message

end ReaderFault

/-- The reader of documents in UTF-8. -/
def Document.reader : Reader := fun octets =>
  match Encoding.decodeWhole octets with
  | .error fault => .error (.decode fault)
  | .ok s => (Document.read (Text.normalizeEnds s)).mapError .ofDocument

namespace LoadFault

/-- The wording of a fault. -/
def message : LoadFault → String
  | lookup fault => fault.message
  | path fault => fault.message
  | reader fault => fault.message

/-- A fault that is reported instead of ending the loading. -/
def isReported : LoadFault → Bool
  | lookup _ => false
  | path _ => true
  | reader (.problem _) => true
  | reader _ => false

end LoadFault

/-- The path of the document that is loaded when no other is named. -/
def userPath : String := "user-config.toml"

/-- The table of the document at a path. -/
def readDocument (reader : Reader) (store : Store) (path : String) : Except LoadFault Table :=
  match store.read path with
  | .error fault => .error (.path fault)
  | .ok octets => (reader octets).mapError .reader

/-- The settings with the document at a path, or the user's own, laid over the embedded ones, and
what there is to report. -/
def load (reader : Reader) (store : Store) (path : Option String) :
    Except LoadFault Table × List Record :=
  let path := Path.shorten (path.getD userPath)
  let start := Record.note .debug "Loaded embedded default configuration."
  match store.isFile path with
  | .error fault => (.error (.lookup fault), [start])
  | .ok false => (.ok defaults, [start])
  | .ok true =>
    match readDocument reader store path with
    | .ok t =>
      (.ok (Table.merge defaults t),
        [start, .note .info ("Successfully loaded and merged user config from " ++ path)])
    | .error fault =>
      if fault.isReported then
        (.ok defaults,
          [start, .note .error ("Could not parse user config '" ++ path ++ "': " ++
            fault.message ++ ". Using defaults.")])
      else (.error fault, [start])

end Sightline.Setting
