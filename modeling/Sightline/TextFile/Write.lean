import Sightline.TextFile.Read

/-!
Writing lines to a text file. The file is emptied as soon as it is open, and the lines are handed to
the codec one by one, so one that cannot be encoded leaves what has been handed over before it in
the file.
-/
namespace Sightline.TextFile

/-- The pieces in which some lines are written: each line, and the line feed behind it. -/
def pieces (lines : List Text) : List Text := lines.flatMap fun line => [line, ['\n']]

/-- The octets that a codec hands over for some pieces behind those that are written, the last of
which comes first. The first piece that cannot be encoded ends them. -/
def encodePieces (codec : Codec) (written : List Text) :
    List Text → Bytes × Option Codec.EncodeFault
  | [] => ([], none)
  | piece :: rest =>
    match codec.encode written piece with
    | .error fault => ([], some fault)
    | .ok octets =>
      let (more, fault) := encodePieces codec (piece :: written) rest
      (octets ++ more, fault)

/-- The octets of a file with some lines. -/
def content (codec : Codec) (lines : List Text) : Bytes × Option Codec.EncodeFault :=
  encodePieces codec [] (pieces lines)

/-- Writes some lines to the file at `path`, and gives the store afterwards with what there is to
report. A name that no encoding can have is refused before the file is opened. -/
def write (codecs : Registry) (store : Store) (path : String) (lines : List Text)
    (encoding : Option String) : Store × Except FileFault Unit × List Event :=
  match encodingOf codecs encoding, store.openForWriting path with
  | .error (.setting fault), _ => (store, .error (.setting fault), [])
  | _, .error fault =>
    let fault := FileFault.path fault
    (store, .error fault,
      if fault.isPathRefusal then
        [.note .error ("Failed to write '" ++ path ++ "': " ++ fault.message)]
      else [])
  | .error fault, .ok here => (store.put here [], .error fault, [])
  | .ok codec, .ok here =>
    match content codec lines with
    | (octets, some fault) => (store.put here octets, .error (.encode fault), [])
    | (octets, none) =>
      (store.put here octets, .ok (),
        [.note .info ("Wrote " ++ toString lines.length ++ " lines to '" ++ path ++ "'.")])

end Sightline.TextFile
