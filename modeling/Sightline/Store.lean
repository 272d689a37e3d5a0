import Sightline.Record
import Sightline.Store.Path
import Sightline.Text.Quoted

/-!
The files an operation can reach: directories and files below one working directory, and how a path
leads to them. A path is followed step by step; every step needs a directory to start from, so a
step back behind a directory that is missing leads nowhere.
-/
namespace Sightline

/-- A place below the working directory, as the names that lead to it. -/
abbrev Location := List String

/-- Why a path cannot be used. -/
inductive PathFault where
  | noEntry (path : String)
  | exists_ (path : String)
  | notDirectory (path : String)
  | isDirectory (path : String)
  /-- The path, or a name in it, has more octets than the store allows. -/
  | longName (path : String)
  /-- The path holds the character with number zero. -/
  | nullCharacter
  deriving DecidableEq, Repr

namespace PathFault

/-- The wording of a fault. -/
def message : PathFault → String
  | noEntry path => "[Errno 2] No such file or directory: " ++ Text.quoteString path
  | exists_ path => "[Errno 17] File exists: " ++ Text.quoteString path
  | notDirectory path => "[Errno 20] Not a directory: " ++ Text.quoteString path
  | isDirectory path => "[Errno 21] Is a directory: " ++ Text.quoteString path
  | longName path => "[Errno 36] File name too long: " ++ Text.quoteString path
  | nullCharacter => "embedded null byte"

end PathFault

/-- The files and directories below a working directory, whose own path is `top`. -/
structure Store where
  top : String
  directories : List Location
  files : List (Location × Bytes)
  deriving Repr

/-- What stands at a place. -/
inductive Entry where
  | directory
  | file (content : Bytes)
  deriving DecidableEq, Repr

namespace Store

/-- A store with nothing in it. -/
def empty (top : String) : Store := ⟨top, [], []⟩

/-- The place one level up. Above the working directory there is nothing but directories. -/
def up (here : Location) : Location :=
  if here.all (· == "..") then ".." :: here else here.dropLast

/-- The content of the file at a place. -/
def content? (s : Store) (here : Location) : Option Bytes :=
  (s.files.find? fun file => file.1 == here).map Prod.snd

/-- What stands at a place, if anything does. -/
def entry? (s : Store) (here : Location) : Option Entry :=
  if here.all (· == "..") || s.directories.contains here then some .directory
  else (s.content? here).map .file

/-- The store with `content` in the file at a place. -/
def put (s : Store) (here : Location) (content : Bytes) : Store :=
  if (s.content? here).isSome then
    { s with files := s.files.map fun file => if file.1 == here then (here, content) else file }
  else { s with files := s.files ++ [(here, content)] }

/-- The most octets that a name may have. -/
def maxName : Nat := 255

/-- The most octets that a path may have. -/
def maxPath : Nat := 4095

/-- Follows pieces of a path from a place. The place that is reached need not exist. -/
def follow (s : Store) (path : String) (here : Location) :
    List String → Except PathFault Location
  | [] => .ok here
  | piece :: rest =>
    match s.entry? here with
    | some .directory =>
      if maxName < piece.utf8ByteSize then .error (.longName path)
      else
        follow s path
          (if piece = "" || piece = "." then here
            else if piece = ".." then up here
            else here ++ [piece])
          rest
    | some (.file _) => .error (.notDirectory path)
    | none => .error (.noEntry path)

/-- A path as seen from the working directory. -/
def relative (s : Store) (path : String) : String :=
  let inside := (s.top ++ "/").toList
  if inside.isPrefixOf path.toList then String.ofList (path.toList.drop inside.length)
  else if path = s.top then "." else path

/-- What is wrong with a path, wherever it leads. -/
def refusal? (path : String) : Option PathFault :=
  if Text.holdsNull path.toList then some .nullCharacter
  else if maxPath < path.utf8ByteSize then some (.longName path)
  else none

/-- The place that some of the pieces of a path lead to. Of the paths that start at the root of all
files, only the root itself and those through the working directory's own path lead anywhere. -/
def locateBy (s : Store) (pick : List String → List String) (path : String) :
    Except PathFault Location :=
  match refusal? path with
  | some fault => .error fault
  | none =>
    let inner := s.relative path
    if inner.isEmpty then .error (.noEntry path)
    else if inner.startsWith "/" then
      if (Path.steps inner).all (· == "..") then .ok [".."] else .error (.noEntry path)
    else s.follow path [] (pick (Path.pieces inner))

/-- The place a path leads to. -/
def locate (s : Store) (path : String) : Except PathFault Location := s.locateBy id path

/-- The full path of a place that is named from the working directory, without steps back. -/
def fullPath (s : Store) (path : String) : String :=
  let inner := s.relative path
  let steps := Path.collapse (Path.steps inner)
  if inner.startsWith "/" then Path.root inner ++ Path.ofSteps (steps.dropWhile (· == ".."))
  else Path.ofSteps (s.top :: steps)

/-- The place of an existing file and its content. -/
def openFile (s : Store) (path : String) : Except PathFault (Location × Bytes) :=
  match s.locate path with
  | .error fault => .error fault
  | .ok here =>
    match s.entry? here with
    | some (.file content) => .ok (here, content)
    | some .directory => .error (.isDirectory path)
    | none => .error (.noEntry path)

/-- The content of a file. -/
def read (s : Store) (path : String) : Except PathFault Bytes :=
  (s.openFile path).map Prod.snd

/-- The place of a file that is to be written, which need not exist yet. A path with a slash behind
its last name stands for a directory, whatever the name is. -/
def openForWriting (s : Store) (path : String) : Except PathFault Location :=
  if path.endsWith "/" then
    match s.locateBy Path.directoryPieces path with
    | .error fault => .error fault
    | .ok _ => .error (.isDirectory path)
  else
    match s.locate path with
    | .error fault => .error fault
    | .ok here =>
      match s.entry? here with
      | some .directory => .error (.isDirectory path)
      | _ => .ok here

/-- Whether something stands where a path leads. -/
def exists? (s : Store) (path : String) : Bool :=
  match s.locate path with
  | .ok here => (s.entry? here).isSome
  | .error _ => false

/-- Whether a file stands where a path leads. A path that is too long does not even tell that. -/
def isFile (s : Store) (path : String) : Except PathFault Bool :=
  match s.openFile path with
  | .ok _ => .ok true
  | .error (.longName path) => .error (.longName path)
  | .error _ => .ok false

/-- Makes one directory. -/
def makeDirectory (s : Store) (path : String) : Except PathFault Store :=
  match s.locate path with
  | .error fault => .error fault
  | .ok here =>
    if (s.entry? here).isSome then .error (.exists_ path)
    else .ok { s with directories := s.directories ++ [here] }

end Store

end Sightline
