import Sightline.Text.Basic

/-!
Paths as text: their parts, the short form in which the library keeps a path, and the form with the
steps back taken out.
-/
namespace Sightline.Path

/-- The pieces of a path between its slashes. -/
def pieces (path : String) : List String :=
  (Text.splitOn '/' path.toList).map String.ofList

/-- The pieces in front of the last name among some, and an empty one that asks for a directory. -/
def directoryPieces (pieces : List String) : List String :=
  ((pieces.reverse.dropWhile (·.isEmpty)).drop 1).reverse ++ [""]

/-- The pieces that lead somewhere: neither empty nor a single dot. -/
def steps (path : String) : List String :=
  (pieces path).filter fun piece => piece != "" && piece != "."

/-- Pieces put together again. -/
def ofSteps (steps : List String) : String := "/".intercalate steps

/-- The root a path is counted from: none, one slash, or exactly two. -/
def root (path : String) : String :=
  match path.toList with
  | '/' :: '/' :: '/' :: _ => "/"
  | '/' :: '/' :: _ => "//"
  | '/' :: _ => "/"
  | _ => ""

/-- The short form of a path: no empty piece and no single dot. A step back is kept, since the
directory before it may not exist. -/
def shorten (path : String) : String :=
  let short := root path ++ ofSteps (steps path)
  if short.isEmpty then "." else short

/-- Steps with each step back taken out together with the step before it. -/
def collapse (steps : List String) : List String :=
  (steps.foldl (fun done step =>
    match step, done with
    | "..", last :: before => if last = ".." then step :: done else before
    | _, _ => step :: done) []).reverse

/-- What stands before the last slash of a path and what stands behind it; the slashes at the end
of the first part are dropped unless there is nothing else. -/
def split (path : String) : String × String :=
  let reversed := path.toList.reverse
  let tail := (reversed.takeWhile (· != '/')).reverse
  let head := reversed.dropWhile (· != '/')
  let bare := head.dropWhile (· == '/')
  (String.ofList (if bare.isEmpty then head.reverse else bare.reverse), String.ofList tail)

/-- The directory part of a path. -/
def directory (path : String) : String := (split path).1

end Sightline.Path
