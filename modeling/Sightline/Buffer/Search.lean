import Sightline.Buffer.Basic
import Sightline.Setting.Value

/-!
Searches. A search looks at views only, starts on the cursor's own line, and moves the cursor to the
nearest line in its direction that fits, or past that end of the buffer.
-/
namespace Sightline

/-- Why a search for candidates fails that stand in a settings document. -/
inductive CandidateFault where
  /-- A candidate is no text. -/
  | misfit (v : Value)
  /-- Nothing is found, and the candidates have no written form to report that with. -/
  | unwritable
  deriving Repr

/-- The buffer behind a search that fails. The cursor has moved if all lines had been tried. -/
def CandidateFault.leave (b : Buffer) : CandidateFault → Buffer
  | misfit _ => b
  | unwritable => { b with position := b.size }

namespace Buffer

/-- Moves forward to the first line whose view fits. -/
def forward (fits : Text → Bool) (b : Buffer) : Buffer × Option Nat :=
  let start := b.position.toNat
  match (b.lines.drop start).findIdx? fun line => fits line.view with
  | some k => ({ b with position := start + k }, some (start + k))
  | none => ({ b with position := b.size }, none)

/-- Moves backward to the nearest line whose view fits. -/
def backward (fits : Text → Bool) (b : Buffer) : Buffer × Option Nat :=
  let count := (min (b.position + 1) b.size).toNat
  match (b.lines.take count).reverse.findIdx? fun line => fits line.view with
  | some k => ({ b with position := (count - 1 - k : Nat) }, some (count - 1 - k))
  | none => ({ b with position := -1 }, none)

/-- A view that has a text somewhere. -/
def having (s : Text) (view : Text) : Bool := Text.holds view s

/-- A view that is a text but for the blanks at its ends. -/
def being (s : Text) (view : Text) : Bool := Text.trim view = s

/-- A view that has one of some texts somewhere. -/
def havingAny (candidates : List Text) (view : Text) : Bool :=
  candidates.any fun s => Text.holds view s

/-- Reports a search and the index it found. -/
def searchRecord (name : String) (s : Text) (found : Option Nat) : Record :=
  .note .debug (name ++ "(" ++ Text.quote s ++ ") -> " ++
    match found with
    | some index => toString index
    | none => "None")

/-- A search that reports itself under a name. -/
def reported (name : String) (s : Text) (search : Buffer × Option Nat) : Step (Option Nat) :=
  ⟨search.1, search.2, [searchRecord name s search.2]⟩

/-- Moves forward to the first line that has a text. -/
def seekHaving (s : Text) (b : Buffer) : Step (Option Nat) :=
  reported "find_line_contains" s (forward (having s) b)

/-- Moves backward to the nearest line that has a text. -/
def seekBackHaving (s : Text) (b : Buffer) : Step (Option Nat) :=
  reported "find_prev_line_contains" s (backward (having s) b)

/-- Moves forward to the first line that is a text, blanks at its ends aside. -/
def seekBeing (s : Text) (b : Buffer) : Step (Option Nat) :=
  reported "find_line_is" s (forward (being s) b)

/-- Moves backward to the nearest line that is a text, blanks at its ends aside. -/
def seekBackBeing (s : Text) (b : Buffer) : Step (Option Nat) :=
  reported "find_prev_line_is" s (backward (being s) b)

/-- Reports that no line has one of some candidates. -/
def missRecord (candidates : List Value) : Record :=
  .note .debug ("find_line_contains_any(" ++ (Value.list candidates).written ++ ") -> None")

/-- Moves forward to the first line that has one of some texts, and answers the first of them that
it has. Only a search that finds nothing is reported, with the candidates as they are shown. -/
def seekShown (shown : List Value) (candidates : List Text) (b : Buffer) : Step (Option Text) :=
  match forward (havingAny candidates) b with
  | (b, some index) =>
    ⟨b, (b.line? index).bind fun line => candidates.find? fun s => Text.holds line.view s, []⟩
  | (b, none) => ⟨b, none, [missRecord shown]⟩

/-- Moves forward to the first line that has one of some texts, and answers the first of them that
it has. -/
def seekAny (candidates : List Text) (b : Buffer) : Step (Option Text) :=
  seekShown (candidates.map fun s => .text (String.ofList s)) candidates b

/-- The texts in front of the first candidate that is none. One with surrogates is left out, since
no view has it. -/
def leadingTexts : List Value → List Text
  | .text s :: rest => s.toList :: leadingTexts rest
  | .points _ :: rest => leadingTexts rest
  | _ => []

/-- The first candidate that is no text. -/
def misfit? : List Value → Option Value
  | [] => none
  | .text _ :: rest => misfit? rest
  | .points _ :: rest => misfit? rest
  | v :: _ => some v

/-- A search for candidates as they stand in a settings document, of which one may be no text. A
line is tried with the candidates in order, so the misfit stops the search on the first line tried
unless that line has a text in front of it. Without a line to try, nothing is found, and that has
to be reported with the candidates. -/
def seekCandidates (candidates : List Value) (b : Buffer) :
    Except CandidateFault (Step (Option Text)) :=
  match misfit? candidates with
  | none => .ok (b.seekShown candidates (leadingTexts candidates))
  | some v =>
    match b.lines[b.position.toNat]? with
    | none =>
      if (Value.list candidates).isWritable then
        .ok ⟨{ b with position := b.size }, none, [missRecord candidates]⟩
      else .error .unwritable
    | some line =>
      if havingAny (leadingTexts candidates) line.view then
        .ok (b.seekShown candidates (leadingTexts candidates))
      else .error (.misfit v)

end Buffer

end Sightline
