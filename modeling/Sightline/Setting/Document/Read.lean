import Sightline.Setting.Document.Header
import Sightline.Setting.Document.Outline

/-!
The second reading of a settings document, line by line over its outline: headers choose the table
that the assignments below them go to, and a text that is not closed on its line takes in the lines
below it.
-/
namespace Sightline.Setting.Document

/-- What has been read: the whole, the steps that lead to the table of the last header, the names of
tables that exist only because a header led through them, and the text that is open. -/
structure State where
  all : Value
  here : List Header.Step
  implied : List String
  openText : Option Part.OpenText
  deriving Repr

/-- The state before the first line. -/
def State.start : State := ⟨.table .block [], [], [], none⟩

/-- Changes the table of the last header. -/
def State.change (s : State) (f : Value → Except PartFault (Value × Option Part.OpenText)) :
    Except PartFault State :=
  (Header.along f s.here s.all).map fun (all, openText) => { s with all, openText }

/-- One line of an outline, where no text is open. -/
def readLine (s : State) (line : Text) : Except PartFault State :=
  match Text.trim line with
  | [] => .ok s
  | '[' :: rest => do
    let header ← Header.read rest
    let opening ← Header.openFrom header.doubled s.implied header.names s.all
    return { s with all := opening.value, here := opening.steps, implied := opening.implied }
  | c :: rest =>
    let line := c :: rest
    if c = '{' then
      if line.getLast? != some '}' then .error (.problem .brokenInline)
      else s.change fun v =>
        (Part.assignInline (Part.reader line) line v).map fun v => (v, none)
    else if line.contains '=' then s.change (Part.assign (Part.reader line) line)
    else .ok s

/-- Whether a line closes the text that it is the end of. -/
def closes (text line : Text) : Except PartFault Bool :=
  match text with
  | '[' :: _ =>
    match line.getLast? with
    | none => .error (.breach .shortText)
    | some c => .ok (c = ']')
  | c :: _ => .ok (line.reverse.take 3 = [c, c, c])
  | [] => .ok false

/-- One line of an outline, where a text is open. Blanks around the line count only behind a line
end that is part of the text. -/
def readOpen (s : State) (o : Part.OpenText) (line : Text) : Except PartFault State := do
  let line := if o.joined || !o.text.contains '\n' then Text.trim line else line
  if line.isEmpty && o.joined then return s
  let text := o.text ++ line
  if ← closes text line then
    let (value, _) ← Part.reader text text true
    s.change fun
      | .table style entries => .ok (.table style (Table.set o.name value entries), none)
      | _ => .error (.problem .repeatedKey)
  else return { s with openText := some (Part.OpenText.start o.name text) }

/-- The lines of an outline, of which the first starts at an offset of the document. -/
def readLines (document : Text) : (offset : Nat) → State → List Text →
    Except DocumentFault State
  | _, s, [] => .ok s
  | offset, s, line :: lines =>
    match (match s.openText with
      | none => readLine s line
      | some o => readOpen s o line) with
    | .error fault => .error (.ofPart document offset fault)
    | .ok s => readLines document (offset + line.length + 1) s lines

/-- The table of a document. -/
def read (document : Text) : Except DocumentFault Table :=
  match Outline.ofText document with
  | .error (fault, offset) => .error (.ofPart document offset fault)
  | .ok outline =>
    (readLines document 0 .start (Text.splitOn '\n' outline)).map fun s =>
      match s.all with
      | .table _ entries => entries
      | _ => []

end Sightline.Setting.Document
