import Sightline.Setting.Document.Fault
import Sightline.Text.Category

/-!
The first reading of a settings document, character by character: comments are blanked, the line
ends inside a list are turned into blanks, and keys and quotes are checked. What comes out has the
length of the document, so offsets in it are offsets in the document.
-/
namespace Sightline.Setting.Outline

/-- Where the reader stands with regard to a key. -/
inductive KeyPhase where
  | outside
  | inside
  /-- Behind the key, before the equals sign. -/
  | behind
  deriving DecidableEq, Repr

/-- The brackets of a header that is open. -/
inductive Brackets where
  | none
  | single
  | double
  deriving DecidableEq, Repr

/-- What the reader keeps in mind. -/
structure State where
  /-- What has been put out, the latest first. Below it lies the document itself, its end first:
  who looks back past the first character meets the last. -/
  out : Text
  phase : KeyPhase
  /-- The key has a dot. -/
  dotted : Bool
  /-- The mark of the string that is open. -/
  quote : Option Char
  /-- The number of times that three marks in a row have been met is odd. -/
  long : Bool
  /-- How many lists are open. -/
  depth : Int
  header : Brackets
  /-- Nothing but blanks so far on this line. -/
  lineStart : Bool
  comment : Bool
  deriving Repr

/-- The state before the first character. -/
def State.start (document : Text) : State :=
  ⟨document.reverse, .outside, false, none, false, 0, .none, true, false⟩

/-- Whether the number of backslashes at the start of a text is odd. -/
def startsEscaped (s : Text) : Bool := (s.takeWhile (· == '\\')).length % 2 == 1

/-- A character as it is. -/
def State.emit (s : State) (c : Char) : State := { s with out := c :: s.out }

/-- What a dot in a key leads to: back into the key, unless a blank or another dot comes next. The
character behind it is needed to tell. -/
def afterDot (s : State) (next : Option Char) : Except PartFault (Option State) :=
  match next with
  | none => .error (.breach .shortList)
  | some d => .ok (some (if Text.isBlank d || d = '.' then s else { s with phase := .inside }))

/-- What a key makes of its next character: another state, or nothing if the key ends here. -/
def keyStep (s : State) (c : Char) (next : Option Char) : Except PartFault (Option State) :=
  if c = '\n' then .error (.problem (.keyAlone false))
  else match s.quote with
    | some mark =>
      if c = mark && !startsEscaped s.out then
        .ok (some { s.emit c with phase := .behind, quote := none })
      else .ok (some (s.emit c))
    | none =>
      let close : Except PartFault (Option State) :=
        if c = '=' then .ok none else .error (.problem (.strangeKeyCharacter c))
      match s.phase with
      | .inside =>
        if Text.isBlank c then .ok (some { s.emit c with phase := .behind })
        else if c = '.' then .ok (some { s.emit c with dotted := true })
        else if Text.isWord c || c = '_' || c = '-' then .ok (some (s.emit c))
        else if s.dotted && s.out.head? = some '.' && (c = '"' || c = '\'') then
          .ok (some { s.emit c with quote := some c })
        else close
      | _ =>
        if Text.isBlank c then
          if s.dotted then afterDot (s.emit c) next else .ok (some (s.emit c))
        else if c = '.' then afterDot { s.emit c with dotted := true } next
        else close

/-- Opens or closes a string at a mark. Three marks in a row open a long string, or close it. -/
def State.turn (s : State) (mark : Char) (triple : Bool) : State :=
  let long := if triple then !s.long else s.long
  let isOpen := if triple then long else s.quote.isNone
  { s with long, quote := if isOpen then some mark else none }

/-- The number of times that a mark stands right before here, up to two. -/
def State.marksBefore (s : State) (mark : Char) : Nat :=
  ((s.out.take 2).takeWhile (· == mark)).length

/-- What a character means for the strings. A double mark behind a backslash means nothing, unless
it is the second of a row. -/
def quoteStep (s : State) (c : Char) : State :=
  if c = '\'' && s.quote != some '"' then s.turn c (s.marksBefore c = 2)
  else if c = '"' && s.quote != some '\'' then
    let before := s.marksBefore c
    if before != 1 && startsEscaped (s.out.drop before) then s else s.turn c (before = 2)
  else s

/-- Brackets, which open and close headers and lists. -/
def bracketStep (s : State) (c : Char) (next : Option Char) : State :=
  if s.quote.isSome then s
  else if c = '[' && s.header = .none then
    if s.lineStart then { s with header := if next = some '[' then .double else .single }
    else { s with depth := s.depth + 1 }
  else if c = ']' then
    match s.header with
    | .single => { s with header := .none }
    | .double => if s.out.head? = some ']' then { s with header := .none } else s
    | .none => { s with depth := s.depth - 1 }
  else s

/-- The end of a line inside a long string. Right behind two marks it is given up for a third one,
and the first of three becomes a blank. -/
def longLineEnd (s : State) : State :=
  match s.out with
  | a :: b :: rest =>
    if (a = '"' || a = '\'') && b = a then
      let rest := match rest with
        | d :: more => if d = a then ' ' :: more else rest
        | [] => []
      { s with out := a :: a :: b :: rest }
    else s.emit '\n'
  | _ => s.emit '\n'

/-- One character outside keys. -/
def plainStep (s : State) (c : Char) (next : Option Char) : Except PartFault State :=
  let s := quoteStep s c
  let s := { s with comment := s.comment || (c = '#' && s.quote.isNone && s.header = .none) }
  let s := bracketStep s c next
  if c = '\n' then
    let s := { s with comment := false }
    if s.long then .ok (longLineEnd s)
    else if s.quote.isSome then .error (.problem .openQuotes)
    else if s.depth != 0 then .ok (s.emit ' ')
    else .ok ({ s with lineStart := true }.emit '\n')
  else
    let c := if s.comment then ' ' else c
    if s.lineStart && c != ' ' && c != '\t' then
      if s.header != .none then .ok ({ s with lineStart := false }.emit c)
      else if c = '=' then .error (.problem .noKey)
      else .ok ({ s with lineStart := false, phase := .inside }.emit c)
    else .ok (s.emit c)

/-- One character; `next` is the one behind it. -/
def step (s : State) (c : Char) (next : Option Char) : Except PartFault State :=
  if s.comment && c != '\n' then .ok (s.emit ' ')
  else if s.phase = .outside then plainStep s c next
  else
    match keyStep s c next with
    | .error fault => .error fault
    | .ok (some s) => .ok s
    | .ok none => plainStep { s with phase := .outside, dotted := false } c next

/-- The characters from `offset` on. -/
def run (s : State) (offset : Nat) : Text → Except (PartFault × Nat) Text
  | [] =>
    if s.phase != .outside then .error (.problem (.keyAlone true), offset)
    else if s.quote.isSome then .error (.problem .openString, offset)
    else .ok (s.out.take offset).reverse
  | c :: rest =>
    match step s c rest.head? with
    | .error fault => .error (fault, offset)
    | .ok s => run s (offset + 1) rest

/-- The outline of a document. -/
def ofText (document : Text) : Except (PartFault × Nat) Text := run (.start document) 0 document

end Sightline.Setting.Outline
