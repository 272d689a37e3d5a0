import Sightline.Setting.Document.Part

/-!
Headers of a settings document. A header names the table that the assignments below it go to, or,
between double brackets, a new last item of a list of tables. The way to that table leads through
entries of tables and through the last items of lists.
-/
namespace Sightline.Setting

/-- A header: its names, and whether it stands between double brackets. -/
structure Header where
  names : List String
  doubled : Bool
  deriving DecidableEq, Repr

namespace Header

/-- A step from a value to one inside it. -/
inductive Step where
  | entry (name : String)
  | lastItem
  deriving DecidableEq, Repr

/-- The last character of a text. -/
def lastCharacter? : Value → Option Value
  | .text s => s.toList.getLast?.map fun c => .text (String.singleton c)
  | .points s => s.getLast?.map fun p => .ofPoints [p]
  | _ => none

/-- Changes the value that some steps lead to. Steps that lead nowhere lead to nothing that could be
assigned to. -/
def along {α : Type} (change : Value → Except PartFault (Value × α)) : List Step → Value →
    Except PartFault (Value × α)
  | [], v => change v
  | .entry name :: steps, .table style entries =>
    match Table.get? name entries with
    | none => .error (.problem .repeatedKey)
    | some inner => do
      let (inner, a) ← along change steps inner
      return (.table style (Table.set name inner entries), a)
  | .lastItem :: steps, .list items =>
    match items.getLast? with
    | none => .error (.problem .repeatedKey)
    | some inner => do
      let (inner, a) ← along change steps inner
      return (.list (items.dropLast ++ [inner]), a)
  | .lastItem :: _, v =>
    match lastCharacter? v with
    | none => .error (.problem .repeatedKey)
    | some c => do
      let (_, a) ← change c
      return (v, a)
  | .entry _ :: _, _ => .error (.problem .repeatedKey)

/-- Whether a name may stand in a header without quotes. -/
def isPlainName (s : Text) : Bool :=
  !s.isEmpty && s.all fun c => c.isAlphanum || c = '_' || c = '-'

/-- Takes pieces of a header up to the one that closes the quote the first one opens. -/
def closeName (begun : Text) (pieces : List Text) : Except PartFault (Text × List Text) :=
  let name := Text.trim begun
  if name.head? = name.getLast? && name.length != 1 then .ok (Literal.inside name, pieces)
  else match pieces with
    | [] => .error (.problem (.openName (String.ofList name)))
    | piece :: rest => closeName (begun ++ '.' :: piece) rest
  termination_by pieces.length

theorem closeName_length {begun closed : Text} {pieces rest : List Text}
    (h : closeName begun pieces = .ok (closed, rest)) : rest.length ≤ pieces.length := by
  fun_induction closeName begun pieces with
  | case1 => simp_all
  | case2 => simp at h
  | case3 begun _ _ piece rest' ih =>
    have := ih h
    simp only [List.length_cons]
    omega

/-- The names in a header, from the pieces between its dots. -/
def readNames : List Text → Except PartFault (List String)
  | [] => .ok []
  | piece :: pieces =>
    let name := Text.trim piece
    if name.head?.any Part.isQuote then
      match h : closeName name pieces with
      | .error fault => .error fault
      | .ok (name, rest) =>
        have := closeName_length h
        (readNames rest).map (String.ofList name :: ·)
    else if isPlainName name then
      (readNames pieces).map (String.ofList name :: ·)
    else .error (.problem (.strangeName (String.ofList name)))
  termination_by pieces => pieces.length
  decreasing_by all_goals simp only [List.length_cons]; omega

/-- The header on a line, which is given without its first bracket. Nothing but blanks may stand
behind the brackets that close it. -/
def read (line : Text) : Except PartFault Header :=
  match line with
  | [] => .error (.problem .loneBracket)
  | c :: rest =>
    let doubled := c = '['
    let (closing, line) := if doubled then ([']', ']'], rest) else ([']'], line)
    match Text.cutAt? closing (Part.signsToSkip closing line) line with
    | none => .error (.problem .crowdedHeader)
    | some (body, after) =>
      if (Text.trim after).isEmpty then
        (readNames (Text.splitOn '.' body)).map fun names => ⟨names, doubled⟩
      else .error (.problem .crowdedHeader)

/-- What a header finds where its names lead: the value it has passed through with what it has put
in, the steps from there to its table, and the names that are tables only because a header led
through them. -/
structure Opening where
  value : Value
  steps : List Step
  implied : List String
  deriving Repr

/-- The opening seen from the value that has its value under a name. -/
def Opening.under (name : String) (style : Style) (entries : Table) (o : Opening) : Opening :=
  { o with value := .table style (Table.set name o.value entries), steps := .entry name :: o.steps }

/-- The opening seen from the list that has its value as the last item. -/
def Opening.last (items : List Value) (o : Opening) : Opening :=
  { o with value := .list (items.dropLast ++ [o.value]), steps := .lastItem :: o.steps }

/-- What a header puts under a name that is free: a table, or a list with one table as the last
name between double brackets. -/
def fresh (doubled isLast : Bool) : Value :=
  if doubled && isLast then .list [.table .block []] else .table .block []

/-- What the last name of a header does to the value that stands under it already. `around` is the
value that has the name. -/
def revisit (doubled : Bool) (implied : List String) (name : String) (around v : Value) :
    Except PartFault (Value × List String) :=
  if implied.contains name then
    if doubled then .error (.problem .impliedList) else .ok (v, implied.erase name)
  else if doubled then
    match v with
    | .list items => .ok (.list (items ++ [.table .block []]), implied)
    | v => .error (.breach (.noEnd v.kind))
  else if around.isWritable then .error (.problem (.repeatedTable name around.written))
  else .error (.breach .unwritable)

/-- Continues a header between double brackets behind a name: into the last item of a list. -/
def intoLast (proceed : Value → Except PartFault Opening) (v : Value) :
    Except PartFault Opening :=
  match v with
  | .list items =>
    match items.getLast? with
    | none => .error (.breach .shortList)
    | some item => (proceed item).map (Opening.last items)
  | .text _ | .points _ =>
    match lastCharacter? v with
    | none => .error (.breach .shortText)
    | some c => (proceed c).map fun o =>
        { o with value := v, steps := .lastItem :: o.steps }
  | .table _ _ => proceed v
  | v => .error (.breach (.noContents v.kind))

/-- The value in which a name is looked for where `v` itself is no table: the last item of a list,
or the last character of a text. A value that has no such part is refused. -/
def lastPart (v : Value) : Except PartFault Value :=
  match v with
  | .list items =>
    match items.getLast? with
    | none => .error (.breach .shortList)
    | some item => .ok item
  | .text _ | .points _ =>
    match lastCharacter? v with
    | none => .error (.breach .shortText)
    | some c => .ok c
  | v => .error (.breach (.noContents v.kind))

/-- Opens the table that the names of a header lead to from a value. A table that a header has named
before is refused, but for one that is only implied; inside a list it is taken as it is. -/
def openFrom (doubled : Bool) (implied : List String) : List String → Value →
    Except PartFault Opening
  | [], v => .ok ⟨v, [], implied⟩
  | name :: names, v => do
    if name.isEmpty then throw (.problem .noName)
    let proceed (implied : List String) (inner : Value) : Except PartFault Opening :=
      if doubled then intoLast (openFrom doubled implied names) inner
      else openFrom doubled implied names inner
    match v with
    | .table style entries =>
      match Table.get? name entries with
      | none =>
        let implied := if names.isEmpty then implied else implied ++ [name]
        return (← proceed implied (fresh doubled names.isEmpty)).under name style entries
      | some inner =>
        let (inner, implied) ←
          if names.isEmpty then revisit doubled implied name v inner else pure (inner, implied)
        return (← proceed implied inner).under name style entries
    | v =>
      match ← lastPart v with
      | .table style entries =>
        let inner := (Table.get? name entries).getD (fresh doubled names.isEmpty)
        let opening := (← proceed implied inner).under name style entries
        match v with
        | .list items => return opening.last items
        | _ => return opening
      | part => throw (Part.strayName name part)

end Header

end Sightline.Setting
