import Sightline.Setting.Document.Literal

/-!
Values and assignments of a settings document. A value may hold values in turn, each a shorter
text, so reading to a depth of the length of the text reads everything.
-/
namespace Sightline.Setting.Part

/-- What the items of a list must have in common. -/
inductive Shape where
  | text
  | truth
  | whole
  | floating
  | clock
  | moment
  | list
  | table
  deriving DecidableEq, Repr

/-- Reads a value; the flag tells whether the zeroes and underscores of a number are in order. -/
abbrev Reader := Text → Bool → Except PartFault (Value × Shape)

/-- Whether a character opens a string. -/
def isQuote (c : Char) : Bool := c = '"' || c = '\''

/-- Joins pieces between single quotes to what stands behind the double quote after them, until the
single quotes come in pairs. The pieces done are given with the last first. -/
def pairSingles : (done : List Text) → List Text → List Text × List Text
  | done, [] => (done.reverse, [])
  | [], pieces => ([], pieces)
  | last :: before, piece :: pieces =>
    if before.length % 2 = 0 then ((last :: before).reverse, piece :: pieces)
    else
      pairSingles ((Text.splitOn '\'' (last ++ '"' :: piece)).reverse ++ before) pieces
  termination_by _ pieces => pieces.length

/-- The pieces of a text between its quotes, of which every other one is taken for quoted. A single
quote counts only in front of the first double one. -/
def quotePieces (s : Text) : List Text :=
  let (singles, pieces) :=
    match Text.splitOn '"' s with
    | first :: second :: pieces =>
      if first.contains '\'' then
        pairSingles (Text.splitOn '\'' first).reverse (second :: pieces)
      else ([], first :: second :: pieces)
    | pieces => ([], pieces)
  singles ++ match pieces with
    | [] => []
    | first :: rest => Text.splitOn '\'' first ++ rest

/-- How many times a sign stands in quoted pieces before the first piece that has it without being
quoted. -/
def quotedSigns (sign : Text) : (quoted : Bool) → List Text → Nat
  | _, [] => 0
  | quoted, piece :: pieces =>
    if !quoted && Text.holds piece sign then 0
    else Text.countOf sign piece + quotedSigns sign (!quoted) pieces

/-- How many times a sign stands between quotes before the first time that it does not. -/
def signsToSkip (sign s : Text) : Nat := quotedSigns sign false (quotePieces s)

/-- Cuts a text at an equals sign after skipping some, or at its last one. -/
def cutAtEquals (skip : Nat) (s : Text) : Option (Text × Text) :=
  Text.cutAt? ['='] (min skip (Text.countOf ['='] s - 1)) s

/-- Whether a text that stands right behind the equals sign can be a value as it is. -/
def canStandBare (s : Text) : Except PartFault Bool :=
  match s with
  | [] => .ok true
  | c :: _ =>
    if c = ' ' || c = '\t' || isQuote c || c = '[' || c = '{' ||
        Text.trim s = ['t', 'r', 'u', 'e'] || Text.trim s = ['f', 'a', 'l', 's', 'e'] ||
        (Numeral.floating? s).isSome then
      .ok true
    else
      (Literal.readMoment s).map fun moment =>
        moment.isSome || (Clock.readNumbers? s).isSome

/-- Key and value of an assignment, and whether the zeroes and underscores of the value are in
order. A value that cannot stand right behind its equals sign moves the cut to the next one. -/
def cutAssignment (line : Text) : (fuel skip : Nat) → (value : Option Text) → (tidy : Bool) →
    Except PartFault (Text × Text × Bool)
  | 0, _, _, _ => .error (.problem .strangeBareValue)
  | fuel + 1, skip, previous, tidy =>
    let (key, value) := (cutAtEquals skip line).getD ([], line)
    if previous = some value then .error (.problem .strangeBareValue)
    else
      let tidy := tidy && Literal.isTidy value
      let bare := if previous.isNone && value.head?.any Char.isDigit then
        value.filter (· != '_') else value
      match canStandBare bare with
      | .error fault => .error fault
      | .ok true => .ok (key, bare, tidy)
      | .ok false => cutAssignment line fuel (skip + 1) (some bare) tidy

/-- The pieces of a key between the dots outside quotes, of the pieces between its quotes. -/
def keyPieces : (quoted : Bool) → (pieces : List Text) → List Text
  | _, [] => []
  | true, piece :: pieces => piece :: keyPieces false pieces
  | false, piece :: pieces => (Text.splitOn '.' piece).map Text.trim ++ keyPieces true pieces

/-- The tables a key leads through, and the name under which its value stands. -/
def keyPath (key : Text) : Except PartFault (List String × String) :=
  if key.contains '.' then
    let pieces :=
      if key.any isQuote then keyPieces false (quotePieces key) else Text.splitOn '.' key
    match pieces.reverse.dropWhile (·.isEmpty) with
    | [] => .error (.breach .shortList)
    | last :: before =>
      .ok ((before.reverse.filter (!·.isEmpty)).map String.ofList, String.ofList (Text.trim last))
  else match key with
    | [] => .error (.breach .shortText)
    | c :: _ =>
      if isQuote c && key.getLast? = some c then
        (Literal.readName key).map fun name => ([], String.ofList name)
      else .ok ([], String.ofList key)

/-- What is wrong with looking for a name in a value that is no table. -/
def strayName (name : String) : Value → PartFault
  | .text s => .breach (if Text.holds s.toList name.toList then .textByName else .textChanged)
  | .points s => .breach (if CodePoint.holds s name.toList then .textByName else .textChanged)
  | .list _ => .breach .listByName
  | v => .breach (.noNames v.kind)

/-- Changes the value that some names lead to, making tables on the way where there is nothing. -/
def within {α : Type} (change : Value → Except PartFault (Value × α)) : List String → Value →
    Except PartFault (Value × α)
  | [], v => change v
  | name :: names, .table style entries => do
    let (inner, a) ← within change names ((Table.get? name entries).getD (.table .block []))
    return (.table style (Table.set name inner entries), a)
  | name :: _, v => .error (strayName name v)

/-- A text, or a list of texts, that is not closed on its line: the name it is to stand under, what
there is of it, and whether the line end behind it is taken out. -/
structure OpenText where
  name : String
  text : Text
  joined : Bool
  deriving Repr

/-- The last items of a list of strings that is not closed, from the last one that starts with a
quote. The pieces between its commas are given with the last first. -/
def lastStrings : List Text → Except PartFault Text
  | [] => .error (.breach .shortText)
  | [piece] => .ok piece
  | piece :: next :: pieces =>
    match piece with
    | [] => .error (.breach .shortText)
    | c :: _ => if isQuote c then .ok piece else lastStrings ((next ++ ',' :: piece) :: pieces)
  termination_by pieces => pieces.length

/-- Whether a text starts with three quotes of one kind and does not end with three of them. -/
def isLongOpen (s : Text) : Except PartFault Bool :=
  match s with
  | [] => .error (.breach .shortText)
  | c :: rest =>
    if !isQuote c then .ok false
    else match rest with
      | [] => .error (.breach .shortText)
      | [d] => if c = d then .error (.breach .shortText) else .ok false
      | d :: e :: more =>
        if d != c || e != c then .ok false
        else .ok (more.length < 3 || more.reverse.take 3 != [c, c, c])

/-- Whether the value goes on below its line. -/
def goesOn (value : Text) : Except PartFault Bool :=
  if value.length < 3 then .ok false
  else if value.head? = some '[' && value.getLast? != some ']' &&
      (Text.trim (Literal.inside value)).head?.any isQuote then do
    isLongOpen (← lastStrings (Text.splitOn ',' (Text.trim (value.drop 1))).reverse)
  else isLongOpen value

/-- The start of a text that goes on below its line, of what stands on the line. -/
def OpenText.start (name : String) (s : Text) : OpenText :=
  let joined := Literal.endsEscaped s
  ⟨name, if joined then s.dropLast else s ++ ['\n'], joined⟩

/-- Checks that nothing stands under a name yet, and gives the entries beside it. -/
def vacant (name : String) : Value → Except PartFault (Style × Table)
  | .table style entries =>
    if (Table.get? name entries).isSome then .error (.problem .repeatedKey)
    else .ok (style, entries)
  | _ => .error (.problem .repeatedKey)

/-- Adds an assignment to a value, which has to be a table. A text that is not closed on the line is
handed out instead of being put in. -/
def assign (read : Reader) (line : Text) (v : Value) :
    Except PartFault (Value × Option OpenText) := do
  let (key, value, tidy) ←
    cutAssignment line (line.length + 1) (signsToSkip ['='] line) none true
  let value := Text.trim value
  let (names, name) ← keyPath (Text.trim key)
  within (fun v => do
    if ← goesOn value then
      let _ ← vacant name v
      if name.isEmpty then throw (.breach .namelessText)
      return (v, some (OpenText.start name value))
    else
      let (inner, _) ← read value tidy
      let (style, entries) ← vacant name v
      return (.table style (Table.set name inner entries), none)) names v

/-- Whether a text between commas of an inline table can end in a whole value. -/
def endsInValue (value : Text) : Except PartFault Bool :=
  match value with
  | [] => .error (.breach .shortText)
  | c :: _ =>
    let last := value.getLast?
    .ok ((isQuote c && last = some c) || c = '-' || c.isDigit ||
      value = ['t', 'r', 'u', 'e'] || value = ['f', 'a', 'l', 's', 'e'] ||
      (c = '[' && last = some ']') || (c = '{' && last = some '}'))

/-- Puts the texts between the commas of an inline table together to assignments: one that does not
end in a whole value goes on behind its comma. -/
def gather : List Text → Except PartFault (List Text)
  | [] => .ok []
  | piece :: pieces => do
    let some (_, value) := cutAtEquals 0 piece | throw (.problem .inlineWithoutValue)
    if ← endsInValue (Text.trim value) then
      return piece :: (← gather pieces)
    else match pieces with
      | [] => throw (.problem .strangeInlineValue)
      | next :: pieces => gather ((piece ++ ',' :: next) :: pieces)
  termination_by pieces => pieces.length

/-- Adds assignments to a value, up to the first whose value is not closed. -/
def assignAll (read : Reader) : List Text → Value → Except PartFault Value
  | [], v => .ok v
  | line :: lines, v => do
    match ← assign read line v with
    | (v, none) => assignAll read lines v
    | (v, some _) => return v

/-- Adds the assignments of an inline table, which is given with its braces, to a value. -/
def assignInline (read : Reader) (s : Text) (v : Value) : Except PartFault Value := do
  let pieces := Text.splitOn ',' (Literal.inside s)
  let isBlank := pieces.length = 1 && pieces.all fun p => (Text.trim p).isEmpty
  assignAll read (← gather (if isBlank then [] else pieces)) v

/-- Whether a text ends in an unescaped quote of the kind it starts with, or in general in the
character it starts with. -/
def isBounded (s : Text) : Bool :=
  match s with
  | [] => true
  | c :: rest => s.getLast? = some c && !Literal.endsEscaped rest.dropLast

/-- Whether a text starts with a character three times and ends with it just once, so that it is the
first part of a long string. -/
def isLongStart (s : Text) : Bool :=
  match s with
  | a :: b :: c :: _ =>
    a = b && b = c && (s.reverse.drop 1).head? != some a && (s.reverse.drop 2).head? != some a
  | _ => false

/-- Whether a text can be an item of a list of strings as it is. -/
def isItem (s : Text) : Bool := isBounded s && !isLongStart s

/-- Puts the texts between the commas of a list of strings together to items. -/
def joinStrings : (merged : Bool) → List Text → Except PartFault (List Text)
  | _, [] => .ok []
  | merged, [piece] =>
    if merged && !isItem (Text.trim piece) then .error (.breach .shortList) else .ok [piece]
  | _, piece :: next :: pieces =>
    if isItem (Text.trim piece) then (joinStrings false (next :: pieces)).map (piece :: ·)
    else joinStrings true ((piece ++ ',' :: next) :: pieces)
  termination_by _ pieces => pieces.length

/-- The items of a list of lists: what stands between the commas outside inner brackets. -/
def splitNested (depth : Int) : Text → List Text
  | [] => [[]]
  | c :: rest =>
    if c = ',' && depth = 0 then [] :: splitNested depth rest
    else
      let depth := if c = '[' then depth + 1 else if c = ']' then depth - 1 else depth
      match splitNested depth rest with
      | [] => [[c]]
      | piece :: pieces => (c :: piece) :: pieces

/-- The items of a list of inline tables: each from a brace to the one that closes it. `item` holds
the item begun, the latest character first. -/
def splitTables (depth : Nat) (quoted : Bool) : (item : Option Text) → Text → List Text
  | _, [] => []
  | none, c :: rest =>
    if c = '{' then splitTables 1 quoted (some [c]) rest else splitTables depth quoted none rest
  | some item, c :: rest =>
    let quoted :=
      if isQuote c then
        if quoted && (item.takeWhile (· == '\\')).length % 2 == 1 then quoted else !quoted
      else quoted
    let depth := if !quoted && c = '{' then depth + 1 else depth
    if quoted || c != '}' then splitTables depth quoted (some (c :: item)) rest
    else if 1 < depth then splitTables (depth - 1) quoted (some (c :: item)) rest
    else (c :: item).reverse :: splitTables depth quoted none (rest.drop 1)
  termination_by _ s => s.length
  decreasing_by all_goals simp only [List.length_cons, List.length_drop]; omega

/-- The texts of the items of a list, which is given with its brackets. -/
def itemTexts (s : Text) : Except PartFault (List Text) :=
  let body := Literal.inside s
  if body.contains '[' && (Text.trim (body.takeWhile (· != '['))).isEmpty then
    .ok (splitNested 0 body)
  else
    let strings := (Text.trim body).head?.any isQuote
    let pieces :=
      if (Text.trim body).head? = some '{' then
        match body with
        | [] => []
        | c :: rest => splitTables (if c = '{' then 1 else 0) false (some [c]) rest
      else Text.splitOn ',' body
    if strings then joinStrings false pieces else .ok pieces

/-- The items of a list, all of one shape. Blank items are passed over. -/
def readItems (read : Reader) : (shape : Option Shape) → List Text →
    Except PartFault (List Value)
  | _, [] => .ok []
  | shape, item :: items => do
    let item := Text.trim item
    if item.isEmpty then readItems read shape items
    else
      let (value, itemShape) ← read item true
      if shape.any (· != itemShape) then throw (.problem .mixedList)
      return value :: (← readItems read (some itemShape) items)

/-- The shape of a number. -/
def numberShape : Number → Shape
  | .whole _ => .whole
  | .floating _ => .floating

/-- Reads a value, down to a depth. -/
def readValue : (depth : Nat) → Reader
  | 0, _, _ => .error (.problem .noValue)
  | depth + 1, s, tidy =>
    match s with
    | [] => .error (.problem .noValue)
    | c :: _ => do
      let word := Text.lower s
      if s = ['t', 'r', 'u', 'e'] then return (.bool true, .truth)
      if word = ['t', 'r', 'u', 'e'] then throw (.problem .capitalBoolean)
      if s = ['f', 'a', 'l', 's', 'e'] then return (.bool false, .truth)
      if word = ['f', 'a', 'l', 's', 'e'] then throw (.problem .capitalBoolean)
      if isQuote c then
        return (.ofPoints (← Literal.readString s), .text)
      if c = '[' then
        return (.list (← readItems (readValue depth) none (← itemTexts s)), .list)
      if c = '{' then
        return (← assignInline (readValue depth) s (.table .inline []), .table)
      if let some clock ← Literal.readClock s then return (.moment (.clock clock), .clock)
      if let some moment ← Literal.readMoment s then return (.moment moment, .moment)
      let n ← Literal.readNumber s tidy
      return (.number n, numberShape n)

/-- Reads values of any depth that a text can have. -/
def reader (line : Text) : Reader := readValue (line.length + 1)

end Sightline.Setting.Part
