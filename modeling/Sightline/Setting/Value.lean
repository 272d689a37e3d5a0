import Sightline.Setting.Moment
import Sightline.Text.Quoted

/-!
Values of settings: scalars, moments, lists and tables with text keys. A table keeps its entries in
the order in which they were first set; `get?` reads the first entry of a key and `set` replaces it
or adds one at the end.
-/
namespace Sightline

/-- How a table is written: as lines below a header, or between braces on one line. -/
inductive Style where
  | block
  | inline
  deriving DecidableEq, Repr, Inhabited

/-- A value of a settings document. A text that has surrogates in it is given by its code points. -/
inductive Value where
  | null
  | bool (b : Bool)
  | number (n : Number)
  | text (s : String)
  | points (s : List CodePoint)
  | moment (m : Moment)
  | list (items : List Value)
  | table (style : Style) (entries : List (String × Value))
  deriving Repr, Inhabited

/-- A table of settings. -/
abbrev Table := List (String × Value)

namespace Table

/-- The value of a key, if the table has one. -/
def get? (key : String) : Table → Option Value
  | [] => none
  | (name, value) :: rest => if name = key then some value else get? key rest

/-- The table with `value` at `key`. -/
def set (key : String) (value : Value) : Table → Table
  | [] => [(key, value)]
  | (name, old) :: rest =>
    if name = key then (name, value) :: rest else (name, old) :: set key value rest

/-- The keys of a table, in order. -/
def keys (t : Table) : List String := t.map Prod.fst

theorem get?_set_self (t : Table) (key : String) (value : Value) :
    get? key (set key value t) = some value := by
  induction t with
  | nil => simp [set, get?]
  | cons entry rest ih =>
    obtain ⟨name, old⟩ := entry
    by_cases h : name = key <;> simp [set, get?, h, ih]

theorem get?_set_of_ne (t : Table) {key other : String} (value : Value) (h : other ≠ key) :
    get? other (set key value t) = get? other t := by
  induction t with
  | nil => simp [set, get?, h.symm]
  | cons entry rest ih =>
    obtain ⟨name, old⟩ := entry
    by_cases hKey : name = key
    · subst hKey
      simp [set, get?, h.symm]
    · simp [set, get?, hKey, ih]

end Table

namespace Value

/-- A whole number as a setting. -/
def whole (n : Int) : Value := .number (.whole n)

/-- The text of some code points. -/
def ofPoints (s : List CodePoint) : Value :=
  if s.all fun p => p.character?.isSome then .text (String.ofList (CodePoint.characters s))
  else .points s

theorem ofPoints_ofText (s : Text) : ofPoints (CodePoint.ofText s) = .text (String.ofList s) := by
  have h : (CodePoint.ofText s).all (fun p => p.character?.isSome) = true := by
    simp [CodePoint.ofText, CodePoint.character?]
  rw [ofPoints, if_pos h, CodePoint.characters_ofText]

/-- The word for the kind of a value in the wording of faults. -/
def kind : Value → String
  | null => "NoneType"
  | bool _ => "bool"
  | number n => n.kind
  | text _ => "str"
  | points _ => "str"
  | moment m => m.kind
  | list _ => "list"
  | table .block _ => "dict"
  | table .inline _ => "DynamicInlineTableDict"

/-- Whether a switch with this value is on: everything but nothing, zero and emptiness. -/
def isOn : Value → Bool
  | null => false
  | bool b => b
  | number n => !n.isZero
  | text s => !s.isEmpty
  | points s => !s.isEmpty
  | moment _ => true
  | list items => !items.isEmpty
  | table _ entries => !entries.isEmpty

/-- A value as a number; a truth value counts as one or zero. -/
def asNumber? : Value → Option Number
  | bool b => some (.whole (if b then 1 else 0))
  | number n => some n
  | _ => none

/-- The text of a number. -/
def numberText : Number → String
  | .whole n => toString n
  | .floating x => x.toShortest

mutual

/-- The written form of a value inside a message. -/
def written : Value → String
  | null => "None"
  | bool b => if b then "True" else "False"
  | number n => numberText n
  | text s => Text.quoteString s
  | points s => Text.quotePoints s
  | moment m => m.written
  | list items => "[" ++ writtenItems items ++ "]"
  | table _ entries => "\x7b" ++ writtenEntries entries ++ "\x7d"

/-- The written forms of the items of a list, separated by commas. -/
def writtenItems : List Value → String
  | [] => ""
  | [v] => written v
  | v :: w :: rest => written v ++ ", " ++ writtenItems (w :: rest)

/-- The written forms of the entries of a table, separated by commas. -/
def writtenEntries : List (String × Value) → String
  | [] => ""
  | [(key, v)] => Text.quoteString key ++ ": " ++ written v
  | (key, v) :: entry :: rest =>
    Text.quoteString key ++ ": " ++ written v ++ ", " ++ writtenEntries (entry :: rest)

end

mutual

/-- Whether every whole number in a value has a decimal numeral, so that the value has a written
form. -/
def isWritable : Value → Bool
  | number (.whole n) => Numeral.isWritable n
  | list items => areWritable items
  | table _ entries => haveWritable entries
  | _ => true

/-- Whether all items of a list have a written form. -/
def areWritable : List Value → Bool
  | [] => true
  | v :: rest => isWritable v && areWritable rest

/-- Whether all entries of a table have a written form. -/
def haveWritable : List (String × Value) → Bool
  | [] => true
  | (_, v) :: rest => isWritable v && haveWritable rest

end

/-- The value as the plain text a format of messages takes: a text and a moment as they are,
anything else in its written form. -/
def display : Value → String
  | text s => s
  | moment m => m.text
  | v => written v

/-- The members of a value that can be walked over: the characters of a text, the items of a list,
the keys of a table. -/
def members? : Value → Option (List Value)
  | text s => some (s.toList.map fun c => text (String.singleton c))
  | points s => some (s.map fun p => ofPoints [p])
  | list items => some items
  | table _ entries => some (entries.map fun entry => text entry.1)
  | _ => none

end Value

end Sightline
