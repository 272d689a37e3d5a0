import Sightline.Setting.Value

/-!
The delimiters that hide text, and how a set of them is written: as one text with the tokens back
to back, or as a list of tokens. Both readings refuse anything else and the empty set.
-/
namespace Sightline

/-- What opens hidden text. -/
inductive Delimiter where
  | lineComment
  | blockComment
  | doubleQuote
  | singleQuote
  deriving DecidableEq, Repr, Inhabited

namespace Delimiter

/-- The token of a delimiter. -/
def token : Delimiter → Text
  | lineComment => ['/', '/']
  | blockComment => ['/', '*']
  | doubleQuote => ['"']
  | singleQuote => ['\'']

/-- All delimiters, in the order in which they are offered. -/
def all : List Delimiter := [lineComment, blockComment, doubleQuote, singleQuote]

/-- The delimiter that a token stands for. -/
def ofToken? (s : Text) : Option Delimiter := all.find? fun d => d.token = s

/-- The delimiter a text starts with, and the text after its token. -/
def read? : Text → Option (Delimiter × Text)
  | '/' :: '/' :: rest => some (lineComment, rest)
  | '/' :: '*' :: rest => some (blockComment, rest)
  | '"' :: rest => some (doubleQuote, rest)
  | '\'' :: rest => some (singleQuote, rest)
  | _ => none

theorem eq_token_append_of_read? {s rest : Text} {d : Delimiter} (h : read? s = some (d, rest)) :
    s = d.token ++ rest := by
  unfold read? at h
  split at h
  · cases h
    rfl
  · cases h
    rfl
  · cases h
    rfl
  · cases h
    rfl
  · cases h

theorem length_lt_of_read? {s rest : Text} {d : Delimiter} (h : read? s = some (d, rest)) :
    rest.length < s.length := by
  rw [eq_token_append_of_read? h, List.length_append]
  cases d <;> simp only [token, List.length_cons, List.length_nil] <;> omega

end Delimiter

/-- A set of delimiters, by membership. -/
structure DelimiterSet where
  lineComment : Bool
  blockComment : Bool
  doubleQuote : Bool
  singleQuote : Bool
  deriving DecidableEq, Repr, Inhabited

/-- Why a set of delimiters is refused. -/
inductive DelimiterFault where
  /-- A text has no token at this offset. -/
  | strangeOffset (offset : Nat) (spec : Value)
  /-- A list has these items that are no tokens. -/
  | strangeItems (items : List Value)
  /-- No token at all. -/
  | empty
  /-- A value of this kind has no members. -/
  | noMembers (kind : String)
  /-- The items that are no tokens have no written form to be told with. -/
  | unwritable
  deriving Repr

namespace DelimiterSet

/-- Membership. -/
def has (ds : DelimiterSet) : Delimiter → Bool
  | .lineComment => ds.lineComment
  | .blockComment => ds.blockComment
  | .doubleQuote => ds.doubleQuote
  | .singleQuote => ds.singleQuote

/-- The set of the delimiters in a list. -/
def ofList (ds : List Delimiter) : DelimiterSet :=
  ⟨ds.contains .lineComment, ds.contains .blockComment, ds.contains .doubleQuote,
    ds.contains .singleQuote⟩

theorem has_ofList (ds : List Delimiter) (d : Delimiter) : (ofList ds).has d = ds.contains d := by
  cases d <;> rfl

/-- The members, in the order of their tokens by code point. -/
def toList (ds : DelimiterSet) : List Delimiter :=
  [Delimiter.doubleQuote, .singleQuote, .blockComment, .lineComment].filter ds.has

/-- The set that holds where none is given. -/
def standard : DelimiterSet := ofList [.lineComment, .blockComment, .doubleQuote]

/-- The tokens written back to back from `offset` on, or the offset at which no token stands. -/
def readTokens (s : Text) (offset : Nat) : Except Nat (List Delimiter) :=
  match s with
  | [] => .ok []
  | c :: rest =>
    match h : Delimiter.read? (c :: rest) with
    | none => .error offset
    | some (d, after) =>
      have : after.length < (c :: rest).length := Delimiter.length_lt_of_read? h
      (readTokens after (offset + d.token.length)).map (d :: ·)
  termination_by s.length
  decreasing_by exact this

/-- The set of some tokens, which must not be none at all. -/
def ofTokens (ds : List Delimiter) : Except DelimiterFault DelimiterSet :=
  if ds.isEmpty then .error .empty else .ok (ofList ds)

/-- The set that a text of tokens written back to back stands for. -/
def ofText (s : Text) : Except DelimiterFault DelimiterSet :=
  match readTokens s 0 with
  | .ok ds => ofTokens ds
  | .error offset => .error (.strangeOffset offset (.text (String.ofList s)))

/-- The set that some code points stand for. A surrogate belongs to no token, so a blank stands for
it while the tokens are read. -/
def ofPoints (s : List CodePoint) : Except DelimiterFault DelimiterSet :=
  match readTokens (s.map fun p => p.character?.getD ' ') 0 with
  | .ok ds => ofTokens ds
  | .error offset => .error (.strangeOffset offset (.points s))

/-- The delimiter that an item of a list stands for. -/
def ofItem? : Value → Option Delimiter
  | .text s => Delimiter.ofToken? s.toList
  | _ => none

/-- The set that a list of tokens stands for. -/
def ofItems (items : List Value) : Except DelimiterFault DelimiterSet :=
  match items.filter fun v => (ofItem? v).isNone with
  | [] => ofTokens (items.filterMap ofItem?)
  | strange =>
    .error (if (Value.list strange).isWritable then .strangeItems strange else .unwritable)

/-- The set that a value stands for; no value stands for the standard set. -/
def ofValue : Value → Except DelimiterFault DelimiterSet
  | .null => .ok standard
  | .text s => ofText s.toList
  | .points s => ofPoints s
  | v => match v.members? with
    | some items => ofItems items
    | none => .error (.noMembers v.kind)

end DelimiterSet

namespace DelimiterFault

/-- What may stand in a set of delimiters, as it is told to whoever wrote something else. -/
def expectation : String :=
  "expected any of (" ++
    ", ".intercalate (Delimiter.all.map fun d => Text.quote d.token) ++ ")"

/-- The wording of a fault. -/
def message : DelimiterFault → String
  | strangeOffset offset spec =>
    "Unknown delimiter at offset " ++ toString offset ++ " of " ++ spec.written ++ "; " ++
      expectation
  | strangeItems items =>
    "Unknown delimiters " ++ (Value.list items).written ++ "; " ++ expectation
  | empty => "Delimiter set is empty"
  | noMembers kind => "'" ++ kind ++ "' object is not iterable"
  | unwritable => Numeral.unwritable

end DelimiterFault

end Sightline
