import Sightline.Text.Basic

/-!
Log messages and the layouts they are written in. Some layouts add the moment at which a message is
sent and the place in the program that sends it; both come from outside, as text.
-/
namespace Sightline.Log

/-- A message on its way to the handlers. -/
structure Message where
  /-- The channel it was sent on, by its dotted name. -/
  channel : String
  level : Int
  text : String
  /-- The class of the exception it reports, whose trace follows the text. -/
  trace : Option String
  deriving DecidableEq, Repr, Inhabited

/-- What is known of the sending of a message: the moment, and the place in the program. -/
structure Stamp where
  moment : String
  place : String
  deriving DecidableEq, Repr, Inhabited

/-- The levels with a name of their own. -/
def levelNames : List (Int × String) :=
  [(50, "CRITICAL"), (40, "ERROR"), (30, "WARNING"), (20, "INFO"), (10, "DEBUG"), (0, "NOTSET")]

/-- The name of a level. -/
def levelName (level : Int) : String :=
  (levelNames.lookup level).getD ("Level " ++ toString level)

/-- The names under which settings may ask for a level. -/
def levelsByName : List (String × Int) :=
  [("CRITICAL", 50), ("FATAL", 50), ("ERROR", 40), ("WARNING", 30), ("WARN", 30), ("INFO", 20),
    ("DEBUG", 10), ("NOTSET", 0)]

/-- A text with blanks behind it up to a width. -/
def padRight (width : Nat) (s : String) : String :=
  s ++ String.ofList (List.replicate (width - s.length) ' ')

/-- How a handler writes its messages. -/
inductive Layout where
  /-- Level, channel and text, in columns for a file, between the moment and the place. -/
  | file
  /-- The moment and the text. -/
  | journal
  /-- Level, channel and text, in columns for a terminal. -/
  | console
  /-- Level, channel and text between colons. -/
  | short
  /-- The text alone. -/
  | bare
  deriving DecidableEq, Repr

/-- A message in a layout, its trace aside. -/
def Layout.main (layout : Layout) (stamp : Stamp) (m : Message) : String :=
  match layout with
  | .file =>
    stamp.moment ++ " - " ++ padRight 8 (levelName m.level) ++ " - " ++ padRight 17 m.channel ++
      " - " ++ m.text ++ " (" ++ stamp.place ++ ")"
  | .journal => stamp.moment ++ " - " ++ m.text
  | .console => padRight 8 (levelName m.level) ++ " - " ++ padRight 12 m.channel ++ " - " ++ m.text
  | .short => levelName m.level ++ ":" ++ m.channel ++ ":" ++ m.text
  | .bare => m.text

/-- What is written for a message in a layout. -/
def Layout.write (layout : Layout) (stamp : Stamp) (m : Message) : Text :=
  (layout.main stamp m).toList ++ '\n' ::
    match m.trace with
    | none => []
    | some name => ("<traceback " ++ name ++ ">\n").toList

end Sightline.Log
