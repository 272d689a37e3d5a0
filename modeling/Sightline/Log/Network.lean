import Sightline.Log.Message
import Sightline.Codec.Utf8
import Sightline.Store

/-!
Where messages go. Two loggers can have handlers: the root of all channels and the journal of edits.
A message is sent on a channel; the channel's level, which it inherits unless it is one of the two,
decides whether it is sent at all, and then every handler on the way up to the root decides by its
own level. With no handler on the way, grave messages go to the console as they are. The way up
leads through the channels that have been used before.

One console follows another. A handler keeps to the console it was made for, and what it writes to
one that is gone is not seen.
-/
namespace Sightline.Log

/-- Where a handler writes to. -/
inductive Sink where
  /-- The end of a file, which is given by its full path and its place; the file would be turned
  over to one of some `backups` at a size of `maxBytes`. -/
  | file (path : String) (place : Location) (maxBytes backups : Nat)
  /-- The console with this number. -/
  | console (number : Nat)
  | nowhere
  deriving DecidableEq, Repr

/-- A handler of messages. -/
structure Handler where
  sink : Sink
  level : Int
  layout : Layout
  deriving DecidableEq, Repr

/-- A logger that can have handlers. -/
structure Logger where
  level : Int
  handlers : List Handler
  /-- Messages go on to the loggers above. -/
  propagate : Bool
  disabled : Bool
  deriving DecidableEq, Repr

/-- The two loggers that can have handlers. -/
structure Network where
  root : Logger
  edits : Logger
  deriving DecidableEq, Repr

/-- The network of a program that has set up nothing. -/
def Network.fresh : Network :=
  ⟨⟨30, [], true, false⟩, ⟨0, [], true, false⟩⟩

/-- Everything that logging can change. -/
structure State where
  /-- The files as they were opened, without what has been written to them since. -/
  store : Store
  /-- What has been written to the ends of files, in order. -/
  written : Array (Location × Text)
  network : Network
  /-- The number of the present console. -/
  console : Nat
  /-- What has been written to the present console, in order. -/
  shown : Array Text
  /-- The channels that have been used. -/
  channels : List String
  /-- The moment of what is sent now, and its place in the program. -/
  stamp : Stamp
  deriving Repr

/-- The state once the console has been replaced by a new one. -/
def State.nextConsole (s : State) : State := { s with console := s.console + 1, shown := #[] }

/-- A text written to the present console. -/
def State.show (s : State) (t : Text) : State := { s with shown := s.shown.push t }

/-- Lines written to the present console. -/
def State.showLines (s : State) (lines : List String) : State :=
  s.show (lines.flatMap fun line => line.toList ++ ['\n'])

/-- The text on the present console. -/
def State.consoleText (s : State) : Text := s.shown.toList.flatten

/-- The files with what has been written to them. -/
def State.files (s : State) : List (Location × Bytes) :=
  s.store.files.map fun (place, content) =>
    (place, content ++ (s.written.toList.filter fun piece => piece.1 == place).flatMap fun piece =>
      Codec.Utf8.encode piece.2)

/-- The channel of the engine. -/
def engineChannel : String := "codecursor"

/-- The channel of the journal of edits. -/
def editsChannel : String := "codecursor.edits"

/-- The channel at the root of all. -/
def rootChannel : String := "root"

/-- Where a channel stands with regard to the two loggers. -/
inductive Standing where
  | root
  | edits
  /-- Below the journal of edits. -/
  | belowEdits
  /-- Anywhere else below the root. -/
  | belowRoot
  deriving DecidableEq, Repr

/-- What stands before the last dot of a name, before the last dot of that, and so on, as long as
something does. The character right before a dot is not looked at for the next one, so of two dots
in a row only the second counts. The name is given from its end on. -/
def prefixesFrom : Text → List Text
  | [] => []
  | '.' :: c :: before => (c :: before).reverse :: prefixesFrom before
  | _ :: rest => prefixesFrom rest

/-- The channel right above another: of the names at the start of its own, the longest that has been
used. -/
def above? (used : List String) (channel : String) : Option String :=
  ((prefixesFrom channel.toList.reverse).map String.ofList).find? used.contains

/-- Whether the way up from a channel leads through the journal of edits; each channel on it has a
shorter name than the one before, so `depth` may be the length of the name. -/
def isBelowEdits (used : List String) : (depth : Nat) → String → Bool
  | 0, _ => false
  | depth + 1, channel =>
    match above? used channel with
    | none => false
    | some above => above = editsChannel || isBelowEdits used depth above

/-- The standing of a channel, where some channels have been used. -/
def standing (used : List String) (channel : String) : Standing :=
  if channel = "" || channel = rootChannel then .root
  else if channel = editsChannel then .edits
  else if isBelowEdits used channel.length channel then .belowEdits
  else .belowRoot

/-- The state of a program that has set up nothing. Its own two channels are in use. -/
def State.start (store : Store) (stamp : Stamp) : State :=
  ⟨store, #[], .fresh, 0, #[], [engineChannel, editsChannel], stamp⟩

/-- The level that counts on the channel of the edits: its own unless it has none. -/
def Network.editsLevel (n : Network) : Int :=
  if n.edits.level = 0 then n.root.level else n.edits.level

/-- Whether a channel of some standing sends messages of a level. None are sent at level nought or
below. -/
def Network.sends (n : Network) (standing : Standing) (level : Int) : Bool :=
  0 < level && match standing with
    | .root => n.root.level ≤ level && !n.root.disabled
    | .belowRoot => n.root.level ≤ level
    | .edits => n.editsLevel ≤ level && !n.edits.disabled
    | .belowEdits => n.editsLevel ≤ level

/-- The handlers on the way up from a channel of some standing. -/
def Network.handlersFor (n : Network) : Standing → List Handler
  | .root => n.root.handlers
  | .belowRoot => n.root.handlers
  | .edits => n.edits.handlers ++ if n.edits.propagate then n.root.handlers else []
  | .belowEdits => n.edits.handlers ++ if n.edits.propagate then n.root.handlers else []

/-- Lets a handler write a message. -/
def State.write (s : State) (m : Message) (h : Handler) : State :=
  if m.level < h.level then s
  else
    let written := h.layout.write s.stamp m
    match h.sink with
    | .file _ place _ _ => { s with written := s.written.push (place, written) }
    | .console number => if number = s.console then s.show written else s
    | .nowhere => s

/-- Sends a message on its channel, which counts as used from then on. -/
def State.send (s : State) (m : Message) : State :=
  let standing := standing s.channels m.channel
  let s :=
    if s.channels.contains m.channel then s else { s with channels := s.channels ++ [m.channel] }
  if s.network.sends standing m.level then
    match s.network.handlersFor standing with
    | [] => if m.level < 30 then s else s.show (Layout.bare.write s.stamp m)
    | handlers => handlers.foldl (fun s h => s.write m h) s
  else s

/-- The handler that the root is given when a message is sent on it and it has none: it writes to
the console that is the present one then. -/
def spareHandler (console : Nat) : Handler := ⟨.console console, 0, .short⟩

/-- Sends a message on the root, which is given a handler first if it has none. -/
def State.sendOnRoot (s : State) (level : Int) (text : String) (trace : Option String) : State :=
  let s := if s.network.root.handlers.isEmpty then
      { s with network.root.handlers := [spareHandler s.console] }
    else s
  s.send ⟨rootChannel, level, text, trace⟩

end Sightline.Log
