/-!
What an operation tells its surroundings while it works: log records, and the samples it hands to
an encoding detector. Operations return their events in order, beside their result.
-/
namespace Sightline

/-- One octet string. -/
abbrev Bytes := List UInt8

/-- The importance of a record. -/
inductive Level where
  | debug
  | info
  | warning
  | error
  deriving DecidableEq, Repr, Inhabited

/-- Where records go: the engine's own channel, or the journal of edits below it. -/
inductive Channel where
  | engine
  | edits
  deriving DecidableEq, Repr, Inhabited

/-- A log record. -/
structure Record where
  channel : Channel
  level : Level
  message : String
  deriving DecidableEq, Repr, Inhabited

/-- A record on the engine's channel. -/
def Record.note (level : Level) (message : String) : Record := ⟨.engine, level, message⟩

/-- A log record, or octets handed to the detector. -/
inductive Event where
  | logged (record : Record)
  | sampled (octets : Bytes)
  deriving DecidableEq, Repr

/-- A record on the engine's channel, as an event. -/
def Event.note (level : Level) (message : String) : Event := .logged (.note level message)

/-- The records among some events, in order. -/
def Event.records (events : List Event) : List Record :=
  events.filterMap fun
    | .logged record => some record
    | .sampled _ => none

/-- The samples among some events, in order. -/
def Event.samples (events : List Event) : List Bytes :=
  events.filterMap fun
    | .logged _ => none
    | .sampled octets => some octets

end Sightline
