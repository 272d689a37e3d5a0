import Sightline.Session.Basic

/-!
The operations of a session, and what each does to the session and to the store. An operation that
fails leaves both as they were, except that writing empties its target before it knows whether the
lines can be encoded, and that a search for candidates may have moved the cursor by then.
-/
namespace Sightline

/-- An operation of a session with its arguments. -/
inductive Operation where
  | toTop
  | jump (offset : Int)
  | seekHaving (s : Text)
  | seekBackHaving (s : Text)
  | seekBeing (s : Text)
  | seekBackBeing (s : Text)
  | seekAny (candidates : Value)
  | seekMemberEnd
  | currentView
  | currentHas (s : Text)
  | insertBehindBracket (located s opening closing : Text)
  | insertLine (s : Text) (following : Bool) (back : Int)
  | insertNewLine (s : Text) (following : Bool) (back : Int)
  | replaceText (old new : Text)
  | appendText (s : Text)
  | write (path : Option String)
  | texts
  | views
  deriving Repr

/-- What an operation answers. -/
inductive Answer where
  | nothing
  | flag (b : Bool)
  /-- The index a search found. -/
  | found (index : Option Nat)
  /-- The candidate a search found. -/
  | candidate (s : Option Text)
  | text (s : Text)
  | texts (lines : List Text)
  deriving DecidableEq, Repr

/-- What an operation leaves behind. -/
structure Outcome where
  store : Store
  session : Session
  answer : Except SessionFault Answer
  events : List Event

/-- The fault of a search for candidates, as one of the settings they stand in. -/
def SettingFault.ofCandidate : CandidateFault → SettingFault
  | .misfit v => .notText v.kind
  | .unwritable => .unwritable

namespace Session

/-- The outcome of a step of the buffer. -/
def afterStep {α : Type} (store : Store) (s : Session) (toAnswer : α → Answer) (step : Step α) :
    Outcome :=
  ⟨store, { s with buffer := step.buffer }, .ok (toAnswer step.answer), step.records.map .logged⟩

/-- The outcome of an operation that fails and changes nothing. -/
def failed (store : Store) (s : Session) (fault : SessionFault) : Outcome :=
  ⟨store, s, .error fault, []⟩

/-- The outcome of a search in a buffer that fails on its candidates. -/
def misled (store : Store) (s : Session) (b : Buffer) (fault : CandidateFault) : Outcome :=
  failed store { s with buffer := fault.leave b } (.setting (.ofCandidate fault))

/-- Writes the lines to a path, or to the path of the session; a path that is given becomes the
path of the session once it is written. -/
def write (codecs : Registry) (store : Store) (s : Session) (path : Option String) : Outcome :=
  match (path.map Path.shorten).orElse fun _ => s.path with
  | none => failed store s .noPathToWrite
  | some target =>
    match encodingName s.encoding with
    | .error fault => failed store s (.setting fault)
    | .ok name =>
      match TextFile.write codecs store target s.buffer.texts name with
      | (store, .error fault, events) => ⟨store, s, .error (.file fault), events⟩
      | (store, .ok (), events) =>
        ⟨store, { s with path := some target }, .ok .nothing, events⟩

/-- Carries out an operation. -/
def perform (codecs : Registry) (store : Store) (s : Session) : Operation → Outcome
  | .toTop => ⟨store, { s with buffer := s.buffer.toTop }, .ok .nothing, []⟩
  | .jump offset =>
    let (buffer, whole) := s.buffer.jump offset
    ⟨store, { s with buffer }, .ok (.flag whole), []⟩
  | .seekHaving t => afterStep store s .found (s.buffer.seekHaving t)
  | .seekBackHaving t => afterStep store s .found (s.buffer.seekBackHaving t)
  | .seekBeing t => afterStep store s .found (s.buffer.seekBeing t)
  | .seekBackBeing t => afterStep store s .found (s.buffer.seekBackBeing t)
  | .seekAny candidates =>
    match candidates.members? with
    | none => failed store s (.setting (.noMembers candidates.kind))
    | some candidates =>
      match s.buffer.seekCandidates candidates with
      | .ok step => afterStep store s .candidate step
      | .error fault => misled store s s.buffer fault
  | .seekMemberEnd =>
    let below := (s.buffer.jump 1).1
    match below.seekCandidates s.keywords with
    | .ok next => afterStep store s .flag (Buffer.endAbove next)
    | .error fault => misled store s below fault
  | .currentView =>
    match s.buffer.currentView with
    | .ok view => ⟨store, s, .ok (.text view), []⟩
    | .error fault => failed store s (.cursor fault)
  | .currentHas t =>
    match s.buffer.currentView with
    | .ok view => ⟨store, s, .ok (.flag (Text.holds view t)), []⟩
    | .error fault => failed store s (.cursor fault)
  | .insertBehindBracket located t opening closing =>
    match s.buffer.insertBehindBracket located t opening closing with
    | .ok step => afterStep store s .flag step
    | .error fault => failed store s (.bracket fault)
  | .insertLine t following back =>
    afterStep store s (fun _ => .nothing) (s.buffer.insertLine t following back)
  | .insertNewLine t following back =>
    afterStep store s .flag (s.buffer.insertNewLine t following back)
  | .replaceText old new => afterStep store s .flag (s.buffer.replaceText old new)
  | .appendText t => afterStep store s .flag (s.buffer.appendText t)
  | .write path => write codecs store s path
  | .texts => ⟨store, s, .ok (.texts s.buffer.texts), []⟩
  | .views => ⟨store, s, .ok (.texts s.buffer.views), []⟩

/-- Carries out operations one after the other, whether or not they fail. -/
def performAll (codecs : Registry) (store : Store) (s : Session) : List Operation → List Outcome
  | [] => []
  | op :: ops =>
    let outcome := s.perform codecs store op
    outcome :: performAll codecs outcome.store outcome.session ops

end Session

end Sightline
