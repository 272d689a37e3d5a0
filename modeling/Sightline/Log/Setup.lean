import Sightline.Log.Network
import Sightline.Setting.Value
import Sightline.Text.Case

/-!
Setting up the log from the settings: a file for everything, the console, a file for errors, and the
journal of edits. A file that cannot be opened is told about on the console and replaced or left
out. Handlers of an earlier setup are dropped.
-/
namespace Sightline.Log

/-- What a setup works with beside the settings. -/
structure SetupSurroundings where
  /-- The full path of the directory for temporary files, or, if none can be used, all that have
  been tried. -/
  temporary : Except (List String) String
  /-- The switch for the journal of edits, if it is set. -/
  journalSwitch : Option String

/-- Why a setup is broken off. -/
inductive SetupFault where
  /-- The section of the settings is a value of this kind, and no table. -/
  | notATable (kind : String)
  /-- A value of this kind is no path. -/
  | notAPath (kind : String)
  | nullCharacter
  /-- None of these directories can be used for temporary files. -/
  | noTemporary (tried : List String)
  /-- A name that stands for something else than a level. -/
  | unknownLevel (value : String)
  | levelKind (value : String)
  /-- A level has a whole number in it that is too long to be written. -/
  | unwritable
  deriving DecidableEq, Repr

namespace SetupFault

/-- The wording of a fault. -/
def message : SetupFault → String
  | notATable kind => "'" ++ kind ++ "' object has no attribute 'get'"
  | notAPath kind => "expected str, bytes or os.PathLike object, not " ++ kind
  | nullCharacter => PathFault.message .nullCharacter
  | noTemporary tried =>
    "[Errno 2] No usable temporary directory found in " ++ (Value.list (tried.map .text)).written
  | unknownLevel value => "Unknown level: " ++ Text.quoteString value
  | levelKind value => "Level not an integer or a valid string: " ++ value
  | unwritable => Numeral.unwritable

end SetupFault

/-- Makes a directory and those above it that are missing. What has been made stays when the rest
fails. `depth` bounds the number of directories above. -/
def makeDirectories : (depth : Nat) → Store → String → Store × Option PathFault
  | 0, s, path => (s, some (.noEntry path))
  | depth + 1, s, path =>
    let (head, tail) := Path.split path
    let (head, tail) := if tail = "" then Path.split head else (head, tail)
    let (s, fault, made) :=
      if head = "" || tail = "" || s.exists? head then (s, none, false)
      else match makeDirectories depth s head with
        | (s, none) => (s, none, tail = ".")
        | (s, some (.exists_ _)) => (s, none, tail = ".")
        | (s, some fault) => (s, some fault, false)
    match fault with
    | some fault => (s, some fault)
    | none =>
      if made then (s, none)
      else match s.makeDirectory path with
        | .ok s => (s, none)
        | .error fault => (s, some fault)

/-- Opens a log file for a handler, making its directory if that is missing. -/
def openLogFile (s : Store) (path : String) (maxBytes backups : Nat) (level : Int)
    (layout : Layout) : Store × Except PathFault Handler :=
  let directory := Path.directory path
  let (s, fault) :=
    if directory = "" || s.exists? directory then (s, none)
    else makeDirectories (directory.length + 1) s directory
  match fault with
  | some fault => (s, .error fault)
  | none =>
    let full := s.fullPath path
    match s.openForWriting full with
    | .error fault => (s, .error fault)
    | .ok place =>
      (s.put place ((s.content? place).getD []),
        .ok ⟨.file full place maxBytes backups, level, layout⟩)

/-- A value in capital letters, as the name of a level. -/
def levelWord (v : Value) : String := String.ofList (Text.asciiUpper v.display.toList)

/-- The layouts by which a message can be written, as they are spelled out in a fault. -/
def layoutTable : String :=
  "\x7b'%': (<class 'logging.PercentStyle'>, '%(levelname)s:%(name)s:%(message)s'), " ++
    "'\x7b': (<class 'logging.StrFormatStyle'>, " ++
    "'\x7blevelname\x7d:\x7bname\x7d:\x7bmessage\x7d'), " ++
    "'$': (<class 'logging.StringTemplateStyle'>, " ++
    "'$\x7blevelname\x7d:$\x7bname\x7d:$\x7bmessage\x7d')\x7d"

/-- The level that a setting asks for; a name that is not known stands for the fallback. Two names
stand for something that is no level. -/
def levelOf (v : Value) (fallback : Int) : Except SetupFault Int :=
  let word := levelWord v
  if !v.isWritable then .error .unwritable
  else if word = "BASIC_FORMAT" then .error (.unknownLevel "%(levelname)s:%(name)s:%(message)s")
  else if word = "_STYLES" then .error (.levelKind layoutTable)
  else .ok ((levelsByName.lookup word).getD fallback)

/-- The settings of the log, with what holds where they are silent. -/
structure SetupSettings where
  logFile : Value
  fileLevel : Value
  consoleLevel : Value
  toConsole : Bool
  errorFile : Bool

/-- The settings in a table. -/
def SetupSettings.ofTable (t : Table) : SetupSettings where
  logFile := (Table.get? "log_file" t).getD (.text "codecursor.log")
  fileLevel := (Table.get? "file_level" t).getD (.text "DEBUG")
  consoleLevel := (Table.get? "console_level" t).getD (.text "WARNING")
  toConsole := ((Table.get? "log_to_console" t).getD (.bool true)).isOn
  errorFile := ((Table.get? "separate_error_log" t).getD (.bool false)).isOn

/-- The section of the settings that is about the log. -/
def sectionOf (settings : Table) : Except SetupFault Table :=
  match Table.get? "logging" settings with
  | none => .ok []
  | some (.table _ t) => .ok t
  | some v => .error (.notATable v.kind)

/-- The file for everything: its handler, if it or its replacement could be opened, and the path it
is known by. -/
structure MainFile where
  handler : Option Handler
  path : String

/-- Opens one among the temporary files in place of the file for everything, after what has been
told about that. -/
def openSpareFile (s : Store) (spare : String) (told : List String) (level : Int) :
    Store × List String × Except SetupFault MainFile :=
  let notes := told ++ ["Logging to temporary file: '" ++ spare ++ "'"]
  match openLogFile s spare 2097152 5 level .file with
  | (s, .ok handler) => (s, notes, .ok ⟨some handler, spare⟩)
  | (s, .error .nullCharacter) => (s, notes, .error .nullCharacter)
  | (s, .error fault) =>
    (s, notes ++ ["Error setting up temporary log file: " ++ fault.message ++
      ". File logging disabled."], .ok ⟨none, spare⟩)

/-- Opens the file for everything, or one among the temporary files in its place, with the lines for
the console. -/
def openMainFile (w : SetupSurroundings) (s : Store) (path : String) (level : Int) :
    Store × List String × Except SetupFault MainFile :=
  match openLogFile s path 2097152 5 level .file with
  | (s, .ok handler) => (s, [], .ok ⟨some handler, path⟩)
  | (s, .error .nullCharacter) => (s, [], .error .nullCharacter)
  | (s, .error fault) =>
    let told := ["Error setting up log file '" ++ path ++ "': " ++ fault.message]
    match w.temporary with
    | .ok directory => openSpareFile s (directory ++ "/codecursor.log") told level
    | .error tried => (s, told, .error (.noTemporary tried))

/-- Opens the file for errors, if it is asked for. -/
def openErrorFile (s : Store) (wanted : Bool) : Store × Option Handler × List String :=
  if wanted then
    match openLogFile s "error.log" 1048576 3 40 .file with
    | (s, .ok handler) => (s, some handler, [])
    | (s, .error fault) =>
      (s, none, ["Error setting up separate error log 'error.log': " ++ fault.message ++ "."])
  else (s, none, [])

/-- Whether the switch turns the journal of edits on. -/
def isSwitchedOn (switch : Option String) : Bool :=
  match switch with
  | none => false
  | some word => ["1", "true", "yes"].contains (String.ofList (word.toList.map Char.toLower))

/-- The class under which a trace names a fault. -/
def traceName : PathFault → String
  | .noEntry _ => "FileNotFoundError"
  | .exists_ _ => "FileExistsError"
  | .notDirectory _ => "NotADirectoryError"
  | .isDirectory _ => "IsADirectoryError"
  | .longName _ => "OSError"
  | .nullCharacter => "ValueError"

/-- Sets up the journal of edits, apart from all other handlers, and tells the root about it. -/
def setUpJournal (w : SetupSurroundings) (s : State) : State :=
  let journal : Logger := ⟨10, [], false, false⟩
  if isSwitchedOn w.journalSwitch then
    match openLogFile s.store "edittrace.log" 1048576 3 0 .journal with
    | (store, .ok handler) =>
      let s := { s with
        store, network.edits := { journal with handlers := [handler] } }
      s.sendOnRoot 20 "Edit tracing enabled, logging to 'edittrace.log'." none
    | (store, .error fault) =>
      let s := { s with store, network.edits := journal }
      let s := s.sendOnRoot 40 ("Failed to set up edit trace logging: " ++ fault.message)
        (some (traceName fault))
      { s with network.edits.disabled := true }
  else
    let s := { s with
      network.edits := { journal with handlers := [⟨.nowhere, 0, .bare⟩], disabled := true } }
    s.sendOnRoot 10 "Edit tracing is disabled." none

/-- Tells the root what has been set up. -/
def announce (path : String) (file console errors : Option Handler) (s : State) : State :=
  let s := s.sendOnRoot 20
    ("Logging setup complete. Root logger level: " ++ levelName s.network.root.level ++ ".") none
  let s := match file with
    | some h =>
      s.sendOnRoot 20
        ("File logging to '" ++ path ++ "' at level: " ++ levelName h.level ++ ".") none
    | none => s
  let s := match console with
    | some h =>
      s.sendOnRoot 20 ("Console logging to stderr at level: " ++ levelName h.level ++ ".") none
    | none => s
  match errors with
  | some _ => s.sendOnRoot 20 "Error logging to 'error.log' at level: ERROR." none
  | none => s

/-- Sets up the log. A setup that is broken off keeps what it has done so far. -/
def setUp (w : SetupSurroundings) (settings : Table) (s : State) :
    State × Except SetupFault Unit :=
  match sectionOf settings with
  | .error fault => (s, .error fault)
  | .ok t =>
    let wanted := SetupSettings.ofTable t
    if !wanted.fileLevel.isWritable then (s, .error .unwritable)
    else match wanted.logFile with
    | .text path =>
      let fileLevel := levelOf wanted.fileLevel 10
      let (store, notes, opened) := openMainFile w s.store path (fileLevel.toOption.getD 0)
      let s := { s.showLines notes with store }
      match opened with
      | .error fault => (s, .error fault)
      | .ok main =>
        match fileLevel, main.handler with
        | .error fault, some _ => (s, .error fault)
        | _, _ =>
          let consoleLevel :=
            if wanted.toConsole then (levelOf wanted.consoleLevel 30).map some else .ok none
          match consoleLevel with
          | .error fault => (s, .error fault)
          | .ok consoleLevel =>
            let console := consoleLevel.map fun level =>
              Handler.mk (.console s.console) level .console
            let (store, errors, notes) := openErrorFile s.store wanted.errorFile
            let handlers := main.handler.toList ++ console.toList ++ errors.toList
            let s := { s.showLines notes with store, network.root.handlers := handlers }
            match fileLevel with
            | .error fault => (s, .error fault)
            | .ok level =>
              let s := { s with network.root.level := level }
              (announce main.path main.handler console errors (setUpJournal w s), .ok ())
    | v => (s, .error (.notAPath v.kind))

end Sightline.Log
