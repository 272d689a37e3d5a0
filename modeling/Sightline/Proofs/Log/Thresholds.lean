import Mathlib.Data.List.Basic
import Sightline.Proofs.Log.SetupEnds

/-! What reaches the files and the console after a setup. Each handler has a threshold of its own,
but the level of the file for everything is the level of the root as well, so that it holds back
messages from the console and from the file for errors, too. -/
namespace Sightline.Log

variable {w : SetupSurroundings} {settings t : Table} {s : State} {path : String}

/-- The levels that settings ask for. -/
structure AsksFor (wanted : SetupSettings) (fileLevel consoleLevel : Int) : Prop where
  fileLevel : levelOf wanted.fileLevel 10 = .ok fileLevel
  consoleLevel : wanted.toConsole = true → levelOf wanted.consoleLevel 30 = .ok consoleLevel

/-- The file for everything is opened at its own path, and the file for errors if it is asked
for. -/
structure Opens (wanted : SetupSettings) (store : Store) (path : String)
    (file errors : String × Location) : Prop where
  file : (openPlace store path).2 = .ok file
  errors : wanted.errorFile = true →
    (openPlace (openPlace store path).1 "error.log").2 = .ok errors

variable {fileLevel consoleLevel : Int} {file errors : String × Location}

/-- The handlers that a setup gives to the root when it opens all that it is asked to. -/
def givenHandlers (wanted : SetupSettings) (console : Nat) (fileLevel consoleLevel : Int)
    (file errors : String × Location) : List Handler :=
  [⟨.file file.1 file.2 2097152 5, fileLevel, .file⟩] ++
    (if wanted.toConsole then [⟨.console console, consoleLevel, .console⟩] else []) ++
    (if wanted.errorFile then [⟨.file errors.1 errors.2 1048576 3, 40, .file⟩] else [])

theorem openErrorFile_of_ok {store : Store} {wanted : Bool}
    (h : wanted = true → (openPlace store "error.log").2 = .ok errors) :
    (openErrorFile store wanted).2 =
      ((if wanted then some ⟨.file errors.1 errors.2 1048576 3, 40, .file⟩ else none), []) := by
  cases wanted with
  | false => rfl
  | true =>
      rw [openErrorFile, openLogFile_eq, h rfl]
      rfl

/-- Such a setup comes to its end, and the root has the level of the file for everything. -/
theorem setUp_of_opens (hSection : sectionOf settings = .ok t)
    (hPath : (SetupSettings.ofTable t).logFile = .text path)
    (hLevels : AsksFor (.ofTable t) fileLevel consoleLevel)
    (hOpens : Opens (.ofTable t) s.store path file errors) :
    (setUp w settings s).2 = .ok () ∧ (setUp w settings s).1.console = s.console ∧
      (setUp w settings s).1.network.root.level = fileLevel ∧
      (setUp w settings s).1.network.root.handlers =
        givenHandlers (.ofTable t) s.console fileLevel consoleLevel file errors := by
  generalize hWanted : SetupSettings.ofTable t = wanted at hPath hLevels hOpens ⊢
  have hMain := openMainFile_of_ok hOpens.file w fileLevel
  let p : Plan := ⟨wanted, path, fileLevel, if wanted.toConsole then some consoleLevel else none,
    ⟨some ⟨.file file.1 file.2 2097152 5, fileLevel, .file⟩, path⟩⟩
  have hConsole : consoleLevelOf wanted = .ok p.consoleLevel := by
    rw [consoleLevelOf]
    split_ifs with hOn
    · rw [hLevels.consoleLevel hOn]
      simp [p, hOn, Except.map]
    · simp [p, hOn]
  have hFits : p.Fits w settings s.store :=
    ⟨⟨t, hSection, hWanted.symm⟩, hPath, hLevels.fileLevel, hConsole, by rw [hMain]⟩
  have hErrors : (p.openErrors w s.store).2.1 =
      if wanted.errorFile then some ⟨.file errors.1 errors.2 1048576 3, 40, .file⟩ else none := by
    rw [Plan.openErrors, hMain, openErrorFile_of_ok hOpens.errors]
  have hHandlers : (p.equipped w s).network.root.handlers =
      givenHandlers wanted s.console fileLevel consoleLevel file errors := by
    rw [Plan.equipped, hErrors]
    simp only [p, Plan.console, givenHandlers]
    cases wanted.toConsole <;> cases wanted.errorFile <;> rfl
  have hFollows := hFits.follows
  have hRoot := hFollows.root (by rw [hHandlers]; simp [givenHandlers])
  exact ⟨by rw [hFits.setUp], hFollows.console, by rw [hRoot]; rfl, by rw [hRoot, hHandlers]⟩

/-- What the given handlers add to files for a message that is let through. -/
theorem filed_by_givenHandlers (wanted : SetupSettings) (console : Nat) (stamp : Stamp)
    (m : Message) :
    ((givenHandlers wanted console fileLevel consoleLevel file errors).flatMap fun h =>
      h.filed stamp m) =
      (if fileLevel ≤ m.level then [(file.2, Layout.file.write stamp m)] else []) ++
        if wanted.errorFile = true ∧ 40 ≤ m.level then [(errors.2, Layout.file.write stamp m)]
        else [] := by
  cases wanted.toConsole <;> cases hErrors : wanted.errorFile <;> simp [givenHandlers, *]

/-- What the given handlers add to the console for a message that is let through. -/
theorem printed_by_givenHandlers (wanted : SetupSettings) (console : Nat) (stamp : Stamp)
    (m : Message) :
    ((givenHandlers wanted console fileLevel consoleLevel file errors).flatMap fun h =>
      h.printed console stamp m) =
      if wanted.toConsole = true ∧ consoleLevel ≤ m.level then [Layout.console.write stamp m]
      else [] := by
  cases hConsole : wanted.toConsole <;> cases wanted.errorFile <;> simp [givenHandlers, *]

/-- After a setup that has opened all it was asked to, and after anything that has been sent since,
a message on the engine's channel reaches the file for everything from the level of that file on,
the console from the greater of the levels of the two on, and the file for errors from the greater
of that level and 40 on. None of them gets a message of level nought or below. -/
theorem delivery_after_setUp (hSection : sectionOf settings = .ok t)
    (hPath : (SetupSettings.ofTable t).logFile = .text path)
    (hLevels : AsksFor (.ofTable t) fileLevel consoleLevel)
    (hOpens : Opens (.ofTable t) s.store path file errors) :
    let wanted := SetupSettings.ofTable t
    (setUp w settings s).2 = .ok () ∧
    ∀ (earlier : List (Stamp × Message)) (stamp : Stamp) (m : Message),
      m.channel = engineChannel →
      let before := (setUp w settings s).1.sendAll earlier
      let after := before.sendAt (stamp, m)
      after.written = before.written ++
        (if 0 < m.level ∧ fileLevel ≤ m.level then [(file.2, Layout.file.write stamp m)] else []) ++
        (if wanted.errorFile = true ∧ max fileLevel 40 ≤ m.level then
          [(errors.2, Layout.file.write stamp m)] else []) ∧
      after.shown = before.shown ++
        (if wanted.toConsole = true ∧ 0 < m.level ∧ max fileLevel consoleLevel ≤ m.level then
          [Layout.console.write stamp m] else []) := by
  intro wanted
  obtain ⟨hDone, hConsole, hLevel, hHandlers⟩ :=
    setUp_of_opens (w := w) hSection hPath hLevels hOpens
  refine ⟨hDone, ?_⟩
  intro earlier stamp m hChannel before after
  have hFollows := State.Follows.sendAll earlier (setUp w settings s).1
  have hRoot : before.network.root = (setUp w settings s).1.network.root :=
    hFollows.root (by rw [hHandlers]; simp [givenHandlers])
  have hSame : before.console = s.console := hFollows.console.trans hConsole
  obtain ⟨hWritten, hShown⟩ := State.sendAt_on_engineChannel (s := before) stamp hChannel
    (by rw [hRoot, hHandlers]; simp [givenHandlers])
  rw [hRoot, hLevel, hHandlers, filed_by_givenHandlers] at hWritten
  rw [hRoot, hLevel, hHandlers, hSame, printed_by_givenHandlers] at hShown
  rw [hWritten, hShown]
  by_cases hSent : 0 < m.level ∧ fileLevel ≤ m.level
  · obtain ⟨hPositive, hLow⟩ := hSent
    have hErrors : max fileLevel 40 ≤ m.level ↔ 40 ≤ m.level := by omega
    have hConsole : max fileLevel consoleLevel ≤ m.level ↔ consoleLevel ≤ m.level := by omega
    simp only [wanted, hPositive, hLow, hErrors, hConsole, true_and, and_true, if_true]
    simp
  · -- what the root holds back is below the threshold of each handler, once raised to its level
    have hErrors : ¬max fileLevel 40 ≤ m.level := by omega
    have hConsole : ¬(0 < m.level ∧ max fileLevel consoleLevel ≤ m.level) := by omega
    rw [if_neg hSent, if_neg hSent, if_neg hSent, if_neg fun h => hErrors h.2,
      if_neg fun h => hConsole h.2]
    exact ⟨by simp, rfl⟩

/-- A warning reaches the file and the console whose levels it has, and not the file for errors. -/
theorem warning_delivered :
    let w : SetupSurroundings := ⟨.ok "/tmp", none⟩
    let settings : Table := [("logging", .table .block [("file_level", .text "INFO"),
      ("separate_error_log", .bool true)])]
    let s := State.start (.empty "/work") ⟨"", ""⟩
    let m : Message := ⟨"codecursor", 30, "w", none⟩
    (setUp w settings s).2 = .ok () ∧
      let before := (setUp w settings s).1
      let after := before.sendAt (⟨"", ""⟩, m)
      after.written = before.written ++ [(["codecursor.log"], Layout.file.write ⟨"", ""⟩ m)] ∧
      after.shown = before.shown ++ [Layout.console.write ⟨"", ""⟩ m] := by
  intro w settings s m
  let t : Table := [("file_level", .text "INFO"), ("separate_error_log", .bool true)]
  have hSection : sectionOf settings = .ok t := by simp [sectionOf, settings, t, Table.get?]
  have hPath : (SetupSettings.ofTable t).logFile = .text "codecursor.log" := by
    simp [SetupSettings.ofTable, t, Table.get?]
  have hLevels : AsksFor (.ofTable t) 20 30 := ⟨by decide +kernel, fun _ => by decide +kernel⟩
  -- the store between the two openings, so that the second one is looked at by itself
  have hStore : (openPlace s.store "codecursor.log").1 =
      ⟨"/work", [], [(["codecursor.log"], [])]⟩ := by
    have hFiles : (openPlace s.store "codecursor.log").1.files = [(["codecursor.log"], [])] := by
      decide +kernel
    have hDirectories : (openPlace s.store "codecursor.log").1.directories = [] := by
      decide +kernel
    have hTop : (openPlace s.store "codecursor.log").1.top = "/work" := top_openPlace _ _
    rw [← hFiles, ← hDirectories, ← hTop]
  have hOpens : Opens (.ofTable t) s.store "codecursor.log"
      ("/work/codecursor.log", ["codecursor.log"]) ("/work/error.log", ["error.log"]) := by
    refine ⟨by decide +kernel, fun _ => ?_⟩
    rw [hStore]
    decide +kernel
  obtain ⟨hDone, hSent⟩ :=
    delivery_after_setUp (w := w) hSection hPath hLevels hOpens
  have hNext := hSent [] ⟨"", ""⟩ m rfl
  refine ⟨hDone, ?_⟩
  generalize (setUp w settings s).1 = before at hNext ⊢
  obtain ⟨hWritten, hShown⟩ := hNext
  rw [State.sendAll, List.foldl_nil] at hWritten hShown
  rw [if_pos (by decide), if_neg (by decide +kernel)] at hWritten
  rw [if_pos (by decide +kernel)] at hShown
  exact ⟨by simpa using hWritten, hShown⟩

/-- A warning does not reach the console, which asks for warnings, since the file only asks for
errors. -/
theorem warning_withheld_from_console :
    let w : SetupSurroundings := ⟨.ok "/tmp", none⟩
    let settings : Table := [("logging", .table .block [("file_level", .text "ERROR"),
      ("console_level", .text "WARNING")])]
    let s := State.start (.empty "/work") ⟨"", ""⟩
    let m : Message := ⟨"codecursor", 30, "w", none⟩
    (setUp w settings s).2 = .ok () ∧
      let before := (setUp w settings s).1
      ⟨.console before.console, 30, .console⟩ ∈ before.network.root.handlers ∧
        (before.sendAt (⟨"", ""⟩, m)).shown = before.shown := by
  intro w settings s m
  let t : Table := [("file_level", .text "ERROR"), ("console_level", .text "WARNING")]
  have hSection : sectionOf settings = .ok t := by simp [sectionOf, settings, t, Table.get?]
  have hPath : (SetupSettings.ofTable t).logFile = .text "codecursor.log" := by
    simp [SetupSettings.ofTable, t, Table.get?]
  have hLevels : AsksFor (.ofTable t) 40 30 := ⟨by decide +kernel, fun _ => by decide +kernel⟩
  have hOpens : Opens (.ofTable t) s.store "codecursor.log"
      ("/work/codecursor.log", ["codecursor.log"]) ("", []) :=
    ⟨by decide +kernel, fun h => by revert h; decide +kernel⟩
  obtain ⟨hDone, hConsole, hLevel, hHandlers⟩ :=
    setUp_of_opens (w := w) hSection hPath hLevels hOpens
  refine ⟨hDone, ?_⟩
  generalize (setUp w settings s).1 = before at hConsole hLevel hHandlers ⊢
  have hIn : ⟨.console before.console, 30, .console⟩ ∈ before.network.root.handlers := by
    rw [hHandlers, hConsole]
    decide +kernel
  obtain ⟨-, hShown⟩ := State.sendAt_on_engineChannel (s := before) ⟨"", ""⟩ (m := m) rfl
    (List.ne_nil_of_mem hIn)
  rw [hLevel, if_neg (by decide)] at hShown
  exact ⟨hIn, by simpa using hShown⟩

end Sightline.Log
