import Sightline.Proofs.Log.Delivery
import Sightline.Proofs.Log.LogFile
import Sightline.Setting.Load
import Mathlib.Tactic.ByContra

/-! When a setup is broken off. It is for settings that are no table, for a log file that is no
text, for a level whose name stands for something else or that cannot be written, and when neither
the log file nor one in its place can even be asked for. In all other cases there is a plan that
the setup carries out, and whatever files it could not open are named on the console. -/
namespace Sightline.Log
open Sightline.Path

/-- A setting of a level stands for a level. -/
def IsLevel (v : Value) : Prop :=
  v.isWritable = true ∧ levelWord v ≠ "BASIC_FORMAT" ∧ levelWord v ≠ "_STYLES"

theorem levelOf_of_isLevel {v : Value} (h : IsLevel v) (fallback : Int) :
    levelOf v fallback = .ok ((levelsByName.lookup (levelWord v)).getD fallback) := by
  obtain ⟨hWritable, hFormat, hStyles⟩ := h
  rw [levelOf, hWritable, Bool.not_true, if_neg Bool.false_ne_true, if_neg hFormat, if_neg hStyles]

theorem levelOf_of_not_isLevel {v : Value} (h : ¬IsLevel v) (fallback : Int) :
    ∃ fault, levelOf v fallback = .error fault := by
  rw [levelOf]
  split_ifs with hWritable hFormat hStyles
  · exact ⟨_, rfl⟩
  · exact ⟨_, rfl⟩
  · exact ⟨_, rfl⟩
  · exact absurd ⟨by simpa using hWritable, hFormat, hStyles⟩ h

theorem isLevel_of_levelOf {v : Value} {fallback level : Int} (h : levelOf v fallback = .ok level) :
    IsLevel v := by
  by_contra hNot
  obtain ⟨fault, hFault⟩ := levelOf_of_not_isLevel hNot fallback
  cases h.symm.trans hFault

/-- The level of the console, if it is asked for. -/
def consoleLevelOf (wanted : SetupSettings) : Except SetupFault (Option Int) :=
  if wanted.toConsole then (levelOf wanted.consoleLevel 30).map some else .ok none

/-- There is no file for everything: its path has the null character where it is looked at, or it
cannot be opened and there is nothing to put in its place. -/
inductive NoFile (w : SetupSurroundings) (store : Store) (path : String) : Prop where
  | nullPath (h : (openPlace store path).2 = .error .nullCharacter)
  | noTemporary {fault : PathFault} {tried : List String}
      (h : (openPlace store path).2 = .error fault) (hFault : fault ≠ .nullCharacter)
      (hTemporary : w.temporary = .error tried)
  | nullSpare {fault : PathFault} {directory : String}
      (h : (openPlace store path).2 = .error fault) (hFault : fault ≠ .nullCharacter)
      (hTemporary : w.temporary = .ok directory)
      (hSpare : (openPlace (openPlace store path).1 (directory ++ "/codecursor.log")).2 =
        .error .nullCharacter)

variable {w : SetupSurroundings} {settings t : Table} {store : Store} {path : String} {s : State}

theorem openMainFile_of_ok {full : String} {place : Location}
    (h : (openPlace store path).2 = .ok (full, place)) (w : SetupSurroundings) (level : Int) :
    openMainFile w store path level = ((openPlace store path).1, [],
      .ok ⟨some ⟨.file full place 2097152 5, level, .file⟩, path⟩) := by
  rw [openMainFile, openLogFile_eq, h]
  rfl

theorem openMainFile_of_nullCharacter (h : (openPlace store path).2 = .error .nullCharacter)
    (w : SetupSurroundings) (level : Int) :
    (openMainFile w store path level).2.2 = .error .nullCharacter := by
  rw [openMainFile, openLogFile_eq, h]
  rfl

/-- A file that cannot be opened is told about and looked for among the temporary files. -/
theorem openMainFile_of_fault {fault : PathFault} (h : (openPlace store path).2 = .error fault)
    (hFault : fault ≠ .nullCharacter) (w : SetupSurroundings) (level : Int) :
    openMainFile w store path level =
      let told := ["Error setting up log file '" ++ path ++ "': " ++ fault.message]
      match w.temporary with
      | .ok directory =>
        openSpareFile (openPlace store path).1 (directory ++ "/codecursor.log") told level
      | .error tried => ((openPlace store path).1, told, .error (.noTemporary tried)) := by
  rw [openMainFile, openLogFile_eq, h]
  cases fault with
  | nullCharacter => exact absurd rfl hFault
  | _ => rfl

theorem openSpareFile_ends_iff (store : Store) (spare : String) (told : List String) (level : Int) :
    (∃ fault, (openSpareFile store spare told level).2.2 = .error fault) ↔
      (openPlace store spare).2 = .error .nullCharacter := by
  rw [openSpareFile, openLogFile_eq]
  cases h : (openPlace store spare).2 with
  | ok place => simp [Except.map]
  | error fault => cases fault <;> simp [Except.map]

theorem openMainFile_ends_iff (w : SetupSurroundings) (store : Store) (path : String)
    (level : Int) :
    (∃ fault, (openMainFile w store path level).2.2 = .error fault) ↔ NoFile w store path := by
  cases h : (openPlace store path).2 with
  | ok place =>
      rw [openMainFile_of_ok h]
      refine ⟨nofun, fun hNone => ?_⟩
      cases hNone <;> simp_all
  | error fault =>
      by_cases hFault : fault = .nullCharacter
      · subst hFault
        exact ⟨fun _ => .nullPath h, fun _ => ⟨_, openMainFile_of_nullCharacter h w level⟩⟩
      · rw [openMainFile_of_fault h hFault]
        cases hTemporary : w.temporary with
        | error tried => exact ⟨fun _ => .noTemporary h hFault hTemporary, fun _ => ⟨_, rfl⟩⟩
        | ok directory =>
            refine (openSpareFile_ends_iff _ _ _ _).trans
              ⟨.nullSpare h hFault hTemporary, fun hNone => ?_⟩
            cases hNone <;> simp_all

/-- What breaks a setup off. -/
inductive Breaks (w : SetupSurroundings) (settings : Table) (store : Store) : Prop where
  | noTable {v : Value} (hSection : Table.get? "logging" settings = some v)
      (h : ∀ style t, v ≠ .table style t)
  | logFile {t : Table} (hSection : sectionOf settings = .ok t)
      (hText : ∀ path, (SetupSettings.ofTable t).logFile ≠ .text path)
      (hPoints : ∀ points, (SetupSettings.ofTable t).logFile ≠ .points points)
  | fileLevel {t : Table} (hSection : sectionOf settings = .ok t)
      (h : ¬IsLevel (SetupSettings.ofTable t).fileLevel)
  | consoleLevel {t : Table} (hSection : sectionOf settings = .ok t)
      (hOn : (SetupSettings.ofTable t).toConsole = true)
      (h : ¬IsLevel (SetupSettings.ofTable t).consoleLevel)
  | noFile {t : Table} {path : String} (hSection : sectionOf settings = .ok t)
      (hPath : (SetupSettings.ofTable t).logFile = .text path) (h : NoFile w store path)

/-- What a setup goes by when it is not broken off: the settings, with the path and the levels that
they ask for, and the file for everything. -/
structure Plan where
  wanted : SetupSettings
  path : String
  level : Int
  consoleLevel : Option Int
  main : MainFile

/-- A plan follows from the settings and from what can be opened. -/
structure Plan.Fits (p : Plan) (w : SetupSurroundings) (settings : Table) (store : Store) :
    Prop where
  wanted : ∃ t, sectionOf settings = .ok t ∧ p.wanted = .ofTable t
  path : p.wanted.logFile = .text p.path
  level : levelOf p.wanted.fileLevel 10 = .ok p.level
  consoleLevel : consoleLevelOf p.wanted = .ok p.consoleLevel
  main : (openMainFile w store p.path p.level).2.2 = .ok p.main

/-- Lines as they stand on a console. -/
def lineTexts (lines : List String) : Text := lines.flatMap fun line => line.toList ++ ['\n']

namespace Plan

variable {p : Plan}

/-- The handler for the console. -/
def console (p : Plan) (s : State) : Option Handler :=
  p.consoleLevel.map fun level => ⟨.console s.console, level, .console⟩

/-- Opens the file for errors once the file for everything is there. -/
def openErrors (p : Plan) (w : SetupSurroundings) (store : Store) :
    Store × Option Handler × List String :=
  openErrorFile (openMainFile w store p.path p.level).1 p.wanted.errorFile

/-- What is told on the console of files that could not be opened. -/
def troubles (p : Plan) (w : SetupSurroundings) (store : Store) : List String :=
  (openMainFile w store p.path p.level).2.1 ++ (p.openErrors w store).2.2

/-- The state once the root has its handlers and its level. -/
def equipped (p : Plan) (w : SetupSurroundings) (s : State) : State :=
  let root := { s.network.root with
    level := p.level
    handlers := p.main.handler.toList ++ (p.console s).toList ++
      (p.openErrors w s.store).2.1.toList }
  { (s.showLines (openMainFile w s.store p.path p.level).2.1).showLines
      (p.openErrors w s.store).2.2 with
    store := (p.openErrors w s.store).1
    network.root := root }

/-- A setup equips the root, sets up the journal of edits and tells what it has done. -/
theorem Fits.setUp (h : p.Fits w settings s.store) :
    setUp w settings s = (announce p.main.path p.main.handler (p.console s)
      (p.openErrors w s.store).2.1 (setUpJournal w (p.equipped w s)), .ok ()) := by
  obtain ⟨⟨t, hSection, hWanted⟩, hPath, hLevel, hConsole, hMain⟩ := h
  obtain ⟨hWritable, -⟩ := isLevel_of_levelOf hLevel
  rw [consoleLevelOf] at hConsole
  simp only [Log.setUp, hSection, ← hWanted, hWritable, hPath, hLevel, hConsole, Except.toOption,
    Option.getD_some, hMain, Bool.not_true, Bool.false_eq_true, if_false]
  rfl

/-- Once the root has been equipped it stays so, and the console only grows. -/
theorem Fits.follows (h : p.Fits w settings s.store) :
    (p.equipped w s).Follows (Log.setUp w settings s).1 := by
  rw [h.setUp]
  exact (State.Follows.setUpJournal w _).trans (State.Follows.announce _ _ _ _ _)

/-- Whatever could not be opened has been told on the console. -/
theorem Fits.tells (h : p.Fits w settings s.store) :
    s.consoleText ++ lineTexts (p.troubles w s.store) <+:
      (Log.setUp w settings s).1.consoleText := by
  have hShown : (p.equipped w s).consoleText =
      s.consoleText ++ lineTexts (p.troubles w s.store) := by
    simp [State.consoleText, equipped, State.showLines, State.show, troubles, lineTexts]
  obtain ⟨rest, hRest⟩ := h.follows.shown
  refine ⟨rest.flatten, ?_⟩
  rw [← hShown, State.consoleText, State.consoleText, ← List.flatten_append, hRest]

end Plan

/-- Settings that are no table are the only ones without a section. -/
theorem sectionOf_ends_iff (settings : Table) : (∃ fault, sectionOf settings = .error fault) ↔
    ∃ v, Table.get? "logging" settings = some v ∧ ∀ style t, v ≠ .table style t := by
  rw [sectionOf]
  cases Table.get? "logging" settings with
  | none => simp
  | some v => cases v <;> simp

theorem consoleLevelOf_ends_iff (wanted : SetupSettings) :
    (∃ fault, consoleLevelOf wanted = .error fault) ↔
      wanted.toConsole = true ∧ ¬IsLevel wanted.consoleLevel := by
  rw [consoleLevelOf]
  split_ifs with hOn
  · by_cases hLevel : IsLevel wanted.consoleLevel
    · simp [levelOf_of_isLevel hLevel, Except.map, hLevel]
    · obtain ⟨fault, hFault⟩ := levelOf_of_not_isLevel hLevel 30
      simp [hFault, Except.map, hOn, hLevel]
  · simp [hOn]

/-- What breaks a setup off leads to a fault, however far the setup has got by then. -/
theorem Breaks.setUp (h : Breaks w settings s.store) :
    ∃ fault, (setUp w settings s).2 = .error fault := by
  cases h with
  | noTable hSection h =>
      obtain ⟨fault, hFault⟩ := (sectionOf_ends_iff settings).mpr ⟨_, hSection, h⟩
      simp only [Log.setUp, hFault]
      exact ⟨fault, rfl⟩
  | @logFile t hSection hText hPoints =>
      simp only [Log.setUp, hSection]
      split_ifs <;> exact ⟨_, rfl⟩
  | fileLevel hSection h =>
      obtain ⟨fault, hFault⟩ := levelOf_of_not_isLevel h 10
      -- the level is asked for last, so that every way of the setup ends in this fault or another
      simp only [Log.setUp, hSection, hFault]
      repeat' split
      all_goals exact ⟨_, rfl⟩
  | consoleLevel hSection hOn h =>
      obtain ⟨fault, hFault⟩ := levelOf_of_not_isLevel h 30
      simp only [Log.setUp, hSection, hOn, if_true, hFault, Except.map]
      repeat' split
      all_goals exact ⟨_, rfl⟩
  | @noFile t path hSection hPath h =>
      obtain ⟨fault, hFault⟩ := (openMainFile_ends_iff w s.store path
        ((levelOf (SetupSettings.ofTable t).fileLevel 10).toOption.getD 0)).mpr h
      simp only [Log.setUp, hSection, hPath, hFault]
      split_ifs <;> exact ⟨_, rfl⟩

/-- Either there is a plan for a setup or something breaks it off. -/
theorem fits_or_breaks (w : SetupSurroundings) (settings : Table) (store : Store)
    (hPoints : ∀ t points, sectionOf settings = .ok t →
      (SetupSettings.ofTable t).logFile ≠ .points points) :
    (∃ p : Plan, p.Fits w settings store) ∨ Breaks w settings store := by
  cases hSection : sectionOf settings with
  | error fault =>
      obtain ⟨v, hGet, hNoTable⟩ := (sectionOf_ends_iff settings).mp ⟨fault, hSection⟩
      exact .inr (.noTable hGet hNoTable)
  | ok t =>
      generalize hWanted : SetupSettings.ofTable t = wanted
      by_cases hText : ∀ path, wanted.logFile ≠ .text path
      · exact .inr (.logFile hSection (hWanted ▸ hText) (hPoints t · hSection))
      push Not at hText
      obtain ⟨path, hPath⟩ := hText
      by_cases hFile : IsLevel wanted.fileLevel
      · have hLevel := levelOf_of_isLevel hFile 10
        cases hConsole : consoleLevelOf wanted with
        | error fault =>
            obtain ⟨hOn, hNot⟩ := (consoleLevelOf_ends_iff wanted).mp ⟨fault, hConsole⟩
            exact .inr (.consoleLevel hSection (hWanted ▸ hOn) (hWanted ▸ hNot))
        | ok consoleLevel =>
            generalize (levelsByName.lookup (levelWord wanted.fileLevel)).getD 10 = level at hLevel
            cases hMain : (openMainFile w store path level).2.2 with
            | error fault =>
                exact .inr (.noFile hSection (hWanted ▸ hPath)
                  ((openMainFile_ends_iff w store path level).mp ⟨fault, hMain⟩))
            | ok main =>
                exact .inl ⟨⟨wanted, path, level, consoleLevel, main⟩,
                  ⟨t, hSection, hWanted.symm⟩, hPath, hLevel, hConsole, hMain⟩
      · exact .inr (.fileLevel hSection (hWanted ▸ hFile))

/-- Settings of the log that ask for a file and for levels. -/
structure Sound (wanted : SetupSettings) : Prop where
  logFile : ∃ path, wanted.logFile = .text path ∧ NullFree path
  fileLevel : IsLevel wanted.fileLevel
  consoleLevel : wanted.toConsole = true → IsLevel wanted.consoleLevel

/-- No store has anything in it that breaks a setup with such settings off, if there are temporary
files. -/
theorem Sound.not_breaks {directory : String} (hSection : sectionOf settings = .ok t)
    (h : Sound (.ofTable t)) (hTemporary : w.temporary = .ok directory)
    (hDirectory : NullFree directory) (hTop : NullFree store.top) : ¬Breaks w settings store := by
  have hSame {t' : Table} (h' : sectionOf settings = .ok t') : t' = t := by
    rw [hSection] at h'
    exact (Except.ok.inj h').symm
  obtain ⟨path, hPath, hNullFree⟩ := h.logFile
  have hSpare : NullFree (directory ++ "/codecursor.log") :=
    hDirectory.append (nullFree_iff.mpr (by decide +kernel))
  intro hBreaks
  cases hBreaks with
  | noTable hGet hNot =>
      obtain ⟨fault, hFault⟩ := (sectionOf_ends_iff settings).mpr ⟨_, hGet, hNot⟩
      cases hSection.symm.trans hFault
  | logFile h' hText => exact hText path (hSame h' ▸ hPath)
  | fileLevel h' hNot => exact hNot (hSame h' ▸ h.fileLevel)
  | consoleLevel h' hOn hNot =>
      rw [hSame h'] at hOn hNot
      exact hNot (h.consoleLevel hOn)
  | @noFile t' path' h' hPath' hNone =>
      rw [hSame h', hPath] at hPath'
      cases hPath'
      cases hNone with
      | nullPath hNull => exact openPlace_ne_nullCharacter hTop hNullFree hNull
      | noTemporary _ _ hNo => cases hTemporary.symm.trans hNo
      | nullSpare _ _ hOther hNull =>
          cases hTemporary.symm.trans hOther
          exact openPlace_ne_nullCharacter (top_openPlace store path ▸ hTop) hSpare hNull

/-- A setup comes to its end exactly if there is a plan for it. Then the root has been equipped as
planned and has stayed so, and every file that could not be opened for it is named on the console. A
setup is broken off exactly in the ways that `Breaks` lists. With sound settings there is none of
them, whatever is in the store. A log file whose name has surrogates in it is left out. -/
theorem setUp_ends_iff (w : SetupSurroundings) (settings : Table) (s : State)
    (hPoints : ∀ t points, sectionOf settings = .ok t →
      (SetupSettings.ofTable t).logFile ≠ .points points) :
    ((setUp w settings s).2 = .ok () ↔ ∃ p : Plan, p.Fits w settings s.store) ∧
    ((∃ fault, (setUp w settings s).2 = .error fault) ↔ Breaks w settings s.store) ∧
    (∀ p : Plan, p.Fits w settings s.store →
      (p.equipped w s).Follows (setUp w settings s).1 ∧
      s.consoleText ++ lineTexts (p.troubles w s.store) <+: (setUp w settings s).1.consoleText) ∧
    (∀ t directory, sectionOf settings = .ok t → Sound (.ofTable t) →
      w.temporary = .ok directory → NullFree directory → NullFree s.store.top →
      (setUp w settings s).2 = .ok ()) := by
  have hCases := fits_or_breaks w settings s.store hPoints
  have hDone (p : Plan) (h : p.Fits w settings s.store) : (setUp w settings s).2 = .ok () := by
    rw [h.setUp]
  have hEnds : (setUp w settings s).2 = .ok () ↔ ∃ p : Plan, p.Fits w settings s.store := by
    refine ⟨fun hOk => hCases.resolve_right fun hBreaks => ?_, fun ⟨p, h⟩ => hDone p h⟩
    obtain ⟨fault, hFault⟩ := hBreaks.setUp
    cases hOk.symm.trans hFault
  refine ⟨hEnds, ⟨fun ⟨fault, hFault⟩ => hCases.resolve_left fun ⟨p, h⟩ => ?_, Breaks.setUp⟩,
    fun p h => ⟨h.follows, h.tells⟩,
    fun t directory hSection hSound hTemporary hDirectory hTop => hEnds.mpr ?_⟩
  · cases (hDone p h).symm.trans hFault
  · exact hCases.resolve_right (hSound.not_breaks hSection hTemporary hDirectory hTop)

/-- With no settings a setup comes to its end, here in a directory with nothing in it. -/
theorem setUp_without_settings :
    let w : SetupSurroundings := ⟨.ok "/tmp", none⟩
    let s := State.start (.empty "/work") ⟨"", ""⟩
    (setUp w [] s).2 = .ok () := by
  intro w s
  have hNone : sectionOf [] = .ok [] := rfl
  have hPoints (t : Table) (points : List CodePoint) (hSection : sectionOf [] = .ok t) :
      (SetupSettings.ofTable t).logFile ≠ .points points := by
    cases hSection
    exact nofun
  have hSound : Sound (.ofTable []) :=
    ⟨⟨"codecursor.log", rfl, nullFree_iff.mpr (by decide +kernel)⟩,
      ⟨rfl, by decide +kernel, by decide +kernel⟩,
      fun _ => ⟨rfl, by decide +kernel, by decide +kernel⟩⟩
  exact (setUp_ends_iff w [] s hPoints).2.2.2 [] "/tmp" hNone hSound rfl
    (nullFree_iff.mpr (by decide +kernel)) (nullFree_iff.mpr (by decide +kernel))

/-- A document that sets the section itself to a number is loaded, and no setup by it comes to its
end. -/
theorem number_for_section_breaks_setUp :
    let store : Store := ⟨"/", [], [(["c"], Codec.Utf8.encode "logging = 5".toList)]⟩
    ∃ settings, (Setting.load Setting.Document.reader store (some "c")).1 = .ok settings ∧
      ∀ w s, ∃ fault, (setUp w settings s).2 = .error fault := by
  intro store
  have hKind : ((Setting.load Setting.Document.reader store (some "c")).1.toOption.bind
      (Table.get? "logging")).map Value.kind = some "int" := by decide +kernel
  cases hLoad : (Setting.load Setting.Document.reader store (some "c")).1 with
  | error fault =>
      rw [hLoad] at hKind
      cases hKind
  | ok settings =>
      rw [hLoad] at hKind
      obtain ⟨v, hGet, hInt⟩ := Option.map_eq_some_iff.mp hKind
      have hNoTable (style : Style) (t : Table) : v ≠ .table style t := by
        rintro rfl
        revert hInt
        cases style <;> simp [Value.kind]
      exact ⟨settings, rfl, fun w s => Breaks.setUp (.noTable hGet hNoTable)⟩

end Sightline.Log
