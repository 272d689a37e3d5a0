import Sightline.Proofs.Log.SetupEnds

/-! What the loggers are like once a setup has come to its end. The root has the handlers of the
files that could be opened and of the console if that is asked for, or the spare one where it would
have none; the journal of edits has a handler or is shut. Nothing of this depends on what the
loggers were like before. -/
namespace Sightline.Log

/-- Opens a file at the first of some paths at which one can be opened. What an attempt has made
of directories stays. -/
def openFirst : Store → List String → Store × Option (String × Location)
  | store, [] => (store, none)
  | store, path :: rest =>
    match (openPlace store path).2 with
    | .ok opened => ((openPlace store path).1, some opened)
    | .error _ => openFirst (openPlace store path).1 rest

/-- The paths at which a file for everything is looked for, one after the other. -/
def mainPaths (w : SetupSurroundings) (wanted : SetupSettings) : List String :=
  match wanted.logFile with
  | .text path => path :: (w.temporary.toOption.map fun top => top ++ "/codecursor.log").toList
  | _ => []

/-- The files that can be opened for the root, by full path and place: for everything and, where it
is asked for, for errors. -/
structure RootFiles where
  main : Option (String × Location)
  errors : Option (String × Location)
  /-- The store once they are open. -/
  store : Store

/-- The files that can be opened for the root with some settings. -/
def rootFiles (w : SetupSurroundings) (wanted : SetupSettings) (store : Store) : RootFiles :=
  let first := openFirst store (mainPaths w wanted)
  let second := openFirst first.1 (if wanted.errorFile then ["error.log"] else [])
  ⟨first.2, second.2, second.1⟩

/-- The handler of a file for everything from a level on. -/
def mainHandler (level : Int) (opened : String × Location) : Handler :=
  ⟨.file opened.1 opened.2 2097152 5, level, .file⟩

/-- The handler of a file for errors. -/
def errorsHandler (opened : String × Location) : Handler :=
  ⟨.file opened.1 opened.2 1048576 3, 40, .file⟩

/-- The handler of a file for the journal of edits. -/
def journalHandler (opened : String × Location) : Handler :=
  ⟨.file opened.1 opened.2 1048576 3, 0, .journal⟩

variable {w : SetupSurroundings} {settings : Table} {store : Store} {path : String} {s : State}

theorem openFirst_cons_of_ok {opened : String × Location}
    (h : (openPlace store path).2 = .ok opened) (rest : List String) :
    openFirst store (path :: rest) = ((openPlace store path).1, some opened) := by
  rw [openFirst, h]

theorem openFirst_cons_of_error {fault : PathFault} (h : (openPlace store path).2 = .error fault)
    (rest : List String) :
    openFirst store (path :: rest) = openFirst (openPlace store path).1 rest := by
  rw [openFirst, h]

/-- A replacement that ends without a fault is the file at that path, or there is none. -/
theorem openSpareFile_eq_openFirst {spare : String} {told : List String} {level : Int}
    {main : MainFile} (h : (openSpareFile store spare told level).2.2 = .ok main) :
    (openSpareFile store spare told level).1 = (openFirst store [spare]).1 ∧
      main.handler = (openFirst store [spare]).2.map (mainHandler level) := by
  rw [openSpareFile, openLogFile_eq] at h ⊢
  obtain ⟨after, placed, hPlace⟩ : ∃ after placed, openPlace store spare = (after, placed) :=
    ⟨_, _, rfl⟩
  cases placed with
  | ok opened =>
      simp only [openFirst, hPlace, Except.map, Except.ok.injEq] at h ⊢
      exact ⟨trivial, h ▸ rfl⟩
  | error fault =>
      cases fault with
      | nullCharacter => simp [hPlace, Except.map] at h
      | _ =>
          simp only [openFirst, hPlace, Except.map, Except.ok.injEq] at h ⊢
          exact ⟨trivial, h ▸ rfl⟩

/-- The file for everything is the first that can be opened, if the setup is not broken off. -/
theorem openMainFile_eq_openFirst {wanted : SetupSettings} (hPath : wanted.logFile = .text path)
    {level : Int} {main : MainFile} (h : (openMainFile w store path level).2.2 = .ok main) :
    (openMainFile w store path level).1 = (openFirst store (mainPaths w wanted)).1 ∧
      main.handler = (openFirst store (mainPaths w wanted)).2.map (mainHandler level) := by
  simp only [mainPaths, hPath]
  cases hPlace : (openPlace store path).2 with
  | ok opened =>
      rw [openMainFile_of_ok hPlace] at h ⊢
      rw [openFirst_cons_of_ok hPlace]
      cases h
      exact ⟨rfl, rfl⟩
  | error fault =>
      rw [openFirst_cons_of_error hPlace]
      by_cases hFault : fault = .nullCharacter
      · subst hFault
        cases (openMainFile_of_nullCharacter hPlace w level).symm.trans h
      · rw [openMainFile_of_fault hPlace hFault] at h ⊢
        cases hTemporary : w.temporary with
        | error tried =>
            rw [hTemporary] at h
            cases h
        | ok top =>
            simp only [hTemporary] at h ⊢
            exact openSpareFile_eq_openFirst h

theorem openErrorFile_eq_openFirst (store : Store) (wanted : Bool) :
    let opened := openFirst store (if wanted then ["error.log"] else [])
    (openErrorFile store wanted).1 = opened.1 ∧
      (openErrorFile store wanted).2.1 = opened.2.map errorsHandler := by
  cases wanted with
  | false => exact ⟨rfl, rfl⟩
  | true =>
      dsimp only
      rw [openErrorFile, openLogFile_eq, if_pos rfl, if_pos rfl]
      cases hPlace : (openPlace store "error.log").2 with
      | ok opened =>
          rw [openFirst_cons_of_ok hPlace]
          exact ⟨rfl, rfl⟩
      | error fault =>
          rw [openFirst_cons_of_error hPlace]
          exact ⟨rfl, rfl⟩

/-- The handlers of some files, with the one of the console between them. -/
def RootFiles.handlers (files : RootFiles) (level : Int) (console : Option Handler) :
    List Handler :=
  (files.main.map (mainHandler level)).toList ++ console.toList ++
    (files.errors.map errorsHandler).toList

/-- A logger with the spare handler if it has none. -/
def Logger.furnished (l : Logger) (console : Nat) : Logger :=
  if l.handlers.isEmpty then { l with handlers := [spareHandler console] } else l

/-- What becomes of the journal of edits with the files that there are. -/
def journalLogger (w : SetupSurroundings) (store : Store) : Logger :=
  if isSwitchedOn w.journalSwitch then
    match (openPlace store "edittrace.log").2 with
    | .ok opened => ⟨10, [journalHandler opened], false, false⟩
    | .error _ => ⟨10, [], false, true⟩
  else ⟨10, [⟨.nowhere, 0, .bare⟩], false, true⟩

theorem Logger.furnished_of_some {l : Logger} (h : l.handlers ≠ []) (console : Nat) :
    l.furnished console = l := by
  rw [furnished, if_neg (by simpa using h)]

theorem Logger.level_furnished (l : Logger) (console : Nat) :
    (l.furnished console).level = l.level := by
  rw [furnished]
  split_ifs <;> rfl

theorem Logger.handlers_furnished (l : Logger) (console : Nat) :
    (l.furnished console).handlers =
      if l.handlers = [] then [spareHandler console] else l.handlers := by
  rw [furnished]
  simp only [List.isEmpty_iff]
  split_ifs <;> rfl

theorem Logger.handlers_furnished_ne_nil (l : Logger) (console : Nat) :
    (l.furnished console).handlers ≠ [] := by
  rw [handlers_furnished]
  split_ifs with h
  · exact List.cons_ne_nil _ _
  · exact h

section Sending

variable {n : Network}

theorem network_sendOnRoot (s : State) (level : Int) (text : String) (trace : Option String) :
    (s.sendOnRoot level text trace).network =
      ⟨s.network.root.furnished s.console, s.network.edits⟩ := by
  rw [State.sendOnRoot, State.network_send, Logger.furnished]
  split_ifs <;> rfl

/-- A root that has handlers is left as it is. -/
theorem network_sendOnRoot_of_some (h : s.network = n) (hSome : n.root.handlers ≠ []) (level : Int)
    (text : String) (trace : Option String) : (s.sendOnRoot level text trace).network = n := by
  subst h
  rw [network_sendOnRoot, Logger.furnished_of_some hSome]

theorem network_tell_of_some (h : s.network = n) (hSome : n.root.handlers ≠ [])
    (handler : Option Handler) (text : Handler → String) :
    (match handler with
      | some h => s.sendOnRoot 20 (text h) none
      | none => s).network = n := by
  cases handler with
  | some handler => exact network_sendOnRoot_of_some h hSome _ _ _
  | none => exact h

theorem network_announce_of_some (h : s.network = n) (hSome : n.root.handlers ≠ []) (path : String)
    (file console errors : Option Handler) : (announce path file console errors s).network = n := by
  have hLevel := network_sendOnRoot_of_some h hSome 20
    ("Logging setup complete. Root logger level: " ++ levelName s.network.root.level ++ ".") none
  exact network_tell_of_some (network_tell_of_some (network_tell_of_some hLevel hSome _ _)
    hSome _ _) hSome _ _

end Sending

theorem network_setUpJournal (w : SetupSurroundings) (s : State) : (setUpJournal w s).network =
    ⟨s.network.root.furnished s.console, journalLogger w s.store⟩ := by
  rw [setUpJournal, journalLogger, openLogFile_eq]
  dsimp only
  split_ifs
  · cases (openPlace s.store "edittrace.log").2 with
    | ok opened => exact network_sendOnRoot _ _ _ _
    | error fault => simp only [Except.map, network_sendOnRoot]
  · exact network_sendOnRoot _ _ _ _

namespace Plan

variable {p : Plan}

theorem Fits.openErrors (h : p.Fits w settings store) :
    (p.openErrors w store).1 = (rootFiles w p.wanted store).store ∧
      (p.openErrors w store).2.1 = (rootFiles w p.wanted store).errors.map errorsHandler := by
  have hStore := (openMainFile_eq_openFirst h.path h.main).1
  rw [Plan.openErrors, hStore]
  exact openErrorFile_eq_openFirst _ _

theorem Fits.handlers (h : p.Fits w settings s.store) :
    (p.equipped w s).network.root.handlers =
      (rootFiles w p.wanted s.store).handlers p.level (p.console s) := by
  have hMain := (openMainFile_eq_openFirst h.path h.main).2
  rw [equipped, h.openErrors.2, hMain]
  rfl

/-- The loggers after a setup: all that is left of those before is whether the root is disabled,
and whether it passes messages on. -/
theorem Fits.network (h : p.Fits w settings s.store) :
    (Log.setUp w settings s).1.network.root.level = p.level ∧
    (Log.setUp w settings s).1.network.root.handlers =
      (let handlers := (rootFiles w p.wanted s.store).handlers p.level (p.console s)
      if handlers = [] then [spareHandler s.console] else handlers) ∧
    (Log.setUp w settings s).1.network.edits =
      journalLogger w (rootFiles w p.wanted s.store).store := by
  have hJournal := network_setUpJournal w (p.equipped w s)
  have hNetwork := network_announce_of_some hJournal
    (Logger.handlers_furnished_ne_nil _ _) p.main.path p.main.handler (p.console s)
    (p.openErrors w s.store).2.1
  rw [h.setUp, hNetwork]
  refine ⟨Logger.level_furnished _ _, ?_, ?_⟩
  · rw [Logger.handlers_furnished, h.handlers]
    rfl
  · have hStore : (p.equipped w s).store = (p.openErrors w s.store).1 := rfl
    rw [hStore, h.openErrors.1]

end Plan

/-- A setup that comes to its end has a plan. -/
theorem exists_fits_of_done (h : (setUp w settings s).2 = .ok ()) :
    ∃ p : Plan, p.Fits w settings s.store := by
  have hPoints : ∀ t points, sectionOf settings = .ok t →
      (SetupSettings.ofTable t).logFile ≠ .points points := by
    intro t points hSection hPoints
    simp only [setUp, hSection, hPoints] at h
    split_ifs at h
  refine (fits_or_breaks w settings s.store hPoints).resolve_right fun hBreaks => ?_
  obtain ⟨fault, hFault⟩ := hBreaks.setUp
  cases h.symm.trans hFault

/-- What goes on between setups: messages are sent, on their channels or on a root that is given a
handler if it has none, the console is replaced, and files are changed from outside. -/
inductive Between (s : State) : State → Prop where
  | refl : Between s s
  | send {t : State} (h : Between s t) (sent : Stamp × Message) : Between s (t.sendAt sent)
  | sendOnRoot {t : State} (h : Between s t) (level : Int) (text : String)
      (trace : Option String) : Between s (t.sendOnRoot level text trace)
  | nextConsole {t : State} (h : Between s t) : Between s t.nextConsole
  | files {t : State} (h : Between s t) (store : Store) : Between s { t with store }

/-- It leaves the loggers alone once the root has handlers. -/
theorem Between.network {t : State} (h : Between s t) (hSome : s.network.root.handlers ≠ []) :
    t.network = s.network := by
  induction h with
  | refl => rfl
  | send h sent ih => exact (State.network_send _ _).trans ih
  | sendOnRoot h level text trace ih => exact network_sendOnRoot_of_some ih hSome level text trace
  | nextConsole h ih => exact ih
  | files h store ih => exact ih

end Sightline.Log
