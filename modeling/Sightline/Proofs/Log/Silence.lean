import Mathlib.Data.List.Basic
import Sightline.Proofs.Log.Equipment

/-! A log that is to leave the console alone. It does as long as a file can be opened for the root:
then the root has the handlers of files and no others, and nothing that is sent on the engine's
channel is printed. Without a file the root is left with no handler, and telling of the setup gives
it the spare one, which prints from then on. -/
namespace Sightline.Log

variable {w : SetupSurroundings} {settings t : Table} {s : State} {level : Int}

theorem exists_opened_of_mem_handlers {files : RootFiles} {h : Handler}
    (hMem : h ∈ files.handlers level none) :
    ∃ opened, h = mainHandler level opened ∨ h = errorsHandler opened := by
  simp only [RootFiles.handlers, Option.toList_none, List.append_nil, List.mem_append,
    Option.mem_toList, Option.map_eq_some_iff] at hMem
  obtain ⟨opened, -, rfl⟩ | ⟨opened, -, rfl⟩ := hMem
  · exact ⟨opened, .inl rfl⟩
  · exact ⟨opened, .inr rfl⟩

/-- A file handler is no handler of a console. -/
theorem sink_ne_console {files : RootFiles} {h : Handler} (hMem : h ∈ files.handlers level none)
    (n : Nat) : h.sink ≠ .console n := by
  obtain ⟨opened, rfl | rfl⟩ := exists_opened_of_mem_handlers hMem <;>
    simp [mainHandler, errorsHandler]

theorem printed_by_files (files : RootFiles) (level : Int) (console : Nat) (stamp : Stamp)
    (m : Message) :
    ((files.handlers level none).flatMap fun h => h.printed console stamp m) = [] := by
  rw [List.flatMap_eq_nil_iff]
  intro h hMem
  obtain ⟨opened, rfl | rfl⟩ := exists_opened_of_mem_handlers hMem
  · exact Handler.printed_file _ _ _ _ _ _ _ _ _
  · exact Handler.printed_file _ _ _ _ _ _ _ _ _

/-- The root after a setup that does not ask for the console. -/
theorem root_of_no_console (hSection : sectionOf settings = .ok t)
    (hOff : (SetupSettings.ofTable t).toConsole = false) (hDone : (setUp w settings s).2 = .ok ()) :
    ∃ level, levelOf (SetupSettings.ofTable t).fileLevel 10 = .ok level ∧
      (setUp w settings s).1.network.root.level = level ∧
      (setUp w settings s).1.network.root.handlers =
        let handlers := (rootFiles w (.ofTable t) s.store).handlers level none
        if handlers = [] then [spareHandler s.console] else handlers := by
  obtain ⟨p, hFits⟩ := exists_fits_of_done hDone
  obtain ⟨t', hSection', hWanted⟩ := hFits.wanted
  cases hSection.symm.trans hSection'
  have hConsole := hFits.consoleLevel
  rw [consoleLevelOf, hWanted, hOff, if_neg Bool.false_ne_true] at hConsole
  have hNone : p.console s = none := by
    rw [Plan.console, ← Except.ok.inj hConsole]
    rfl
  obtain ⟨hLevel, hHandlers, -⟩ := hFits.network
  rw [hWanted, hNone] at hHandlers
  exact ⟨p.level, hWanted ▸ hFits.level, hLevel, hHandlers⟩

/-- The spare handler prints what is sent to its console, whatever the level. -/
theorem printed_by_spareHandler {number console : Nat} (stamp : Stamp) {m : Message}
    (h : 0 < m.level) : (spareHandler number).printed console stamp m =
      if number = console then [Layout.short.write stamp m] else [] := by
  have hHigh : ¬m.level < (spareHandler number).level := Int.not_lt.mpr (Int.le_of_lt h)
  rw [Handler.printed, if_neg hHigh]
  rfl

/-- What a message on the engine's channel prints, however long the root has been left alone. -/
theorem shown_between {after later : State} (h : Between after later)
    (hSome : after.network.root.handlers ≠ []) (stamp : Stamp) {m : Message}
    (hChannel : m.channel = engineChannel) :
    (later.sendAt (stamp, m)).shown = later.shown ++
      (if 0 < m.level ∧ after.network.root.level ≤ m.level then
        after.network.root.handlers.flatMap fun h => h.printed later.console stamp m else []) := by
  have hSame := h.network hSome
  rw [← hSame]
  exact (State.sendAt_on_engineChannel stamp hChannel (hSame ▸ hSome)).2

/-- With the console left out of the settings, a setup for which a file can be opened gives the
root the handlers of these files and no handler of a console, and nothing that is sent on the
engine's channel is printed from then on. If no file can be opened, telling of the setup leaves the
root with the spare handler, and whatever the root lets through is printed on that console. -/
theorem console_spared_while_file_opens (hSection : sectionOf settings = .ok t)
    (hOff : (SetupSettings.ofTable t).toConsole = false) (hDone : (setUp w settings s).2 = .ok ()) :
    ∃ level, levelOf (SetupSettings.ofTable t).fileLevel 10 = .ok level ∧
      let after := (setUp w settings s).1
      let files := (rootFiles w (.ofTable t) s.store).handlers level none
      (files ≠ [] → after.network.root.handlers = files ∧
        (∀ h ∈ after.network.root.handlers, ∀ n, h.sink ≠ .console n) ∧
        ∀ later stamp m, Between after later → m.channel = engineChannel →
          (later.sendAt (stamp, m)).shown = later.shown) ∧
      (files = [] → after.network.root.handlers = [spareHandler s.console] ∧
        ∀ later stamp m, Between after later → m.channel = engineChannel →
          (later.sendAt (stamp, m)).shown = later.shown ++
            if 0 < m.level ∧ level ≤ m.level ∧ s.console = later.console then
              [Layout.short.write stamp m] else []) := by
  obtain ⟨level, hLevelOf, hLevel, hHandlers⟩ := root_of_no_console hSection hOff hDone
  refine ⟨level, hLevelOf, ?_⟩
  intro after files
  constructor
  · intro hFiles
    rw [if_neg hFiles] at hHandlers
    refine ⟨hHandlers, fun h hMem => sink_ne_console (hHandlers ▸ hMem), ?_⟩
    intro later stamp m hBetween hChannel
    rw [shown_between hBetween (hHandlers ▸ hFiles) stamp hChannel, hHandlers, printed_by_files,
      ite_self]
    simp
  · intro hFiles
    rw [if_pos hFiles] at hHandlers
    refine ⟨hHandlers, ?_⟩
    intro later stamp m hBetween hChannel
    have hSome : after.network.root.handlers ≠ [] := hHandlers ▸ List.cons_ne_nil _ _
    rw [shown_between hBetween hSome stamp hChannel, hLevel, hHandlers, List.flatMap_singleton]
    by_cases hSent : 0 < m.level ∧ level ≤ m.level
    · rw [if_pos hSent, printed_by_spareHandler stamp hSent.1]
      simp only [hSent, true_and]
    · rw [if_neg hSent, if_neg fun h => hSent ⟨h.1, h.2.1⟩]

/-- An error is filed and not printed. -/
theorem error_filed_only :
    let w : SetupSurroundings := ⟨.ok "/tmp", none⟩
    let settings : Table := [("logging", .table .block [("log_to_console", .bool false)])]
    let s := State.start (.empty "/work") ⟨"", ""⟩
    let m : Message := ⟨"codecursor", 40, "e", none⟩
    (setUp w settings s).2 = .ok () ∧
      let after := (setUp w settings s).1
      after.network.root.handlers = [mainHandler 10 ("/work/codecursor.log", ["codecursor.log"])] ∧
        (after.sendAt (⟨"", ""⟩, m)).shown = after.shown := by
  intro w settings s m
  let t : Table := [("log_to_console", .bool false)]
  have hSection : sectionOf settings = .ok t := by simp [sectionOf, settings, t, Table.get?]
  have hOff : (SetupSettings.ofTable t).toConsole = false := by decide +kernel
  have hDone : (setUp w settings s).2 = .ok () := by decide +kernel
  obtain ⟨level, hLevel, hOpened, -⟩ := console_spared_while_file_opens hSection hOff hDone
  have hTen : levelOf (SetupSettings.ofTable t).fileLevel 10 = .ok 10 := by decide +kernel
  cases hLevel.symm.trans hTen
  have hFiles : (rootFiles w (.ofTable t) s.store).handlers 10 none =
      [mainHandler 10 ("/work/codecursor.log", ["codecursor.log"])] := by decide +kernel
  obtain ⟨hHandlers, -, hSilent⟩ := hOpened (hFiles ▸ List.cons_ne_nil _ _)
  exact ⟨hDone, hHandlers.trans hFiles, hSilent _ _ m .refl rfl⟩

/-- With directories in place of the log file and of its replacement, the console is printed on. -/
theorem message_printed_without_files :
    let w : SetupSurroundings := ⟨.ok "/work/tmp", none⟩
    let settings : Table := [("logging", .table .block
      [("log_file", .text "d"), ("log_to_console", .bool false)])]
    let s := State.start ⟨"/work", [["d"], ["tmp"], ["tmp", "codecursor.log"]], []⟩ ⟨"", ""⟩
    let m : Message := ⟨"codecursor", 20, "i", none⟩
    (setUp w settings s).2 = .ok () ∧
      let after := (setUp w settings s).1
      ⟨.console after.console, 0, .short⟩ ∈ after.network.root.handlers ∧
        (after.sendAt (⟨"", ""⟩, m)).shown = after.shown ++ [Layout.short.write ⟨"", ""⟩ m] := by
  intro w settings s m
  let t : Table := [("log_file", .text "d"), ("log_to_console", .bool false)]
  have hSection : sectionOf settings = .ok t := by simp [sectionOf, settings, t, Table.get?]
  have hOff : (SetupSettings.ofTable t).toConsole = false := by decide +kernel
  have hDone : (setUp w settings s).2 = .ok () := by decide +kernel
  obtain ⟨level, hLevelOf, hLevel, hHandlers⟩ := root_of_no_console hSection hOff hDone
  have hTen : levelOf (SetupSettings.ofTable t).fileLevel 10 = .ok 10 := by decide +kernel
  cases hLevelOf.symm.trans hTen
  have hFiles : (rootFiles w (.ofTable t) s.store).handlers 10 none = [] := by decide +kernel
  rw [if_pos hFiles] at hHandlers
  have hConsole : (setUp w settings s).1.console = s.console := by decide +kernel
  refine ⟨hDone, ?_⟩
  generalize (setUp w settings s).1 = after at hLevel hHandlers hConsole ⊢
  have hSome : after.network.root.handlers ≠ [] := hHandlers ▸ List.cons_ne_nil _ _
  have hShown := shown_between .refl hSome ⟨"", ""⟩ (m := m) rfl
  rw [hLevel, if_pos (by decide), hHandlers, List.flatMap_singleton, hConsole,
    printed_by_spareHandler _ (by decide), if_pos rfl] at hShown
  refine ⟨?_, hShown⟩
  rw [hHandlers, hConsole]
  exact List.mem_cons_self

end Sightline.Log
