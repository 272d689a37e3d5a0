import Mathlib.Data.List.Nodup
import Mathlib.Data.String.Basic
import Sightline.Proofs.Log.Equipment
import Sightline.Proofs.Text.Case

/-! Setups one after the other. The last one that came to its end decides alone on the handlers and
the level of the root and on the journal of edits, so that no handler is ever there twice, and
nothing that is sent is delivered twice. -/
namespace Sightline.Log

/-- The kind of a handler: at what size the file would be turned over and to how many, or the
console. -/
inductive HandlerKind where
  | file (maxBytes backups : Nat)
  | console
  | nowhere
  deriving DecidableEq, Repr

/-- The kind of a handler. -/
def Handler.kind (h : Handler) : HandlerKind :=
  match h.sink with
  | .file _ _ maxBytes backups => .file maxBytes backups
  | .console _ => .console
  | .nowhere => .nowhere

/-- The kinds that a setup gives to the root, in order: the file for everything, the console and the
file for errors. -/
def rootKinds : List HandlerKind := [.file 2097152 5, .console, .file 1048576 3]

/-- The switch asks for the journal of edits. -/
def AsksForJournal (switch : Option String) : Prop :=
  ∃ word, switch = some word ∧ String.ofList (Text.lower word.toList) ∈ ["1", "true", "yes"]

/-- Letters of other scripts make no difference to the switch. -/
theorem isSwitchedOn_iff (switch : Option String) :
    isSwitchedOn switch = true ↔ AsksForJournal switch := by
  have hNear : ∀ answer ∈ ["1", "true", "yes"], ∀ d ∈ answer.toList, ¬Text.IsFar d := by
    simp [Text.IsFar]
  have hSame (word : Text) (answer : String) (h : answer ∈ ["1", "true", "yes"]) :
      String.ofList (Text.lower word) = answer ↔
        String.ofList (word.map Char.toLower) = answer := by
    rw [String.ofList_eq, String.ofList_eq, Text.lower_eq_iff (hNear answer h)]
  cases switch with
  | none => simp [isSwitchedOn, AsksForJournal]
  | some word =>
      simp only [isSwitchedOn, AsksForJournal, List.contains_iff_mem, Option.some.injEq,
        exists_eq_left']
      exact ⟨fun h => (hSame _ _ h).mpr rfl ▸ h, fun h => (hSame _ _ h).mp rfl ▸ h⟩

variable {w : SetupSurroundings} {settings : Table} {store : Store} {s t : State} {m : Message}

section Root

variable {files : RootFiles} {level : Int} {console : Option Handler}

theorem kinds_of_option {α : Type} {f : α → Handler} {kind : HandlerKind}
    (h : ∀ a, (f a).kind = kind) (a : Option α) :
    ((a.map f).toList.map Handler.kind).Sublist [kind] := by
  cases a with
  | none => exact List.nil_sublist _
  | some a => simp [h]

theorem kinds_handlers {p : Plan} (files : RootFiles) (level : Int) :
    ((files.handlers level (p.console s)).map Handler.kind).Sublist rootKinds := by
  have hMain := kinds_of_option (f := mainHandler level) (fun _ => rfl) files.main
  have hConsole := kinds_of_option (f := fun level => ⟨.console s.console, level, .console⟩)
    (fun _ => rfl) p.consoleLevel
  have hErrors := kinds_of_option (f := errorsHandler) (fun _ => rfl) files.errors
  rw [RootFiles.handlers, List.map_append, List.map_append]
  exact (hMain.append hConsole).append hErrors

theorem layout_handlers {p : Plan} {h : Handler}
    (hMem : h ∈ files.handlers level (p.console s)) : h.layout ≠ .journal := by
  simp only [RootFiles.handlers, Plan.console, List.mem_append, Option.mem_toList,
    Option.map_eq_some_iff] at hMem
  obtain (⟨_, -, rfl⟩ | ⟨_, -, rfl⟩) | ⟨_, -, rfl⟩ := hMem <;> nofun

end Root

/-- A root with handlers, none of which is of the same kind as another or of a kind that no setup
gives, and none of which writes the journal. -/
structure Logger.Tidy (root : Logger) : Prop where
  some : root.handlers ≠ []
  kinds : (root.handlers.map Handler.kind).Sublist rootKinds
  layouts : ∀ h ∈ root.handlers, h.layout ≠ .journal

theorem tidy_after_setUp (hDone : (setUp w settings s).2 = .ok ()) :
    (setUp w settings s).1.network.root.Tidy := by
  obtain ⟨p, hFits⟩ := exists_fits_of_done hDone
  obtain ⟨-, hHandlers, -⟩ := hFits.network
  generalize (setUp w settings s).1.network.root = root at hHandlers ⊢
  by_cases hNone : (rootFiles w p.wanted s.store).handlers p.level (p.console s) = []
  · rw [if_pos hNone] at hHandlers
    constructor
    · rw [hHandlers]
      exact List.cons_ne_nil _ _
    · rw [hHandlers]
      exact List.singleton_sublist.mpr (by decide : HandlerKind.console ∈ rootKinds)
    · rw [hHandlers]
      exact List.forall_mem_singleton.mpr nofun
  · rw [if_neg hNone] at hHandlers
    constructor
    · rwa [hHandlers]
    · rw [hHandlers]
      exact kinds_handlers _ _
    · rw [hHandlers]
      exact fun h hMem => layout_handlers hMem

theorem Logger.Tidy.nodup {root : Logger} (h : root.Tidy) :
    (root.handlers.map Handler.kind).Nodup :=
  h.kinds.nodup (by decide)

/-- A setup is the same, as far as the loggers go, whatever these were like before. -/
theorem loggers_after_setUp (hStore : t.store = s.store) (hConsole : t.console = s.console)
    (hDone : (setUp w settings s).2 = .ok ()) :
    (setUp w settings t).2 = .ok () ∧
      (setUp w settings t).1.network.root.level = (setUp w settings s).1.network.root.level ∧
      (setUp w settings t).1.network.root.handlers =
        (setUp w settings s).1.network.root.handlers ∧
      (setUp w settings t).1.network.edits = (setUp w settings s).1.network.edits := by
  obtain ⟨p, hFits⟩ := exists_fits_of_done hDone
  have hFits' : p.Fits w settings t.store := hStore ▸ hFits
  have hSame : p.console t = p.console s := by rw [Plan.console, Plan.console, hConsole]
  obtain ⟨hLevel, hHandlers, hEdits⟩ := hFits.network
  obtain ⟨hLevel', hHandlers', hEdits'⟩ := hFits'.network
  rw [hStore, hConsole, hSame] at hHandlers'
  rw [hStore] at hEdits'
  exact ⟨by rw [hFits'.setUp], hLevel'.trans hLevel.symm, hHandlers'.trans hHandlers.symm,
    hEdits'.trans hEdits.symm⟩

/-- What a message adds to files and to the console is what its recipients add, one by one. -/
def Delivers (s : State) (stamp : Stamp) (m : Message) : Prop :=
  (s.sendAt (stamp, m)).written =
      s.written ++ (s.recipients m).flatMap (fun h => h.filed stamp m) ∧
    (s.sendAt (stamp, m)).shown =
      s.shown ++ (s.recipients m).flatMap fun h => h.printed s.console stamp m

theorem delivers_on_engineChannel (hChannel : m.channel = engineChannel)
    (hSome : s.network.root.handlers ≠ []) (stamp : Stamp) :
    Delivers s stamp m ∧ (s.recipients m).Sublist s.network.root.handlers := by
  refine ⟨State.sendAt_eq_recipients stamp fun _ => ?_, ?_⟩
  · rw [hChannel, State.handlersFor_engineChannel]
    exact hSome
  · rw [State.recipients_on_engineChannel hChannel]
    split_ifs
    · exact List.filter_sublist
    · exact List.nil_sublist _

section Edits

theorem standing_editsChannel (used : List String) : standing used editsChannel = .edits := by
  have hRoot : (editsChannel = "" || editsChannel = rootChannel) = false := by decide +kernel
  rw [standing, hRoot, if_neg Bool.false_ne_true, if_pos rfl]

/-- A journal that is open takes each edit. -/
theorem recipients_of_open_journal {opened : String × Location}
    (hEdits : s.network.edits = ⟨10, [journalHandler opened], false, false⟩)
    (hChannel : m.channel = editsChannel) (hLevel : 10 ≤ m.level) :
    s.recipients m = [journalHandler opened] := by
  have hPositive : 0 < m.level := by omega
  have hTakes : (journalHandler opened).level ≤ m.level := Int.le_of_lt hPositive
  rw [State.recipients, hChannel, standing_editsChannel]
  simp [Network.sends, Network.editsLevel, Network.handlersFor, hEdits, hPositive, hLevel, hTakes]

/-- A journal that is disabled takes none. -/
theorem recipients_of_shut_journal (hEdits : s.network.edits.disabled = true)
    (hChannel : m.channel = editsChannel) : s.recipients m = [] := by
  rw [State.recipients, hChannel, standing_editsChannel]
  simp [Network.sends, hEdits]

theorem delivers_on_editsChannel (hChannel : m.channel = editsChannel)
    (hWay : s.network.edits.disabled = true ∨ s.network.edits.handlers ≠ []) (stamp : Stamp) :
    Delivers s stamp m := by
  refine State.sendAt_eq_recipients stamp fun hSends => ?_
  rw [hChannel, standing_editsChannel] at hSends ⊢
  obtain hDisabled | hSome := hWay
  · simp [Network.sends, hDisabled] at hSends
  · exact List.append_ne_nil_of_left_ne_nil hSome _

end Edits

/-- The journal of edits is asked for, and its file can be opened once those for the root are. -/
def OpensJournal (w : SetupSurroundings) (settings : Table) (store : Store)
    (opened : String × Location) : Prop :=
  AsksForJournal w.journalSwitch ∧ ∃ t, sectionOf settings = .ok t ∧
    (openPlace (rootFiles w (.ofTable t) store).store "edittrace.log").2 = .ok opened

theorem journalLogger_of_asked (h : AsksForJournal w.journalSwitch) (store : Store) :
    journalLogger w store =
      match (openPlace store "edittrace.log").2 with
      | .ok opened => ⟨10, [journalHandler opened], false, false⟩
      | .error _ => ⟨10, [], false, true⟩ :=
  if_pos ((isSwitchedOn_iff _).mpr h)

theorem journalLogger_of_not_asked (h : ¬AsksForJournal w.journalSwitch) (store : Store) :
    journalLogger w store = ⟨10, [⟨.nowhere, 0, .bare⟩], false, true⟩ :=
  if_neg (mt (isSwitchedOn_iff _).mp h)

/-- After a setup the journal is open, or it is disabled. -/
theorem edits_after_setUp (hDone : (setUp w settings s).2 = .ok ()) :
    let edits := (setUp w settings s).1.network.edits
    (∀ opened, OpensJournal w settings s.store opened →
      edits = ⟨10, [journalHandler opened], false, false⟩) ∧
    ((∀ opened, ¬OpensJournal w settings s.store opened) → edits.disabled = true) := by
  obtain ⟨p, hFits⟩ := exists_fits_of_done hDone
  obtain ⟨-, -, hEdits⟩ := hFits.network
  obtain ⟨t, hSection, hWanted⟩ := hFits.wanted
  rw [hWanted] at hEdits
  intro edits
  constructor
  · rintro opened ⟨hAsks, t', hSection', hOpened⟩
    cases hSection.symm.trans hSection'
    rw [journalLogger_of_asked hAsks, hOpened] at hEdits
    exact hEdits
  · intro hNone
    by_cases hAsks : AsksForJournal w.journalSwitch
    · rw [journalLogger_of_asked hAsks] at hEdits
      split at hEdits
      next opened hOpened => exact absurd ⟨hAsks, t, hSection, hOpened⟩ (hNone opened)
      next => exact congrArg Logger.disabled hEdits
    · rw [journalLogger_of_not_asked hAsks] at hEdits
      exact congrArg Logger.disabled hEdits

/-- A setup that came to its end, with the state that it found. -/
structure Occasion where
  surroundings : SetupSurroundings
  settings : Table
  before : State

/-- Setups that came to their end, the last one first, and where they lead to with all that has gone
on between them and since. -/
inductive History (start : State) : List Occasion → State → Prop where
  | start : History start [] start
  | next {past : List Occasion} {before after : State} {w : SetupSurroundings} {settings : Table}
      (prior : History start past before) (hDone : (setUp w settings before).2 = .ok ())
      (hSince : Between (setUp w settings before).1 after) :
      History start (⟨w, settings, before⟩ :: past) after

/-- The last setup decides on the loggers. -/
theorem History.network {start after : State} {past : List Occasion}
    (h : History start (⟨w, settings, s⟩ :: past) after) :
    (setUp w settings s).2 = .ok () ∧ after.network = (setUp w settings s).1.network := by
  cases h with
  | next prior hDone hSince => exact ⟨hDone, hSince.network (tidy_after_setUp hDone).some⟩

/-- What an edit adds to files and to the console: what is written into the journal if that is open,
and else nothing. -/
theorem edit_delivered (hTidy : s.network.root.Tidy) (hChannel : m.channel = editsChannel)
    (hLevel : 10 ≤ m.level) (stamp : Stamp) :
    (∀ opened, s.network.edits = ⟨10, [journalHandler opened], false, false⟩ →
      s.recipients m = [journalHandler opened] ∧
      (s.sendAt (stamp, m)).written =
        s.written ++ [(opened.2, Layout.journal.write stamp m)] ∧
      (s.sendAt (stamp, m)).shown = s.shown ∧ journalHandler opened ∉ s.network.root.handlers) ∧
    (s.network.edits.disabled = true → s.recipients m = [] ∧
      (s.sendAt (stamp, m)).written = s.written ∧ (s.sendAt (stamp, m)).shown = s.shown) := by
  constructor
  · intro opened hEdits
    have hRecipients := recipients_of_open_journal hEdits hChannel hLevel
    have hWay : s.network.edits.handlers ≠ [] := hEdits ▸ List.cons_ne_nil _ _
    obtain ⟨hWritten, hShown⟩ := delivers_on_editsChannel hChannel (.inr hWay) stamp
    rw [hRecipients] at hWritten hShown
    have hTakes : 0 ≤ m.level := by omega
    refine ⟨hRecipients, ?_, ?_, fun hMem => hTidy.layouts _ hMem rfl⟩
    · rw [hWritten, List.flatMap_singleton, journalHandler, Handler.filed_file, if_pos hTakes]
    · rw [hShown, List.flatMap_singleton, journalHandler, Handler.printed_file]
      simp
  · intro hDisabled
    have hRecipients := recipients_of_shut_journal hDisabled hChannel
    obtain ⟨hWritten, hShown⟩ := delivers_on_editsChannel hChannel (.inl hDisabled) stamp
    rw [hRecipients, List.flatMap_nil] at hWritten hShown
    exact ⟨hRecipients, by simpa using hWritten, by simpa using hShown⟩

/-- Of setups only the last one leaves a trace. With the same settings, files and console it comes
to the same level and handlers of the root and the same journal of edits from whatever loggers it
finds. So the root never has two handlers of one kind, each of its handlers gets a message on the
engine's channel at most once, and an edit goes into the journal, once, if the last setup opened
that, and else nowhere; the root has no part in it. -/
theorem setups_leave_no_trace (w : SetupSurroundings) (settings : Table) :
    (∀ s t : State, t.store = s.store → t.console = s.console → (setUp w settings s).2 = .ok () →
      (setUp w settings t).2 = .ok () ∧
      (setUp w settings t).1.network.root.level = (setUp w settings s).1.network.root.level ∧
      (setUp w settings t).1.network.root.handlers =
        (setUp w settings s).1.network.root.handlers ∧
      (setUp w settings t).1.network.edits = (setUp w settings s).1.network.edits) ∧
    ∀ start past before after, History start (⟨w, settings, before⟩ :: past) after →
      (after.network.root.handlers.map Handler.kind).Sublist rootKinds ∧
      (∀ stamp m, m.channel = engineChannel → Delivers after stamp m ∧
        (after.recipients m).Sublist after.network.root.handlers ∧ (after.recipients m).Nodup) ∧
      ∀ stamp m, m.channel = editsChannel → 10 ≤ m.level →
        (∀ opened, OpensJournal w settings before.store opened →
          after.recipients m = [journalHandler opened] ∧
          (after.sendAt (stamp, m)).written =
            after.written ++ [(opened.2, Layout.journal.write stamp m)] ∧
          (after.sendAt (stamp, m)).shown = after.shown) ∧
        ((∀ opened, ¬OpensJournal w settings before.store opened) →
          after.recipients m = [] ∧ (after.sendAt (stamp, m)).written = after.written ∧
          (after.sendAt (stamp, m)).shown = after.shown) ∧
        ∀ h ∈ after.recipients m, h ∉ after.network.root.handlers := by
  refine ⟨fun s t hStore hConsole hDone => loggers_after_setUp hStore hConsole hDone, ?_⟩
  intro start past before after hHistory
  obtain ⟨hDone, hNetwork⟩ := hHistory.network
  have hTidy : after.network.root.Tidy := hNetwork ▸ tidy_after_setUp hDone
  obtain ⟨hOpen, hShut⟩ := edits_after_setUp hDone
  rw [← hNetwork] at hOpen hShut
  refine ⟨hTidy.kinds, ?_, ?_⟩
  · intro stamp m hChannel
    obtain ⟨hDelivers, hSublist⟩ := delivers_on_engineChannel hChannel hTidy.some stamp
    exact ⟨hDelivers, hSublist, (List.Nodup.of_map _ hTidy.nodup).sublist hSublist⟩
  · intro stamp m hChannel hLevel
    obtain ⟨hTaken, hRefused⟩ := edit_delivered hTidy hChannel hLevel stamp
    refine ⟨fun opened hOpens => ?_, fun hNone => hRefused (hShut hNone), fun h hMem => ?_⟩
    · obtain ⟨hRecipients, hWritten, hShown, -⟩ := hTaken opened (hOpen opened hOpens)
      exact ⟨hRecipients, hWritten, hShown⟩
    · by_cases hOpens : ∃ opened, OpensJournal w settings before.store opened
      · obtain ⟨opened, hOpens⟩ := hOpens
        obtain ⟨hRecipients, -, -, hAway⟩ := hTaken opened (hOpen opened hOpens)
        rw [hRecipients, List.mem_singleton] at hMem
        exact hMem ▸ hAway
      · obtain ⟨hNobody, -⟩ := hRefused (hShut (not_exists.mp hOpens))
        rw [hNobody] at hMem
        exact absurd hMem List.not_mem_nil

/-- The journal is opened by a second setup that asks for it after one that does not, and an edit
goes there and nowhere else; the loggers are as though there had been no first setup. -/
theorem journal_opened_at_last :
    let silent : SetupSurroundings := ⟨.ok "/tmp", none⟩
    let asking : SetupSurroundings := ⟨.ok "/tmp", some "Yes"⟩
    let s := State.start (.empty "/work") ⟨"", ""⟩
    let once := (setUp silent [] s).1
    let twice := (setUp asking [] once).1
    let journal := journalHandler ("/work/edittrace.log", ["edittrace.log"])
    let edit : Message := ⟨editsChannel, 20, "e", none⟩
    (setUp silent [] s).2 = .ok () ∧ (setUp asking [] once).2 = .ok () ∧
      once.network.edits.disabled = true ∧
      (twice.recipients edit = [journal] ∧
        (twice.sendAt (⟨"", ""⟩, edit)).written =
          twice.written ++ [(["edittrace.log"], Layout.journal.write ⟨"", ""⟩ edit)] ∧
        (twice.sendAt (⟨"", ""⟩, edit)).shown = twice.shown) ∧
      (setUp asking [] { s with store := once.store }).1.network.edits = twice.network.edits := by
  intro silent asking s once twice journal edit
  have hOnce : (setUp silent [] s).2 = .ok () := by decide +kernel
  have hTwice : (setUp asking [] once).2 = .ok () := by decide +kernel
  have hHistory : History s [⟨asking, [], once⟩, ⟨silent, [], s⟩] twice :=
    .next (.next .start hOnce .refl) hTwice .refl
  have hOpens : OpensJournal asking [] once.store ("/work/edittrace.log", ["edittrace.log"]) :=
    ⟨⟨"Yes", rfl, by decide +kernel⟩, [], rfl, by decide +kernel⟩
  have hConsole : s.console = once.console := by decide +kernel
  have hShut : once.network.edits.disabled = true := by decide +kernel
  have hAgain : (setUp asking [] once).1 = twice := rfl
  clear_value twice once
  obtain ⟨hTwoRuns, hRuns⟩ := setups_leave_no_trace asking []
  obtain ⟨-, -, hEdits⟩ := hRuns s _ once twice hHistory
  obtain ⟨hTaken, -, -⟩ := hEdits ⟨"", ""⟩ edit rfl (by decide)
  obtain ⟨-, -, -, hSame⟩ := hTwoRuns once { s with store := once.store } rfl hConsole hTwice
  rw [hAgain] at hSame
  exact ⟨hOnce, hTwice, hShut, hTaken _ hOpens, hSame⟩

end Sightline.Log
