import Sightline.Log.Setup
import Mathlib.Tactic.SplitIfs

/-! Where a message goes. Its channel lets it through or not by a level, and then each handler on
the way up takes it or leaves it by its own; what is taken goes to the ends of files and of the
console, in the order of the handlers. Sending changes nothing else but the channels in use. -/
namespace Sightline.Log

namespace Handler

/-- What a handler adds to files for a message. -/
def filed (h : Handler) (stamp : Stamp) (m : Message) : List (Location × Text) :=
  if m.level < h.level then []
  else match h.sink with
    | .file _ place _ _ => [(place, h.layout.write stamp m)]
    | _ => []

/-- What a handler adds to the console with a number for a message. -/
def printed (h : Handler) (console : Nat) (stamp : Stamp) (m : Message) : List Text :=
  if m.level < h.level then []
  else match h.sink with
    | .console number => if number = console then [h.layout.write stamp m] else []
    | _ => []

variable (path : String) (place : Location) (maxBytes backups console : Nat) (level : Int)
  (layout : Layout) (stamp : Stamp) (m : Message)

@[simp] theorem filed_file :
    filed ⟨.file path place maxBytes backups, level, layout⟩ stamp m =
      if level ≤ m.level then [(place, layout.write stamp m)] else [] := by
  simp only [filed, ← Int.not_le, ite_not]

@[simp] theorem filed_console :
    filed ⟨.console console, level, layout⟩ stamp m = [] := by
  simp [filed]

@[simp] theorem printed_file :
    printed ⟨.file path place maxBytes backups, level, layout⟩ console stamp m = [] := by
  simp [printed]

@[simp] theorem printed_console :
    printed ⟨.console console, level, layout⟩ console stamp m =
      if level ≤ m.level then [layout.write stamp m] else [] := by
  simp only [printed, ← Int.not_le, ite_not, if_true]

end Handler

/-- The engine's own channel is right below the root, whatever channels are in use. -/
theorem standing_engineChannel (used : List String) : standing used engineChannel = .belowRoot := by
  have hAbove : above? used engineChannel = none := by
    have hBare : prefixesFrom engineChannel.toList.reverse = [] := by decide +kernel
    rw [above?, hBare]
    rfl
  have hLength : engineChannel.length = 9 + 1 := by decide +kernel
  have hBelow : isBelowEdits used engineChannel.length engineChannel = false := by
    rw [hLength, isBelowEdits, hAbove]
  have hRoot : (engineChannel = "" || engineChannel = rootChannel) = false := by decide +kernel
  have hEdits : engineChannel ≠ editsChannel := by decide +kernel
  rw [standing, hRoot, if_neg Bool.false_ne_true, if_neg hEdits, hBelow, if_neg Bool.false_ne_true]

namespace State

variable {s t u : State}

/-- The state with more at the ends of files and of the console. -/
def adding (s : State) (filed : List (Location × Text)) (printed : List Text) : State :=
  { s with written := s.written ++ filed, shown := s.shown ++ printed }

theorem adding_nil (s : State) : s.adding [] [] = s := by
  simp [adding]

theorem adding_adding (s : State) (filed filed' : List (Location × Text))
    (printed printed' : List Text) :
    (s.adding filed printed).adding filed' printed' =
      s.adding (filed ++ filed') (printed ++ printed') := by
  simp [adding, ← Array.toList_inj]

theorem show_eq (s : State) (t : Text) : s.show t = s.adding [] [t] := by
  simp [State.show, adding]

/-- A handler adds to a file, to the console or to nothing. -/
theorem write_eq (s : State) (m : Message) (h : Handler) :
    s.write m h = s.adding (h.filed s.stamp m) (h.printed s.console s.stamp m) := by
  rw [write, Handler.filed, Handler.printed]
  by_cases hLow : m.level < h.level
  · simp only [if_pos hLow, adding_nil]
  · simp only [if_neg hLow]
    cases h.sink with
    | file path place maxBytes backups => simp [adding]
    | nowhere => exact (adding_nil s).symm
    | console number =>
        dsimp only
        split_ifs
        · exact show_eq s _
        · exact (adding_nil s).symm

/-- Handlers add one after the other. -/
theorem foldl_write (handlers : List Handler) (s : State) (m : Message) :
    handlers.foldl (fun s h => s.write m h) s =
      s.adding (handlers.flatMap fun h => h.filed s.stamp m)
        (handlers.flatMap fun h => h.printed s.console s.stamp m) := by
  induction handlers generalizing s with
  | nil => exact (adding_nil s).symm
  | cons h rest ih =>
      rw [List.foldl_cons, ih, write_eq, adding_adding, List.flatMap_cons, List.flatMap_cons]
      rfl

/-- The state with a channel in use. -/
def use (s : State) (channel : String) : State :=
  if s.channels.contains channel then s else { s with channels := s.channels ++ [channel] }

theorem use_eq (s : State) (channel : String) :
    ∃ channels, s.use channel = { s with channels } := by
  rw [use]
  split_ifs
  · exact ⟨s.channels, rfl⟩
  · exact ⟨_, rfl⟩

/-- Sending a message adds to files and to the console, and brings its channel into use. -/
theorem send_eq (s : State) (m : Message) :
    ∃ filed printed, s.send m = (s.use m.channel).adding filed printed := by
  rw [send, ← use]
  cases (s.use m.channel).network.sends (standing s.channels m.channel) m.level with
  | false => exact ⟨[], [], (adding_nil _).symm⟩
  | true =>
      rw [if_pos rfl]
      cases (s.use m.channel).network.handlersFor (standing s.channels m.channel) with
      | cons h rest => exact ⟨_, _, foldl_write _ _ m⟩
      | nil =>
          dsimp only
          split_ifs
          · exact ⟨[], [], (adding_nil _).symm⟩
          · exact ⟨[], _, show_eq _ _⟩

/-- Sending leaves the loggers alone. -/
theorem network_send (s : State) (m : Message) : (s.send m).network = s.network := by
  obtain ⟨filed, printed, hSend⟩ := s.send_eq m
  obtain ⟨channels, hUse⟩ := s.use_eq m.channel
  rw [hSend, hUse]
  rfl

/-- The handlers that a message goes to: those on the way up from its channel that take messages of
its level, and none if the channel holds it back. -/
def recipients (s : State) (m : Message) : List Handler :=
  let standing := standing s.channels m.channel
  if s.network.sends standing m.level then
    (s.network.handlersFor standing).filter fun h => h.level ≤ m.level
  else []

theorem flatMap_takers {α : Type} {m : Message} {f : Handler → List α}
    (hLow : ∀ h, m.level < h.level → f h = []) (handlers : List Handler) :
    (handlers.filter fun h => h.level ≤ m.level).flatMap f = handlers.flatMap f := by
  induction handlers with
  | nil => rfl
  | cons h rest ih =>
      rw [List.filter_cons, List.flatMap_cons]
      split_ifs with hTakes
      · rw [List.flatMap_cons, ih]
      · have hLower : m.level < h.level := by simpa using hTakes
        rw [ih, hLow h hLower, List.nil_append]

theorem filed_by_takers (handlers : List Handler) (stamp : Stamp) (m : Message) :
    ((handlers.filter fun h => h.level ≤ m.level).flatMap fun h => h.filed stamp m) =
      handlers.flatMap fun h => h.filed stamp m :=
  flatMap_takers (fun _ hLow => if_pos hLow) handlers

theorem printed_by_takers (handlers : List Handler) (console : Nat) (stamp : Stamp) (m : Message) :
    ((handlers.filter fun h => h.level ≤ m.level).flatMap fun h => h.printed console stamp m) =
      handlers.flatMap fun h => h.printed console stamp m :=
  flatMap_takers (fun _ hLow => if_pos hLow) handlers

/-- A message that finds a handler on its way adds what its recipients add, each of them once. -/
theorem send_eq_recipients {m : Message}
    (hWay : s.network.sends (standing s.channels m.channel) m.level = true →
      s.network.handlersFor (standing s.channels m.channel) ≠ []) :
    s.send m = (s.use m.channel).adding ((s.recipients m).flatMap fun h => h.filed s.stamp m)
      ((s.recipients m).flatMap fun h => h.printed s.console s.stamp m) := by
  obtain ⟨channels, hUse⟩ := s.use_eq m.channel
  rw [send, ← use, recipients, hUse]
  dsimp only
  cases hSends : s.network.sends (standing s.channels m.channel) m.level with
  | false => exact (adding_nil _).symm
  | true =>
      obtain ⟨first, rest, hSome⟩ := List.exists_cons_of_ne_nil (hWay hSends)
      rw [if_pos rfl, if_pos rfl, hSome]
      dsimp only
      rw [foldl_write, filed_by_takers, printed_by_takers]

theorem recipients_on_engineChannel {m : Message} (hChannel : m.channel = engineChannel) :
    s.recipients m = if 0 < m.level ∧ s.network.root.level ≤ m.level then
      s.network.root.handlers.filter fun h => h.level ≤ m.level else [] := by
  have hSends : s.network.sends .belowRoot m.level =
      (decide (0 < m.level) && decide (s.network.root.level ≤ m.level)) := rfl
  rw [recipients, hChannel, standing_engineChannel, hSends]
  simp only [Bool.and_eq_true, decide_eq_true_eq]
  rfl

theorem handlersFor_engineChannel (s : State) :
    s.network.handlersFor (standing s.channels engineChannel) = s.network.root.handlers := by
  rw [standing_engineChannel]
  rfl

/-- How a state stands to one that it leads to: the console is the same and still shows what it has
shown, and the root is the same, unless it had no handlers. -/
structure Follows (s t : State) : Prop where
  console : t.console = s.console
  shown : s.shown.toList <+: t.shown.toList
  root : s.network.root.handlers ≠ [] → t.network.root = s.network.root

namespace Follows

theorem refl (s : State) : s.Follows s := ⟨rfl, List.prefix_rfl, fun _ => rfl⟩

theorem trans (hLeft : s.Follows t) (hRight : t.Follows u) : s.Follows u where
  console := hRight.console.trans hLeft.console
  shown := hLeft.shown.trans hRight.shown
  root h := by
    have hRoot := hLeft.root h
    rw [hRight.root (hRoot ▸ h), hRoot]

/-- In what else the two states differ does not matter. -/
theorem of_eq (hConsole : t.console = s.console) (hShown : t.shown = s.shown)
    (hRoot : t.network.root = s.network.root) : s.Follows t :=
  ⟨hConsole, hShown ▸ List.prefix_rfl, fun _ => hRoot⟩

theorem after (h : t.Follows u) (hConsole : t.console = s.console) (hShown : t.shown = s.shown)
    (hRoot : t.network.root = s.network.root) : s.Follows u :=
  (of_eq hConsole hShown hRoot).trans h

theorem withEdits (h : s.Follows t) (edits : Logger) :
    s.Follows { t with network.edits := edits } :=
  h.trans (of_eq rfl rfl rfl)

theorem send (s : State) (m : Message) : s.Follows (s.send m) := by
  obtain ⟨filed, printed, hSend⟩ := s.send_eq m
  obtain ⟨channels, hUse⟩ := s.use_eq m.channel
  rw [hSend, hUse]
  exact ⟨rfl, by simp [adding], fun _ => rfl⟩

theorem sendOnRoot (s : State) (level : Int) (text : String) (trace : Option String) :
    s.Follows (s.sendOnRoot level text trace) := by
  rw [State.sendOnRoot]
  dsimp only
  split_ifs with hNone
  · have hGiven : s.Follows { s with network.root.handlers := [spareHandler s.console] } :=
      ⟨rfl, List.prefix_rfl, fun h => absurd (List.isEmpty_iff.mp hNone) h⟩
    exact hGiven.trans (send _ _)
  · exact send s _

theorem setUpJournal (w : SetupSurroundings) (s : State) : s.Follows (setUpJournal w s) := by
  rw [Log.setUpJournal]
  dsimp only
  split_ifs
  · split
    · exact (sendOnRoot _ _ _ _).after rfl rfl rfl
    · refine withEdits ?_ _
      exact (sendOnRoot _ _ _ _).after rfl rfl rfl
  · exact (sendOnRoot _ _ _ _).after rfl rfl rfl

theorem tell (h : Option Handler) (text : Handler → String) (s : State) :
    s.Follows (match h with
      | some h => s.sendOnRoot 20 (text h) none
      | none => s) := by
  cases h with
  | some h => exact sendOnRoot s _ _ _
  | none => exact refl s

theorem announce (path : String) (file console errors : Option Handler) (s : State) :
    s.Follows (announce path file console errors s) :=
  ((sendOnRoot s _ _ _).trans (tell file _ _)).trans ((tell console _ _).trans (tell errors _ _))

end Follows

/-- Sends a message at a moment and from a place in the program. -/
def sendAt (s : State) (sent : Stamp × Message) : State := { s with stamp := sent.1 }.send sent.2

/-- Sends messages one after the other. -/
def sendAll (s : State) (sent : List (Stamp × Message)) : State := sent.foldl sendAt s

theorem Follows.sendAt (s : State) (sent : Stamp × Message) : s.Follows (s.sendAt sent) :=
  (send _ _).after rfl rfl rfl

theorem Follows.sendAll (sent : List (Stamp × Message)) (s : State) :
    s.Follows (s.sendAll sent) := by
  induction sent generalizing s with
  | nil => exact refl s
  | cons first rest ih => exact (sendAt s first).trans (ih _)

/-- What a message adds to files and to the console when it finds a handler on its way. -/
theorem sendAt_eq_recipients (stamp : Stamp) {m : Message}
    (hWay : s.network.sends (standing s.channels m.channel) m.level = true →
      s.network.handlersFor (standing s.channels m.channel) ≠ []) :
    (s.sendAt (stamp, m)).written =
      s.written ++ (s.recipients m).flatMap (fun h => h.filed stamp m) ∧
    (s.sendAt (stamp, m)).shown =
      s.shown ++ (s.recipients m).flatMap (fun h => h.printed s.console stamp m) := by
  obtain ⟨channels, hUse⟩ := State.use_eq { s with stamp } m.channel
  have hSend := send_eq_recipients (s := { s with stamp }) hWay
  rw [hUse] at hSend
  have hSent : s.sendAt (stamp, m) = State.send { s with stamp } m := rfl
  rw [hSent, hSend]
  exact ⟨rfl, rfl⟩

/-- What a message on the engine's channel adds to files and to the console: what each handler of
the root adds, if the level of the root lets the message through. -/
theorem sendAt_on_engineChannel (stamp : Stamp) {m : Message} (hChannel : m.channel = engineChannel)
    (hSome : s.network.root.handlers ≠ []) :
    (s.sendAt (stamp, m)).written = s.written ++
      (if 0 < m.level ∧ s.network.root.level ≤ m.level then
        s.network.root.handlers.flatMap fun h => h.filed stamp m else []) ∧
    (s.sendAt (stamp, m)).shown = s.shown ++
      (if 0 < m.level ∧ s.network.root.level ≤ m.level then
        s.network.root.handlers.flatMap fun h => h.printed s.console stamp m else []) := by
  obtain ⟨hWritten, hShown⟩ := sendAt_eq_recipients (s := s) stamp (m := m) fun _ => by
    rw [hChannel, handlersFor_engineChannel]
    exact hSome
  rw [recipients_on_engineChannel hChannel] at hWritten hShown
  rw [hWritten, hShown]
  split_ifs
  · rw [filed_by_takers, printed_by_takers]
    exact ⟨rfl, rfl⟩
  · exact ⟨rfl, rfl⟩

end State

end Sightline.Log
