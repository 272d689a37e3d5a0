import Mathlib.Data.List.Basic
import Sightline.Setting.Merge

/-! Overlaying where tables are held by their place, so that several may hold the same one. The
result starts as a copy of the base and is filled in place; nothing else is written to. Such a run
exists and is the only one, leaves every table there was as it is, and makes the table that the
overlay of one table on another stands for. -/
namespace Sightline

/-- What an entry holds: a value that is no table, or the place of a table. -/
inductive Slot where
  | value (v : Value)
  | place (n : Nat)

/-- What stands at a place. -/
structure Cell where
  style : Style
  entries : List (String × Slot)

/-- All tables, in the order in which they were made; a place is an index. -/
abbrev Memory := List Cell

namespace Cell

/-- What some entries hold under a key. -/
def get? (key : String) : List (String × Slot) → Option Slot
  | [] => none
  | (name, slot) :: rest => if name = key then some slot else get? key rest

/-- The entries with `slot` at `key`. -/
def put (key : String) (slot : Slot) : List (String × Slot) → List (String × Slot)
  | [] => [(key, slot)]
  | (name, old) :: rest =>
    if name = key then (name, slot) :: rest else (name, old) :: put key slot rest

end Cell

namespace Memory

/-- What the table at a place holds under a key. -/
def slot? (m : Memory) (n : Nat) (key : String) : Option Slot :=
  m[n]?.bind fun cell => Cell.get? key cell.entries

/-- Memory with `slot` at a key of the table at a place. -/
def write (m : Memory) (n : Nat) (key : String) (slot : Slot) : Memory :=
  m.modify n fun cell => { cell with entries := Cell.put key slot cell.entries }

/-- Entries are put over the table at `result` one after the other. Where both sides hold a table,
a copy of the old one is made at the next place and overlaid in turn. -/
inductive Run : Memory → Nat → List (String × Slot) → Memory → Prop
  | done {m : Memory} {result : Nat} : Run m result [] m
  | put {m after : Memory} {result : Nat} {key : String} {slot : Slot}
      {rest : List (String × Slot)}
      (hNot : ∀ a b, m.slot? result key = some (.place a) → slot ≠ .place b)
      (hRest : Run (m.write result key slot) result rest after) :
      Run m result ((key, slot) :: rest) after
  | descend {m called after : Memory} {result a b : Nat} {key : String} {old new : Cell}
      {rest : List (String × Slot)} (hOld : m.slot? result key = some (.place a))
      (hBase : m[a]? = some old) (hOverlay : m[b]? = some new)
      (hCall : Run (m ++ [⟨.block, old.entries⟩]) m.length new.entries called)
      (hRest : Run (called.write result key (.place m.length)) result rest after) :
      Run m result ((key, .place b) :: rest) after

/-- The table at `overlay` is put over a copy of the table at `base`, which is made at `result`. -/
def Merges (before : Memory) (base overlay : Nat) (after : Memory) (result : Nat) : Prop :=
  ∃ old new, before[base]? = some old ∧ before[overlay]? = some new ∧ result = before.length ∧
    Run (before ++ [⟨.block, old.entries⟩]) result new.entries after

/-- What is run and where decides on how it ends. -/
theorem Run.deterministic {m after after' : Memory} {result : Nat} {slots : List (String × Slot)}
    (h : Run m result slots after) (h' : Run m result slots after') : after = after' := by
  induction h generalizing after' with
  | done =>
      cases h'
      rfl
  | put hNot hRest ih =>
      cases h' with
      | put hNot' hRest' => exact ih hRest'
      | descend hOld hBase hOverlay hCall hRest' => exact absurd rfl (hNot _ _ hOld)
  | descend hOld hBase hOverlay hCall hRest ihCall ih =>
      cases h' with
      | put hNot hRest' => exact absurd rfl (hNot _ _ hOld)
      | descend hOld' hBase' hOverlay' hCall' hRest' =>
          cases hOld.symm.trans hOld'
          cases hBase.symm.trans hBase'
          cases hOverlay.symm.trans hOverlay'
          obtain rfl := ihCall hCall'
          exact ih hRest'

theorem Merges.deterministic {before after after' : Memory} {base overlay result result' : Nat}
    (h : Merges before base overlay after result)
    (h' : Merges before base overlay after' result') : after = after' ∧ result = result' := by
  obtain ⟨old, new, hOld, hNew, rfl, hRun⟩ := h
  obtain ⟨old', new', hOld', hNew', rfl, hRun'⟩ := h'
  cases hOld.symm.trans hOld'
  cases hNew.symm.trans hNew'
  exact ⟨hRun.deterministic hRun', rfl⟩

/-- Entries hold the values of a table, where `look` says what stands at a place. -/
inductive Shows (look : Nat → Option Cell) : List (String × Slot) → Table → Prop
  | nil : Shows look [] []
  | value {slots : List (String × Slot)} {t : Table} {key : String} {v : Value}
      (hNot : ¬v.IsTable) (hRest : Shows look slots t) :
      Shows look ((key, .value v) :: slots) ((key, v) :: t)
  | place {slots entries : List (String × Slot)} {t inner : Table} {key : String} {n : Nat}
      {style : Style} (hLook : look n = some ⟨style, entries⟩) (hInner : Shows look entries inner)
      (hRest : Shows look slots t) :
      Shows look ((key, .place n) :: slots) ((key, .table style inner) :: t)

/-- Whatever stands at a place for `look` stands there for `look'`. -/
def Extends (look look' : Nat → Option Cell) : Prop :=
  ∀ n cell, look n = some cell → look' n = some cell

theorem Extends.trans {look look' look'' : Nat → Option Cell} (h : Extends look look')
    (h' : Extends look' look'') : Extends look look'' := by
  intro n cell hLook
  exact h' n cell (h n cell hLook)

variable {look look' : Nat → Option Cell} {slots : List (String × Slot)} {t : Table}

theorem Shows.mono (hExtends : Extends look look') (h : Shows look slots t) :
    Shows look' slots t := by
  induction h with
  | nil => exact .nil
  | value hNot _ ih => exact .value hNot ih
  | place hLook _ _ ihInner ih => exact .place (hExtends _ _ hLook) ihInner ih

/-- A slot holds a value. -/
inductive Holds (look : Nat → Option Cell) : Slot → Value → Prop
  | value {v : Value} (hNot : ¬v.IsTable) : Holds look (.value v) v
  | place {n : Nat} {style : Style} {entries : List (String × Slot)} {t : Table}
      (hLook : look n = some ⟨style, entries⟩) (hInner : Shows look entries t) :
      Holds look (.place n) (.table style t)

theorem Shows.cons {key : String} {slot : Slot} {v : Value} (hSlot : Holds look slot v)
    (h : Shows look slots t) : Shows look ((key, slot) :: slots) ((key, v) :: t) := by
  cases hSlot with
  | value hNot => exact .value hNot h
  | place hLook hInner => exact .place hLook hInner h

theorem Shows.get? (h : Shows look slots t) (key : String) :
    Option.Rel (Holds look) (Cell.get? key slots) (Table.get? key t) := by
  induction h with
  | nil => exact .none
  | value hNot _ ih =>
      rw [Cell.get?, Table.get?]
      split
      · exact .some (.value hNot)
      · exact ih
  | place hLook hInner _ _ ih =>
      rw [Cell.get?, Table.get?]
      split
      · exact .some (.place hLook hInner)
      · exact ih

theorem Shows.put {key : String} {slot : Slot} {v : Value} (hSlot : Holds look slot v)
    (h : Shows look slots t) : Shows look (Cell.put key slot slots) (Table.set key v t) := by
  induction h with
  | nil => exact .cons hSlot .nil
  | @value slots t name w hNot hRest ih =>
      rw [Cell.put, Table.set]
      split
      · exact .cons hSlot hRest
      · exact .value hNot ih
  | place hLook hInner hRest _ ih =>
      rw [Cell.put, Table.set]
      split
      · exact .cons hSlot hRest
      · exact .place hLook hInner ih

/-- What stands at the places of memory, tables in the making left out. -/
def view (m : Memory) (hidden : List Nat) (n : Nat) : Option Cell :=
  if n ∈ hidden then none else m[n]?

variable {m m' m'' : Memory} {hidden : List Nat} {n result : Nat} {cell : Cell}
  {entries : List (String × Slot)} {key : String}

theorem view_eq_some_iff :
    m.view hidden n = some cell ↔ n ∉ hidden ∧ m[n]? = some cell := by
  rw [view]
  split
  next hn => simp [hn]
  next hn => simp [hn]

/-- Tables may be added, and the one at a place be written to. -/
structure KeptBut (result : Nat) (before after : Memory) : Prop where
  length_le : before.length ≤ after.length
  getElem?_eq : ∀ n, n < before.length → n ≠ result → after[n]? = before[n]?

theorem KeptBut.trans (h : KeptBut result m m')
    (h' : KeptBut result m' m'') : KeptBut result m m'' := by
  refine ⟨Nat.le_trans h.length_le h'.length_le, ?_⟩
  intro n hn hNot
  rw [h'.getElem?_eq n (Nat.lt_of_lt_of_le hn h.length_le) hNot, h.getElem?_eq n hn hNot]

theorem keptBut_write (m : Memory) (result : Nat) (key : String) (slot : Slot) :
    KeptBut result m (m.write result key slot) := by
  refine ⟨by simp [write], ?_⟩
  intro n _ hNot
  rw [write, List.getElem?_modify_ne _ _ (Ne.symm hNot)]

theorem keptBut_of_isPrefix (h : m <+: m') (result : Nat) : KeptBut result m m' := by
  obtain ⟨more, rfl⟩ := h
  refine ⟨by simp, ?_⟩
  intro n hn _
  exact List.getElem?_append_left hn

/-- Writing to the table made last keeps those from before. -/
theorem KeptBut.prefix_of_append (h : KeptBut m.length (m ++ [cell]) m') : m <+: m' := by
  rw [List.prefix_iff_getElem?]
  intro n hn
  rw [h.getElem?_eq n (by simp; omega) (Nat.ne_of_lt hn), List.getElem?_append_left hn,
    List.getElem?_eq_getElem hn]

theorem KeptBut.extends_view (h : KeptBut result m m') (hResult : result ∈ hidden) :
    Extends (m.view hidden) (m'.view hidden) := by
  intro n cell hLook
  obtain ⟨hn, hCell⟩ := view_eq_some_iff.mp hLook
  have hBound := (List.getElem?_eq_some_iff.mp hCell).1
  have hNot : n ≠ result := (ne_of_mem_of_not_mem hResult hn).symm
  exact view_eq_some_iff.mpr ⟨hn, (h.getElem?_eq n hBound hNot).trans hCell⟩

theorem extends_view_of_isPrefix (h : m <+: m') (hidden : List Nat) :
    Extends (m.view hidden) (m'.view hidden) := by
  obtain ⟨more, rfl⟩ := h
  intro n cell hLook
  obtain ⟨hn, hCell⟩ := view_eq_some_iff.mp hLook
  have hBound := (List.getElem?_eq_some_iff.mp hCell).1
  exact view_eq_some_iff.mpr ⟨hn, (List.getElem?_append_left hBound).trans hCell⟩

theorem extends_view_cons (m : Memory) (hidden : List Nat) (result : Nat) :
    Extends (m.view (result :: hidden)) (m.view hidden) := by
  intro n cell hLook
  obtain ⟨hn, hCell⟩ := view_eq_some_iff.mp hLook
  exact view_eq_some_iff.mpr ⟨mt (List.mem_cons_of_mem _) hn, hCell⟩

theorem extends_view_append (m : Memory) (hidden : List Nat) (cell : Cell) :
    Extends (m.view hidden) ((m ++ [cell]).view (m.length :: hidden)) := by
  intro n found hLook
  obtain ⟨hn, hCell⟩ := view_eq_some_iff.mp hLook
  have hBound := (List.getElem?_eq_some_iff.mp hCell).1
  refine view_eq_some_iff.mpr ⟨?_, (List.getElem?_append_left hBound).trans hCell⟩
  exact mt List.mem_cons.mp (not_or.mpr ⟨Nat.ne_of_lt hBound, hn⟩)

/-- While a table is made, it and those whose making waits for it are hidden from all entries, and
so it may be written to without a change to what these show. -/
structure Making (result : Nat) (hidden : List Nat) (m : Memory)
    (entries : List (String × Slot)) (t : Table) : Prop where
  mem_hidden : result ∈ hidden
  lt_length : ∀ n ∈ hidden, n < m.length
  cell_eq : m[result]? = some ⟨.block, entries⟩
  shows : Shows (m.view hidden) entries t

theorem Making.write (h : Making result hidden m entries t) (key : String) {slot : Slot} {v : Value}
    (hSlot : Holds (m.view hidden) slot v) :
    Making result hidden (m.write result key slot) (Cell.put key slot entries)
      (Table.set key v t) := by
  have hKept := keptBut_write m result key slot
  refine ⟨h.mem_hidden, ?_, ?_, ?_⟩
  · intro n hn
    exact Nat.lt_of_lt_of_le (h.lt_length n hn) hKept.length_le
  · rw [Memory.write, List.getElem?_modify_eq, h.cell_eq]
    rfl
  · exact (Shows.put hSlot h.shows).mono (hKept.extends_view h.mem_hidden)

theorem Making.slot?_rel (h : Making result hidden m entries t) (key : String) :
    Option.Rel (Holds (m.view hidden)) (m.slot? result key) (Table.get? key t) := by
  rw [Memory.slot?, h.cell_eq]
  exact h.shows.get? key

theorem Making.slot?_of_table (h : Making result hidden m entries t) {style : Style} {base : Table}
    (hKey : Table.get? key t = some (.table style base)) :
    ∃ a cell, m.slot? result key = some (.place a) ∧ m[a]? = some cell ∧
      Shows (m.view hidden) cell.entries base := by
  have hRel := h.slot?_rel key
  rw [hKey] at hRel
  generalize m.slot? result key = found at hRel ⊢
  cases hRel with
  | some hHolds =>
      cases hHolds with
      | value hNot => exact absurd ⟨style, base, rfl⟩ hNot
      | place hLook hInner => exact ⟨_, _, rfl, (view_eq_some_iff.mp hLook).2, hInner⟩

theorem Making.isTable_of_slot? (h : Making result hidden m entries t) {a : Nat}
    (hSlot : m.slot? result key = some (.place a)) :
    ∃ v, Table.get? key t = some v ∧ v.IsTable := by
  have hRel := h.slot?_rel key
  rw [hSlot] at hRel
  generalize Table.get? key t = found at hRel ⊢
  cases hRel with
  | some hHolds =>
      cases hHolds with
      | place hLook hInner => exact ⟨_, rfl, _, _, rfl⟩

/-- The copy of a table is made at the next place. -/
theorem making_copy (hBound : ∀ n ∈ hidden, n < m.length) (h : Shows (m.view hidden) entries t) :
    Making m.length (m.length :: hidden) (m ++ [⟨.block, entries⟩]) entries t := by
  refine ⟨List.mem_cons_self, ?_, by simp, h.mono (extends_view_append m hidden _)⟩
  intro n hn
  have hLe : n ≤ m.length := by
    obtain rfl | hn := List.mem_cons.mp hn
    · exact Nat.le_refl _
    · exact Nat.le_of_lt (hBound n hn)
  simpa using Nat.lt_succ_of_le hLe

/-- Once the copy is made, the table whose making waited for it is as it was. -/
theorem Making.resume (h : Making result hidden m entries t) (hKept : m <+: m') :
    Making result hidden m' entries t := by
  refine ⟨h.mem_hidden, ?_, ?_, h.shows.mono (extends_view_of_isPrefix hKept hidden)⟩
  · intro n hn
    exact Nat.lt_of_lt_of_le (h.lt_length n hn) hKept.length_le
  · obtain ⟨more, rfl⟩ := hKept
    rw [List.getElem?_append_left (h.lt_length result h.mem_hidden), h.cell_eq]

/-- The copy, once made, may be held by any entry. -/
theorem Making.holds (h : Making n (n :: hidden) m entries t) (hNot : n ∉ hidden) :
    Holds (m.view hidden) (.place n) (.table .block t) := by
  have hLook := view_eq_some_iff.mpr ⟨hNot, h.cell_eq⟩
  exact .place hLook (h.shows.mono (extends_view_cons m hidden n))

/-- Some run puts entries over a table in the making, which is `t` then, and keeps all others. -/
def Ends (result : Nat) (hidden : List Nat) (m : Memory) (slots : List (String × Slot))
    (t : Table) : Prop :=
  ∃ after entries, Run m result slots after ∧ KeptBut result m after ∧
    Making result hidden after entries t

/-- An entry that holds no table, or is put over none, stands as it is. -/
theorem Ends.put {slot : Slot}
    (hNot : ∀ a b, m.slot? result key = some (.place a) → slot ≠ .place b)
    (h : Ends result hidden (m.write result key slot) slots t) :
    Ends result hidden m ((key, slot) :: slots) t := by
  obtain ⟨after, entries, hRun, hKept, hAfter⟩ := h
  exact ⟨after, entries, .put hNot hRun, (keptBut_write m result key slot).trans hKept, hAfter⟩

/-- Entries are put over a table in the making, which keeps all other tables. The induction is on
what the entries show: where a table is put over another, there is a run for its entries, and one
for the entries behind it. -/
theorem Making.ends {overlay : Table} (hOverlay : Shows look slots overlay)
    (hLook : Extends look (m.view hidden)) (h : Making result hidden m entries t) :
    Ends result hidden m slots (Table.merge t overlay) := by
  induction hOverlay generalizing result hidden m entries t with
  | nil => exact ⟨m, entries, .done, keptBut_of_isPrefix List.prefix_rfl result, h⟩
  | @value slots overlay key v hNot _ ih =>
      rw [Table.merge, Value.mergeOver_eq_self (fun hTable => absurd hTable hNot)]
      have hKept := keptBut_write m result key (.value v)
      apply Ends.put
      · rintro a b - ⟨⟩
      · exact ih (hLook.trans (hKept.extends_view h.mem_hidden)) (h.write key (.value hNot))
  | @place slots new overlay inner key n style hNew hInner _ ihInner ih =>
      have hHolds : Holds (m.view hidden) (.place n) (.table style inner) :=
        .place (hLook _ _ hNew) (hInner.mono hLook)
      rw [Table.merge]
      by_cases hOld : ∃ v, Table.get? key t = some v ∧ v.IsTable
      · obtain ⟨v, hKey, style', base, rfl⟩ := hOld
        obtain ⟨a, old, hSlot, hBase, hShows⟩ := h.slot?_of_table hKey
        obtain ⟨called, made, hCall, hKept, hMade⟩ :=
          ihInner (hLook.trans (extends_view_append m hidden _)) (making_copy h.lt_length hShows)
        have hPrefix := hKept.prefix_of_append
        have hWrite := keptBut_write called result key (.place m.length)
        have hNot : m.length ∉ hidden := by
          intro hMem
          exact Nat.lt_irrefl _ (h.lt_length _ hMem)
        rw [hKey, Value.mergeOver_table_table]
        obtain ⟨after, last, hRun, hRest, hAfter⟩ :=
          ih ((hLook.trans (extends_view_of_isPrefix hPrefix hidden)).trans
            (hWrite.extends_view h.mem_hidden)) ((h.resume hPrefix).write key (hMade.holds hNot))
        have hNew' := (view_eq_some_iff.mp (hLook _ _ hNew)).2
        exact ⟨after, last, .descend hSlot hBase hNew' hCall hRun,
          ((keptBut_of_isPrefix hPrefix result).trans hWrite).trans hRest, hAfter⟩
      · have hNot : ∀ w, Table.get? key t = some w → ¬w.IsTable := by
          intro w hw hTable
          exact hOld ⟨w, hw, hTable⟩
        rw [Value.mergeOver_eq_self (fun _ => hNot)]
        have hKept := keptBut_write m result key (.place n)
        apply Ends.put
        · intro a b hSlot
          obtain ⟨v, hKey, hTable⟩ := h.isTable_of_slot? hSlot
          exact absurd hTable (hNot v hKey)
        · exact ih (hLook.trans (hKept.extends_view h.mem_hidden)) (h.write key hHolds)

/-- The table at a place is `t`. -/
def Stands (m : Memory) (n : Nat) (t : Table) : Prop :=
  ∃ cell, m[n]? = some cell ∧ Shows (m.view []) cell.entries t

theorem Stands.of_isPrefix (hPrefix : m <+: m') (h : m.Stands n t) :
    m'.Stands n t := by
  obtain ⟨cell, hCell, hShows⟩ := h
  refine ⟨cell, ?_, hShows.mono (extends_view_of_isPrefix hPrefix [])⟩
  obtain ⟨more, rfl⟩ := hPrefix
  rw [List.getElem?_append_left (List.getElem?_eq_some_iff.mp hCell).1, hCell]

/-- There is a run that puts one table over another. It only adds tables to those there were, and
the one it makes is the overlay of the two. -/
theorem exists_merges {b o : Nat} {base overlay : Table} (hBase : m.Stands b base)
    (hOverlay : m.Stands o overlay) : ∃ after result, Merges m b o after result ∧ m <+: after ∧
      after.Stands result (Table.merge base overlay) := by
  obtain ⟨old, hOld, hOldShows⟩ := hBase
  obtain ⟨new, hNew, hNewShows⟩ := hOverlay
  have hMaking := making_copy (by simp) hOldShows
  obtain ⟨after, entries, hRun, hKept, hAfter⟩ :=
    hMaking.ends hNewShows (extends_view_append m [] ⟨.block, old.entries⟩)
  refine ⟨after, m.length, ⟨old, new, hOld, hNew, rfl, hRun⟩, hKept.prefix_of_append,
    ⟨.block, entries⟩, hAfter.cell_eq, ?_⟩
  exact hAfter.shows.mono (extends_view_cons after [] m.length)

end Memory

end Sightline
