import Sightline.Proofs.Setting.InPlace
import Sightline.Proofs.Setting.Keys

/-! One table of settings put over another, read along paths of keys: where both have a table there
is a table with the keys of both, where only the overlay has anything it decides, and everything
else is that of the base. -/
namespace Sightline

namespace Value

/-- What a path of keys leads to from a value. -/
def at? : List String → Value → Option Value
  | [], v => some v
  | key :: path, .table _ t => (Table.get? key t).bind (at? path)
  | _ :: _, _ => none

/-- A path leads through a value that is no table. -/
def Barred (v : Value) (path : List String) : Prop :=
  ∃ before w, before <+: path ∧ before ≠ path ∧ at? before v = some w ∧ ¬w.IsTable

/-- At a path, `result` has what `overlay` put over `base` has there. -/
structure Overlaid (base overlay result : Value) (path : List String) : Prop where
  value : ∀ v, at? path overlay = some v → ¬v.IsTable → at? path result = some v
  table : ∀ v, at? path overlay = some v → v.IsTable →
    (∀ w, at? path base = some w → ¬w.IsTable) → at? path result = some v
  both : ∀ s t s' t', at? path base = some (.table s t) →
    at? path overlay = some (.table s' t') → ∃ t'', at? path result = some (.table .block t'') ∧
      ∀ key, key ∈ Table.keys t'' ↔ key ∈ Table.keys t ∨ key ∈ Table.keys t'
  barred : at? path overlay = none → Barred overlay path → at? path result = none
  kept : at? path overlay = none → ¬Barred overlay path → at? path result = at? path base

theorem at?_cons_of_not_isTable {v : Value} (h : ¬v.IsTable) (key : String) (path : List String) :
    at? (key :: path) v = none := by
  cases v with
  | table style t => exact absurd ⟨style, t, rfl⟩ h
  | _ => rfl

theorem isTable_of_at? {v w : Value} {path : List String} (hAt : at? path v = some w)
    (h : w.IsTable) : v.IsTable := by
  cases path with
  | nil =>
      cases hAt
      exact h
  | cons key path =>
      by_contra hNot
      rw [at?_cons_of_not_isTable hNot] at hAt
      cases hAt

theorem at?_cons (style : Style) (t : Table) (key : String) (path : List String) :
    at? (key :: path) (.table style t) = (Table.get? key t).bind (at? path) := rfl

/-- A path is barred at its first key or behind it. -/
theorem barred_cons_iff {style : Style} {t : Table} {key : String} {path : List String} {v : Value}
    (hKey : Table.get? key t = some v) : Barred (.table style t) (key :: path) ↔ Barred v path := by
  constructor
  · rintro ⟨before, w, hPrefix, hProper, hAt, hNot⟩
    cases before with
    | nil =>
        cases hAt
        exact absurd ⟨style, t, rfl⟩ hNot
    | cons first before =>
        obtain ⟨rfl, hRest⟩ := List.cons_prefix_cons.mp hPrefix
        rw [at?_cons, hKey] at hAt
        exact ⟨before, w, hRest, fun h => hProper (h ▸ rfl), hAt, hNot⟩
  · rintro ⟨before, w, hPrefix, hProper, hAt, hNot⟩
    refine ⟨key :: before, w, List.cons_prefix_cons.mpr ⟨rfl, hPrefix⟩, ?_, ?_, hNot⟩
    · simpa using hProper
    · rw [at?_cons, hKey]
      exact hAt

theorem barred_of_not_isTable {v : Value} (h : ¬v.IsTable) {path : List String}
    (hPath : path ≠ []) : Barred v path :=
  ⟨[], v, List.nil_prefix, hPath.symm, rfl, h⟩

section Key

variable {style style' style'' : Style} {base overlay result : Table} {key : String}

/-- A key under which the overlay has nothing. -/
theorem overlaid_cons_of_none (hOverlay : Table.get? key overlay = none)
    (hResult : Table.get? key result = Table.get? key base) (path : List String) :
    Overlaid (.table style base) (.table style' overlay) (.table style'' result) (key :: path) := by
  have hNone : at? (key :: path) (.table style' overlay) = none := by
    rw [at?_cons, hOverlay]
    rfl
  have hFree : ¬Barred (.table style' overlay) (key :: path) := by
    rintro ⟨before, w, hPrefix, -, hAt, hNot⟩
    cases before with
    | nil =>
        cases hAt
        exact hNot ⟨style', overlay, rfl⟩
    | cons first before =>
        obtain ⟨rfl, -⟩ := List.cons_prefix_cons.mp hPrefix
        rw [at?_cons, hOverlay] at hAt
        cases hAt
  constructor
  · intro v hAt
    cases hNone.symm.trans hAt
  · intro v hAt
    cases hNone.symm.trans hAt
  · intro s t s' t' _ hAt
    cases hNone.symm.trans hAt
  · intro _ hBarred
    exact absurd hBarred hFree
  · intro _ _
    rw [at?_cons, at?_cons, hResult]

/-- A key under which the overlay has no table, or the base none. -/
theorem overlaid_cons_of_eq {v : Value} (hOverlay : Table.get? key overlay = some v)
    (hResult : Table.get? key result = some v)
    (hNot : v.IsTable → ∀ w, Table.get? key base = some w → ¬w.IsTable) (path : List String) :
    Overlaid (.table style base) (.table style' overlay) (.table style'' result) (key :: path) := by
  have hSame : at? (key :: path) (.table style'' result) =
      at? (key :: path) (.table style' overlay) := by
    rw [at?_cons, at?_cons, hOverlay, hResult]
  constructor
  · intro w hAt _
    rw [hSame, hAt]
  · intro w hAt _ _
    rw [hSame, hAt]
  · intro s t s' t' hBase hAt
    rw [at?_cons, hOverlay] at hAt
    obtain ⟨w, hw, hBase⟩ := Option.bind_eq_some_iff.mp hBase
    exact absurd (isTable_of_at? hBase ⟨s, t, rfl⟩) (hNot (isTable_of_at? hAt ⟨s', t', rfl⟩) w hw)
  · intro hAt _
    rw [hSame, hAt]
  · intro hAt hFree
    rw [hSame, hAt]
    rw [at?_cons, hOverlay] at hAt
    rw [barred_cons_iff hOverlay] at hFree
    cases path with
    | nil => cases hAt
    | cons next path =>
        have hTable : v.IsTable := by
          by_contra hNotTable
          exact hFree (barred_of_not_isTable hNotTable (List.cons_ne_nil next path))
        rw [at?_cons]
        cases hBase : Table.get? key base with
        | none => rfl
        | some w => exact (at?_cons_of_not_isTable (hNot hTable w hBase) next path).symm

/-- A key under which both sides have a table: what holds of these holds behind it. -/
theorem Overlaid.cons {v w u : Value} (hBase : Table.get? key base = some v)
    (hOverlay : Table.get? key overlay = some w) (hResult : Table.get? key result = some u)
    {path : List String} (h : Overlaid v w u path) :
    Overlaid (.table style base) (.table style' overlay) (.table style'' result) (key :: path) := by
  have hBaseAt : at? (key :: path) (.table style base) = at? path v := by
    rw [at?_cons, hBase]
    rfl
  have hOverlayAt : at? (key :: path) (.table style' overlay) = at? path w := by
    rw [at?_cons, hOverlay]
    rfl
  have hResultAt : at? (key :: path) (.table style'' result) = at? path u := by
    rw [at?_cons, hResult]
    rfl
  constructor
  · rw [hOverlayAt, hResultAt]
    exact h.value
  · rw [hOverlayAt, hResultAt, hBaseAt]
    exact h.table
  · rw [hOverlayAt, hResultAt, hBaseAt]
    exact h.both
  · rw [hOverlayAt, hResultAt, barred_cons_iff hOverlay]
    exact h.barred
  · rw [hOverlayAt, hResultAt, hBaseAt, barred_cons_iff hOverlay]
    exact h.kept

end Key

end Value

namespace Table
open Value

/-- One table put over another, at every path. -/
theorem overlaid_merge {base overlay : Table} (hKeyed : Keyed overlay) (style style' : Style)
    (path : List String) : Overlaid (.table style base) (.table style' overlay)
      (.table .block (merge base overlay)) path := by
  induction path generalizing base overlay style style' with
  | nil =>
      constructor
      · intro v hAt hNot
        cases hAt
        exact absurd ⟨style', overlay, rfl⟩ hNot
      · intro v _ _ hNot
        exact absurd ⟨style, base, rfl⟩ (hNot _ rfl)
      · rintro s t s' t' ⟨⟩ ⟨⟩
        exact ⟨_, rfl, fun key => mem_keys_merge⟩
      · rintro ⟨⟩
      · rintro ⟨⟩
  | cons key path ih =>
      have hGet := get?_merge base hKeyed.nodup key
      cases hOverlay : get? key overlay with
      | none =>
          rw [hOverlay] at hGet
          exact overlaid_cons_of_none hOverlay hGet path
      | some v =>
          simp only [hOverlay] at hGet
          obtain ⟨s, old, s', inner, hBase, rfl⟩ | hNot := tables_or_not (get? key base) v
          · rw [hBase] at hGet
            exact (ih (hKeyed.inner hOverlay) s s').cons hBase hOverlay hGet
          · rw [mergeOver_eq_self hNot] at hGet
            exact overlaid_cons_of_eq hOverlay hGet hNot path

end Table

mutual

/-- A value with all tables in it written as blocks, those in lists apart. -/
def Value.plain : Value → Value
  | .table _ t => .table .block (Table.plain t)
  | v => v

/-- A table with all tables in it written as blocks, those in lists apart. -/
def Table.plain : List (String × Value) → Table
  | [] => []
  | (key, v) :: rest => (key, Value.plain v) :: Table.plain rest

end

namespace Table
open Value

theorem plain_set (t : Table) (key : String) (v : Value) :
    plain (set key v t) = set key v.plain (plain t) := by
  induction t with
  | nil => rfl
  | cons entry t ih =>
      obtain ⟨name, old⟩ := entry
      rw [set, plain, set]
      split
      · rfl
      · rw [plain, ih]

theorem get?_plain (t : Table) (key : String) :
    get? key (plain t) = (get? key t).map Value.plain := by
  induction t with
  | nil => rfl
  | cons entry t ih =>
      obtain ⟨name, old⟩ := entry
      rw [plain, get?, get?]
      split
      · rfl
      · exact ih

/-- A table takes in an overlay if under each of its keys the table has what the overlay would
leave there. -/
theorem plain_merge_eq_self {base overlay : Table} (hKeys : (keys overlay).Nodup)
    (h : ∀ key v, get? key overlay = some v →
      ∃ w, get? key base = some w ∧ (mergeOver (some w) v).plain = w.plain) :
    plain (merge base overlay) = plain base := by
  induction overlay generalizing base with
  | nil => rfl
  | cons entry overlay ih =>
      obtain ⟨name, v⟩ := entry
      rw [keys_cons, List.nodup_cons] at hKeys
      obtain ⟨w, hBase, hSame⟩ := h name v (by rw [get?, if_pos rfl])
      have hFirst : plain (set name (mergeOver (get? name base) v) base) = plain base := by
        rw [plain_set, hBase, hSame]
        apply set_of_get?
        rw [get?_plain, hBase]
        rfl
      rw [merge, ih hKeys.2, hFirst]
      intro key u hKey
      have hNe : key ≠ name := by
        rintro rfl
        rw [get?_eq_none_iff.mpr hKeys.1] at hKey
        cases hKey
      rw [get?_set_of_ne _ _ hNe]
      exact h key u (by rw [get?, if_neg hNe.symm, hKey])

theorem plain_mergeOver_self {v : Value}
    (h : ∀ style inner, v = .table style inner → plain (merge inner inner) = plain inner) :
    (mergeOver (some v) v).plain = v.plain := by
  cases v with
  | table style inner => rw [mergeOver_table_table, Value.plain, Value.plain, h style inner rfl]
  | _ => rfl

/-- A table put over itself. -/
theorem plain_merge_self {t : Table} (h : Keyed t) : plain (merge t t) = plain t := by
  induction h with
  | @intro t hKeys hInner ih =>
      apply plain_merge_eq_self hKeys
      intro key v hKey
      refine ⟨v, hKey, plain_mergeOver_self ?_⟩
      rintro style inner rfl
      exact ih key style inner hKey

/-- An overlay put over a table twice. -/
theorem plain_merge_merge {overlay : Table} (h : Keyed overlay) (base : Table) :
    plain (merge (merge base overlay) overlay) = plain (merge base overlay) := by
  induction h generalizing base with
  | @intro overlay hKeys hInner ih =>
      apply plain_merge_eq_self hKeys
      intro key v hKey
      refine ⟨mergeOver (get? key base) v, ?_, ?_⟩
      · rw [get?_merge base hKeys key, hKey]
      · obtain ⟨style, old, style', inner, hBase, rfl⟩ | hNot := tables_or_not (get? key base) v
        · rw [hBase, mergeOver_table_table, mergeOver_table_table, Value.plain, Value.plain,
            ih key style' inner hKey]
        · rw [mergeOver_eq_self hNot]
          apply plain_mergeOver_self
          rintro style inner rfl
          exact plain_merge_self (hInner key style inner hKey)

/-- What one table put over another has at a path is decided by what the two have there, and no
key stands twice in it. Nothing put over a table, a table put over nothing or over itself, and an
overlay put over a table twice change nothing, but for the style that tables are written in. Where
tables are held by their place there is a run that makes the overlay, and every run leaves all
tables as they were. -/
theorem merge_overlays {base overlay : Table} (hBase : Keyed base) (hOverlay : Keyed overlay) :
    (∀ path style style', Overlaid (.table style base) (.table style' overlay)
      (.table .block (merge base overlay)) path) ∧
    Keyed (merge base overlay) ∧
    merge base [] = base ∧
    merge [] overlay = overlay ∧
    plain (merge base base) = plain base ∧
    plain (merge (merge base overlay) overlay) = plain (merge base overlay) ∧
    ∀ (before : Memory) (b o : Nat), before.Stands b base → before.Stands o overlay →
      (∃ after result, before.Merges b o after result) ∧
      ∀ after result, before.Merges b o after result → before <+: after ∧
        after.Stands b base ∧ after.Stands o overlay ∧
        after.Stands result (merge base overlay) := by
  refine ⟨fun path style style' => overlaid_merge hOverlay style style' path,
    hBase.merge hOverlay, merge_nil base, merge_eq_append hOverlay.nodup, plain_merge_self hBase,
    plain_merge_merge hOverlay base, ?_⟩
  intro before b o hb ho
  obtain ⟨after, result, hRun, hPrefix, hResult⟩ := Memory.exists_merges hb ho
  refine ⟨⟨after, result, hRun⟩, ?_⟩
  intro after' result' hRun'
  obtain ⟨rfl, rfl⟩ := hRun.deterministic hRun'
  exact ⟨hPrefix, hb.of_isPrefix hPrefix, ho.of_isPrefix hPrefix, hResult⟩

/-- A number, and a table with two of them. -/
def shipped : Table :=
  [("a", .whole 1), ("t", .table .block [("x", .whole 1), ("y", .whole 2)])]

/-- One number of that table, and a table in place of a number. -/
def wished : Table :=
  [("t", .table .inline [("y", .whole 3)]), ("a", .table .block [("z", .whole 4)])]

/-- The two tables, held by the last place and the one in the middle, in memory. -/
def desk : Memory :=
  [⟨.block, [("x", .value (.whole 1)), ("y", .value (.whole 2))]⟩,
    ⟨.block, [("a", .value (.whole 1)), ("t", .place 0)]⟩,
    ⟨.inline, [("y", .value (.whole 3))]⟩,
    ⟨.block, [("z", .value (.whole 4))]⟩,
    ⟨.block, [("t", .place 2), ("a", .place 3)]⟩]

theorem keyed_shipped : Keyed shipped := by
  refine .cons (by simp [keys]) ?_ (.cons (by simp [keys]) ?_ keyed_nil)
  · rintro style inner ⟨⟩
  · rintro style inner ⟨⟩
    refine .cons (by simp [keys]) ?_ (.cons (by simp [keys]) ?_ keyed_nil)
    · rintro style inner ⟨⟩
    · rintro style inner ⟨⟩

theorem keyed_wished : Keyed wished := by
  refine .cons (by simp [keys]) ?_ (.cons (by simp [keys]) ?_ keyed_nil)
  · rintro style inner ⟨⟩
    refine .cons (by simp [keys]) ?_ keyed_nil
    rintro style inner ⟨⟩
  · rintro style inner ⟨⟩
    refine .cons (by simp [keys]) ?_ keyed_nil
    rintro style inner ⟨⟩

theorem desk_stands : desk.Stands 1 shipped ∧ desk.Stands 4 wished := by
  have hNot : ∀ n : Int, ¬(Value.whole n).IsTable := by
    rintro n ⟨style, t, ⟨⟩⟩
  refine ⟨⟨_, rfl, ?_⟩, ⟨_, rfl, ?_⟩⟩
  · exact .value (hNot 1) (.place rfl (.value (hNot 1) (.value (hNot 2) .nil)) .nil)
  · exact .place rfl (.value (hNot 3) .nil) (.place rfl (.value (hNot 4) .nil) .nil)

theorem wished_over_shipped :
    Keyed shipped ∧ Keyed wished ∧
    merge shipped wished = [("a", .table .block [("z", .whole 4)]),
      ("t", .table .block [("x", .whole 1), ("y", .whole 3)])] ∧
    ∃ after result, desk.Merges 1 4 after result ∧ desk <+: after ∧
      after.Stands result (merge shipped wished) := by
  obtain ⟨-, -, -, -, -, -, hRuns⟩ := merge_overlays keyed_shipped keyed_wished
  obtain ⟨⟨after, result, hRun⟩, hAll⟩ := hRuns desk 1 4 desk_stands.1 desk_stands.2
  obtain ⟨hPrefix, -, -, hResult⟩ := hAll after result hRun
  exact ⟨keyed_shipped, keyed_wished, rfl, after, result, hRun, hPrefix, hResult⟩

end Table

end Sightline
