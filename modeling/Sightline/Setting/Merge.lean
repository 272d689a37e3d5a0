import Sightline.Setting.Value

/-!
Overlaying one table of settings on another. Where both sides hold a table under a key the two are
overlaid in turn; everywhere else the overlay wins.
-/
namespace Sightline

mutual

/-- `base` with the entries of an overlay put over it, one after the other. -/
def Table.merge (base : Table) : List (String × Value) → Table
  | [] => base
  | (key, value) :: rest =>
    Table.merge (Table.set key (Value.mergeOver (Table.get? key base) value) base) rest

/-- What stands under a key once `value` is put over `old`. The table made of two is written as a
block, whatever these are. -/
def Value.mergeOver (old : Option Value) : Value → Value
  | .table style overlay =>
    match old with
    | some (.table _ base) => .table .block (Table.merge base overlay)
    | _ => .table style overlay
  | value => value

end

theorem Table.merge_nil (base : Table) : Table.merge base [] = base := rfl

namespace Value

/-- A table, in either style. -/
def IsTable (v : Value) : Prop := ∃ style t, v = .table style t

theorem mergeOver_table_table (style style' : Style) (base overlay : Table) :
    mergeOver (some (.table style base)) (.table style' overlay) =
      .table .block (Table.merge base overlay) := rfl

theorem tables_or_not (old : Option Value) (v : Value) :
    (∃ style base style' overlay, old = some (.table style base) ∧ v = .table style' overlay) ∨
      (v.IsTable → ∀ w, old = some w → ¬w.IsTable) := by
  by_cases h : v.IsTable ∧ ∃ w, old = some w ∧ w.IsTable
  · obtain ⟨⟨style', overlay, rfl⟩, w, rfl, style, base, rfl⟩ := h
    exact .inl ⟨style, base, style', overlay, rfl, rfl⟩
  · exact .inr fun hTable w hOld hIs => h ⟨hTable, w, hOld, hIs⟩

/-- A value stands as it is unless a table is put over a table. -/
theorem mergeOver_eq_self {old : Option Value} {v : Value}
    (h : v.IsTable → ∀ w, old = some w → ¬w.IsTable) : mergeOver old v = v := by
  cases v with
  | table style t =>
    cases old with
    | none => rfl
    | some w =>
      cases w with
      | table style' base => exact absurd ⟨style', base, rfl⟩ (h ⟨style, t, rfl⟩ _ rfl)
      | _ => rfl
  | _ => rfl

end Value

end Sightline
