import Sightline.Setting.Merge

/-! The keys of tables. Entries under new keys go behind those there are, and no key stands twice in
what is made of tables in which none does. -/
namespace Sightline.Table

theorem keys_cons (key : String) (v : Value) (t : Table) : keys ((key, v) :: t) = key :: keys t :=
  rfl

theorem get?_eq_none_iff {t : Table} {key : String} : get? key t = none ↔ key ∉ keys t := by
  induction t with
  | nil => simp [get?, keys]
  | cons entry t ih =>
      obtain ⟨name, v⟩ := entry
      rw [get?, keys_cons, List.mem_cons, not_or]
      split
      next hKey => simp [hKey]
      next hKey => rw [ih, and_iff_right (Ne.symm hKey)]

theorem mem_of_get? {t : Table} {key : String} {v : Value} (h : get? key t = some v) :
    (key, v) ∈ t := by
  induction t with
  | nil => cases h
  | cons entry t ih =>
      obtain ⟨name, old⟩ := entry
      rw [get?] at h
      split at h
      next hKey =>
        cases h
        rw [hKey]
        exact List.mem_cons_self
      next => exact List.mem_cons_of_mem _ (ih h)

theorem mem_keys_set {t : Table} {key name : String} {v : Value} :
    name ∈ keys (set key v t) ↔ name = key ∨ name ∈ keys t := by
  induction t with
  | nil => simp [set, keys]
  | cons entry t ih =>
      obtain ⟨first, old⟩ := entry
      rw [set]
      split
      next hKey => simp [keys_cons, hKey]
      next hKey =>
        rw [keys_cons, keys_cons, List.mem_cons, List.mem_cons, ih]
        exact or_left_comm

theorem nodup_keys_set {t : Table} (h : (keys t).Nodup) (key : String) (v : Value) :
    (keys (set key v t)).Nodup := by
  induction t with
  | nil => simp [set, keys]
  | cons entry t ih =>
      obtain ⟨name, old⟩ := entry
      rw [keys_cons, List.nodup_cons] at h
      rw [set]
      split
      · exact List.nodup_cons.mpr h
      next hNe =>
        refine List.nodup_cons.mpr ⟨?_, ih h.2⟩
        exact mt mem_keys_set.mp (not_or.mpr ⟨hNe, h.1⟩)

theorem set_of_get? {t : Table} {key : String} {v : Value} (h : get? key t = some v) :
    set key v t = t := by
  induction t with
  | nil => cases h
  | cons entry t ih =>
      obtain ⟨name, old⟩ := entry
      rw [get?] at h
      rw [set]
      split at h
      next hKey =>
        cases h
        rw [if_pos hKey]
      next hKey => rw [if_neg hKey, ih h]

theorem set_of_get?_eq_none {t : Table} {key : String} (h : get? key t = none) (v : Value) :
    set key v t = t ++ [(key, v)] := by
  induction t with
  | nil => rfl
  | cons entry t ih =>
      obtain ⟨name, old⟩ := entry
      rw [get?] at h
      rw [set]
      split at h
      next => cases h
      next hKey => rw [if_neg hKey, ih h, List.cons_append]

theorem mem_keys_merge {base overlay : Table} {key : String} :
    key ∈ keys (merge base overlay) ↔ key ∈ keys base ∨ key ∈ keys overlay := by
  induction overlay generalizing base with
  | nil => simp [merge_nil, keys]
  | cons entry overlay ih =>
      rw [merge, ih, mem_keys_set, keys_cons, List.mem_cons, or_left_comm, or_assoc]

theorem nodup_keys_merge {base : Table} (h : (keys base).Nodup) (overlay : Table) :
    (keys (merge base overlay)).Nodup := by
  induction overlay generalizing base with
  | nil => exact h
  | cons entry overlay ih =>
      rw [merge]
      exact ih (nodup_keys_set h _ _)

/-- What stands under a key once all entries are put over a table. -/
theorem get?_merge (base : Table) {overlay : Table} (hKeys : (keys overlay).Nodup) (key : String) :
    get? key (merge base overlay) =
      match get? key overlay with
      | none => get? key base
      | some v => some (Value.mergeOver (get? key base) v) := by
  induction overlay generalizing base with
  | nil => rfl
  | cons entry overlay ih =>
      obtain ⟨name, v⟩ := entry
      rw [keys_cons, List.nodup_cons] at hKeys
      rw [merge, ih _ hKeys.2, get?]
      by_cases hKey : name = key
      · subst hKey
        rw [if_pos rfl, get?_eq_none_iff.mpr hKeys.1, get?_set_self]
      · rw [if_neg hKey, get?_set_of_ne _ _ (Ne.symm hKey)]

/-- Entries with new keys are put behind those there are. -/
theorem merge_eq_append {base overlay : Table} (h : (keys (base ++ overlay)).Nodup) :
    merge base overlay = base ++ overlay := by
  induction overlay generalizing base with
  | nil => rw [merge_nil, List.append_nil]
  | cons entry overlay ih =>
      obtain ⟨key, v⟩ := entry
      have hNone : get? key base = none := by
        rw [get?_eq_none_iff]
        rw [keys, List.map_append, List.nodup_append] at h
        intro hMem
        exact h.2.2 key hMem key List.mem_cons_self rfl
      have hNot : v.IsTable → ∀ w, get? key base = some w → ¬w.IsTable := by
        intro _ w hw
        cases hNone.symm.trans hw
      have hSplit : base ++ (key, v) :: overlay = base ++ [(key, v)] ++ overlay := by
        rw [List.append_assoc, List.singleton_append]
      rw [merge, Value.mergeOver_eq_self hNot, set_of_get?_eq_none hNone, hSplit]
      exact ih (hSplit ▸ h)

/-- No key stands twice in a table, nor in one of the tables in it. -/
inductive Keyed : Table → Prop
  | intro {t : Table} (hKeys : (keys t).Nodup)
      (hInner : ∀ key style inner, get? key t = some (.table style inner) → Keyed inner) : Keyed t

theorem Keyed.nodup {t : Table} (h : Keyed t) : (keys t).Nodup := by
  cases h with
  | intro hKeys hInner => exact hKeys

theorem Keyed.inner {t inner : Table} {key : String} {style : Style} (h : Keyed t)
    (hKey : get? key t = some (.table style inner)) : Keyed inner := by
  cases h with
  | intro hKeys hInner => exact hInner key style inner hKey

theorem keyed_nil : Keyed [] := by
  refine .intro List.nodup_nil ?_
  rintro key style inner ⟨⟩

theorem Keyed.cons {t : Table} {key : String} {v : Value} (hKey : key ∉ keys t)
    (hInner : ∀ style inner, v = .table style inner → Keyed inner) (h : Keyed t) :
    Keyed ((key, v) :: t) := by
  refine .intro (List.nodup_cons.mpr ⟨hKey, h.nodup⟩) ?_
  intro name style inner hName
  rw [get?] at hName
  split at hName
  · exact hInner style inner (Option.some.inj hName)
  · exact h.inner hName

theorem Keyed.merge {base overlay : Table} (hBase : Keyed base) (hOverlay : Keyed overlay) :
    Keyed (merge base overlay) := by
  induction hOverlay generalizing base with
  | @intro overlay hKeys hInner ih =>
      refine .intro (nodup_keys_merge hBase.nodup overlay) ?_
      intro key style inner hKey
      rw [get?_merge base hKeys key] at hKey
      cases hAt : get? key overlay with
      | none =>
          rw [hAt] at hKey
          exact hBase.inner hKey
      | some v =>
          simp only [hAt] at hKey
          obtain ⟨s, old, s', new, hOld, rfl⟩ | hNot := Value.tables_or_not (get? key base) v
          · rw [hOld] at hKey
            cases hKey
            exact ih key s' new hAt (hBase.inner hOld)
          · rw [Value.mergeOver_eq_self hNot] at hKey
            cases hKey
            exact hInner key style inner hAt

end Sightline.Table
