import Sightline.Proofs.Setting.Overlay
import Sightline.Setting.Lookup

/-! Two ways back to the embedded settings. A setting can be looked up in what was put over them, or
in the settings alone, with the embedded ones to fall back on. Both ways find the same and report
the same. They do since an embedded setting is never a table, so that a section put over another
takes the place of whole settings and is not mixed with what is inside of one. -/
namespace Sightline.Setting
open Table Value

/-- Every section is a table, and no setting in it is one. -/
def Flat (t : Table) : Prop :=
  ∀ section_ v, get? section_ t = some v → ∃ style entries, v = .table style entries ∧
    ∀ key w, get? key entries = some w → ¬w.IsTable

/-- The value that some settings give for a key of a section. Null gives none. -/
def Gives (settings : Table) (section_ key : String) (v : Value) : Prop :=
  at? [section_, key] (.table .block settings) = some v ∧ v ≠ .null

/-- The section is there and is neither null nor a table. -/
def Misshapen (settings : Table) (section_ : String) : Prop :=
  ∃ v, get? section_ settings = some v ∧ v ≠ .null ∧ ¬v.IsTable

variable {base overlay settings : Table} {section_ key : String} {v : Value}

theorem at?_pair_of_table {style : Style} {entries : Table}
    (h : get? section_ settings = some (.table style entries)) (key : String) :
    at? [section_, key] (.table .block settings) = get? key entries := by
  rw [at?_cons, h, Option.bind_some, at?_cons]
  cases get? key entries <;> rfl

/-- Only in a table is there anything under a second key. -/
theorem exists_table_of_at?_pair (h : at? [section_, key] (.table .block settings) = some v) :
    ∃ style entries, get? section_ settings = some (.table style entries) ∧
      get? key entries = some v := by
  obtain ⟨w, hSection, hKey⟩ := Option.bind_eq_some_iff.mp h
  cases w with
  | table style entries =>
      rw [at?_pair_of_table hSection] at h
      exact ⟨style, entries, hSection, h⟩
  | _ => cases hKey

theorem embedded_eq (section_ key : String) :
    embedded section_ key = (at? [section_, key] (.table .block defaults)).getD .null := by
  rw [embedded]
  split
  next hSection => rw [at?_pair_of_table hSection]
  next hNone =>
    cases hAt : at? [section_, key] (.table .block defaults) with
    | none => rfl
    | some v =>
        obtain ⟨style, entries, hSection, -⟩ := exists_table_of_at?_pair hAt
        exact absurd hSection (hNone style entries)

theorem lookup_of_gives (h : Gives settings section_ key v) :
    lookup settings section_ key = (v, []) := by
  obtain ⟨style, entries, hSection, hKey⟩ := exists_table_of_at?_pair h.1
  have hNull := h.2
  rw [lookup, hSection]
  simp only [hKey]

theorem lookup_of_not_gives (h : ∀ v, ¬Gives settings section_ key v) :
    (lookup settings section_ key).1 = embedded section_ key := by
  rw [lookup]
  split
  next hSection =>
    split
    · rfl
    · rfl
    next v hNull hKey =>
      rw [← at?_pair_of_table hSection] at hKey
      exact absurd ⟨hKey, hNull⟩ (h v)
  all_goals rfl

/-- What is reported of a lookup depends on the section alone. -/
theorem reports_of_misshapen (h : Misshapen settings section_) (key : String) :
    (lookup settings section_ key).2 = [notATable section_] := by
  obtain ⟨v, hSection, hNull, hNot⟩ := h
  rw [lookup, hSection]
  cases v with
  | null => exact absurd rfl hNull
  | table style entries => exact absurd ⟨style, entries, rfl⟩ hNot
  | _ => rfl

theorem reports_of_not_misshapen (h : ¬Misshapen settings section_) (key : String) :
    (lookup settings section_ key).2 = [] := by
  rw [lookup]
  split
  · split <;> rfl
  · rfl
  · rfl
  next v hNot hNull hSection =>
    refine absurd ⟨v, hSection, hNull, ?_⟩ h
    rintro ⟨style, entries, rfl⟩
    exact hNot style entries rfl

theorem flat_cons {name : String} {style : Style} {entries : Table}
    (hEntries : ∀ entry ∈ entries, ¬entry.2.IsTable) (h : Flat settings) :
    Flat ((name, .table style entries) :: settings) := by
  intro section_ v hSection
  rw [get?] at hSection
  split at hSection
  · cases hSection
    exact ⟨style, entries, rfl, fun key w hKey => hEntries (key, w) (mem_of_get? hKey)⟩
  · exact h section_ v hSection

theorem flat_defaults : Flat defaults := by
  have hNil : Flat [] := nofun
  refine flat_cons ?_ (flat_cons ?_ (flat_cons ?_ (flat_cons ?_ hNil))) <;>
    simp [IsTable, Value.whole]

theorem Flat.not_isTable (h : Flat base)
    (hAt : at? [section_, key] (.table .block base) = some v) : ¬v.IsTable := by
  obtain ⟨style, entries, hSection, hKey⟩ := exists_table_of_at?_pair hAt
  obtain ⟨_, _, hSame, hEntries⟩ := h section_ _ hSection
  cases hSame
  exact hEntries key v hKey

section Merge

variable (hFlat : Flat base) (hKeyed : Keyed overlay)
include hFlat hKeyed

/-- What is put over flat settings is there as it was, tables included. -/
theorem at?_merge_of_flat (h : at? [section_, key] (.table .block overlay) = some v) :
    at? [section_, key] (.table .block (Table.merge base overlay)) = some v := by
  have hOverlaid := @overlaid_merge base overlay hKeyed .block .block [section_, key]
  by_cases hTable : v.IsTable
  · exact hOverlaid.table v h hTable fun w hAt => hFlat.not_isTable hAt
  · exact hOverlaid.value v h hTable

theorem Gives.merge (h : Gives overlay section_ key v) :
    Gives (Table.merge base overlay) section_ key v :=
  ⟨at?_merge_of_flat hFlat hKeyed h.1, h.2⟩

/-- Whatever is given was given before or by what was put there. -/
theorem gives_of_merge (h : Gives (Table.merge base overlay) section_ key v) :
    Gives overlay section_ key v ∨ Gives base section_ key v := by
  obtain ⟨hMerged, hNull⟩ := h
  have hOverlaid := @overlaid_merge base overlay hKeyed .block .block [section_, key]
  cases hAt : at? [section_, key] (.table .block overlay) with
  | some w =>
      cases (at?_merge_of_flat hFlat hKeyed hAt).symm.trans hMerged
      exact .inl ⟨hAt, hNull⟩
  | none =>
      by_cases hBarred : Barred (.table .block overlay) [section_, key]
      · cases (hOverlaid.barred hAt hBarred).symm.trans hMerged
      · exact .inr ⟨(hOverlaid.kept hAt hBarred).symm.trans hMerged, hNull⟩

theorem misshapen_merge_iff : Misshapen (Table.merge base overlay) section_ ↔
    Misshapen overlay section_ := by
  have hGet := get?_merge base hKeyed.nodup section_
  cases hOverlay : get? section_ overlay with
  | none =>
      rw [hOverlay] at hGet
      constructor
      · rintro ⟨v, hAt, -, hNot⟩
        obtain ⟨style, entries, rfl, -⟩ := hFlat section_ v (hGet.symm.trans hAt)
        exact absurd ⟨style, entries, rfl⟩ hNot
      · rintro ⟨v, hAt, -⟩
        cases hOverlay.symm.trans hAt
  | some v =>
      obtain ⟨style, old, style', inner, hBase, rfl⟩ | hNot := tables_or_not (get? section_ base) v
      · -- a table over a table, so that the section is a table before and after
        simp only [hOverlay, hBase, mergeOver_table_table] at hGet
        simp [Misshapen, hGet, hOverlay, IsTable]
      · simp only [hOverlay, mergeOver_eq_self hNot] at hGet
        rw [Misshapen, Misshapen, hGet, hOverlay]

end Merge

/-- A setting is the same and reported on in the same way whether it is looked up in settings, with
the embedded ones to fall back on, or in what these settings become once they are put over the
embedded ones. It is the value that the settings give, and otherwise the embedded one or null. A
section is reported exactly if it is there, but neither null nor a table. -/
theorem falling_back_agrees (h : Keyed settings) (section_ key : String) :
    lookup (Table.merge defaults settings) section_ key = lookup settings section_ key ∧
    (∀ v, Gives settings section_ key v → (lookup settings section_ key).1 = v) ∧
    ((∀ v, ¬Gives settings section_ key v) → (lookup settings section_ key).1 =
      (at? [section_, key] (.table .block defaults)).getD .null) ∧
    (Misshapen settings section_ → (lookup settings section_ key).2 = [notATable section_]) ∧
    (¬Misshapen settings section_ → (lookup settings section_ key).2 = []) := by
  refine ⟨Prod.ext ?_ ?_, fun v hGives => by rw [lookup_of_gives hGives], fun hNone => ?_,
    fun hSection => reports_of_misshapen hSection key,
    fun hSection => reports_of_not_misshapen hSection key⟩
  · by_cases hGives : ∃ v, Gives settings section_ key v
    · obtain ⟨v, hGives⟩ := hGives
      rw [lookup_of_gives hGives, lookup_of_gives (hGives.merge flat_defaults h)]
    · push Not at hGives
      rw [lookup_of_not_gives hGives]
      by_cases hMerged : ∃ v, Gives (Table.merge defaults settings) section_ key v
      · -- what is given now was given by the embedded settings
        obtain ⟨v, hMerged⟩ := hMerged
        have hDefault := (gives_of_merge flat_defaults h hMerged).resolve_left (hGives v)
        rw [lookup_of_gives hMerged, embedded_eq, hDefault.1, Option.getD_some]
      · push Not at hMerged
        exact lookup_of_not_gives hMerged
  · by_cases hSection : Misshapen settings section_
    · rw [reports_of_misshapen hSection,
        reports_of_misshapen ((misshapen_merge_iff flat_defaults h).mpr hSection)]
    · rw [reports_of_not_misshapen hSection,
        reports_of_not_misshapen (mt (misshapen_merge_iff flat_defaults h).mp hSection)]
  · rw [lookup_of_not_gives hNone, embedded_eq]

/-- Settings with a number for a section, null for one embedded setting and a table for another. -/
def patchy : Table :=
  [("logging", .whole 5),
   ("masking", .table .inline
      [("engine", .null), ("delimiters", .table .block [("on", .text "//")])])]

theorem keyed_patchy : Keyed patchy := by
  refine .cons (by simp [keys]) ?_ (.cons (by simp [keys]) ?_ keyed_nil)
  · rintro style inner ⟨⟩
  · rintro style inner ⟨⟩
    refine .cons (by simp [keys]) ?_ (.cons (by simp [keys]) ?_ keyed_nil)
    · rintro style inner ⟨⟩
    · rintro style inner ⟨⟩
      refine .cons (by simp [keys]) ?_ keyed_nil
      rintro style inner ⟨⟩

/-- Null falls back on what is embedded, a table takes its place, and the number is reported. -/
theorem patchy_settings_looked_up :
    Keyed patchy ∧
    lookup (Table.merge defaults patchy) "masking" "engine" = (.text "delimiters", []) ∧
    lookup (Table.merge defaults patchy) "masking" "delimiters" =
      (.table .block [("on", .text "//")], []) ∧
    lookup (Table.merge defaults patchy) "logging" "file_level" =
      (.text "DEBUG", [notATable "logging"]) := by
  refine ⟨keyed_patchy, ?_, ?_, ?_⟩
  · rw [(falling_back_agrees keyed_patchy "masking" "engine").1]
    rfl
  · rw [(falling_back_agrees keyed_patchy "masking" "delimiters").1]
    rfl
  · rw [(falling_back_agrees keyed_patchy "logging" "file_level").1]
    rfl

end Sightline.Setting
