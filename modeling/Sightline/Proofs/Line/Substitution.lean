import Sightline.Proofs.Line.Greedy
import Sightline.Proofs.Line.Occurrences
import Sightline.Proofs.Text.Substitution

/-! Replacement in a line as ordinary replacement. The greedy choice leaves no occurrence between
the pieces that are replaced, so that replacing in text and view at once is ordinary replacement in
the row of columns. What is known of that then holds of lines: a text that the view does not know
can be put in place of another, and be replaced by it again. -/
namespace Sightline.Line

/-- Wherever a line holds `old`, one of some offsets covers the column, counted from `start` on. -/
def CoveredBy (old : Text) (start : Nat) (offsets : List Nat) (l : Line) : Prop :=
  ∀ column, l.HoldsAt old column →
    ∃ offset ∈ offsets, offset ≤ start + column ∧ start + column < offset + old.length

variable {old new : Text} {start : Nat} {offsets : List Nat} {l r front : Line}

theorem columns_plain_prefix_iff {old text view : Text} :
    (plain old).columns <+: text.zip view ↔ old <+: text ∧ old <+: view := by
  rw [columns_plain]
  induction old generalizing text view with
  | nil => simp
  | cons c old ih =>
      cases text with
      | nil => simp
      | cons a text =>
          cases view with
          | nil => simp
          | cons b view =>
              simp only [List.map_cons, List.zip_cons_cons, List.cons_prefix_cons, ih,
                Prod.mk.injEq]
              exact and_and_and_comm

/-- Text and view hold a text where its columns start in the row of columns. -/
theorem holdsAt_iff (l : Line) (old : Text) (column : Nat) :
    l.HoldsAt old column ↔ (plain old).columns <+: l.columns.drop column := by
  have hRest : l.columns.drop column = (l.text.drop column).zip (l.view.drop column) :=
    List.drop_zipWith
  rw [hRest, columns_plain_prefix_iff, HoldsAt]

theorem holdsAt_append (hFront : front.Aligned) (column : Nat) :
    (front ++ l).HoldsAt old (front.text.length + column) ↔ l.HoldsAt old column := by
  have hView : front.text.length + column = front.view.length + column := by
    rw [show front.view.length = front.text.length from hFront]
  rw [HoldsAt, text_append, view_append, List.drop_length_add_append, hView,
    List.drop_length_add_append, HoldsAt]

theorem Rewrites.le_of_mem (h : Rewrites old new start offsets l r) {offset : Nat}
    (hMem : offset ∈ offsets) : start ≤ offset := by
  obtain ⟨_, _, -, -, rfl⟩ := h.exists_piece hMem
  exact Nat.le_add_right _ _

theorem columns_plain_ne_nil (hOld : old ≠ []) : (plain old).columns ≠ [] := by
  rw [columns_plain]
  exact mt List.map_eq_nil_iff.mp hOld

/-- If the pieces that are rewritten cover all places of `old`, the rewriting is the ordinary
replacement in the row of columns. -/
theorem Rewrites.columns_eq (hOld : old ≠ []) (h : Rewrites old new start offsets l r)
    (hCovered : l.CoveredBy old start offsets) :
    r.columns = Text.replaceAll (plain old).columns (plain new).columns l.columns := by
  induction h with
  | last start l =>
      refine (Text.replaceAll_eq_self fun column hHolds => ?_).symm
      obtain ⟨_, hMem, -⟩ := hCovered column ((holdsAt_iff l old column).mpr hHolds)
      cases hMem
  | @piece start offsets gap l r hGap tail ih =>
      have hPiece := hGap.append (aligned_plain old)
      have hWidth : (gap ++ plain old).text.length = gap.text.length + old.length :=
        List.length_append
      have hRest : l.CoveredBy old (start + gap.text.length + old.length) offsets := by
        intro column hHolds
        obtain ⟨offset, hMem, hFront, hBack⟩ :=
          hCovered _ ((holdsAt_append hPiece column).mpr hHolds)
        rw [hWidth] at hFront hBack
        rcases List.mem_cons.mp hMem with rfl | hMem
        · omega
        · exact ⟨offset, hMem, by omega, by omega⟩
      -- the first piece covers nothing of the gap, and the others start behind it
      have hKept : ∀ k < gap.columns.length,
          ¬(plain old).columns <+: (gap.columns ++ ((plain old).columns ++ l.columns)).drop k := by
        intro k hk hHolds
        rw [length_columns hGap] at hk
        rw [← columns_append (aligned_plain old), ← columns_append hGap, ← holdsAt_iff,
          ← append_assoc] at hHolds
        obtain ⟨offset, hMem, hFront, -⟩ := hCovered k hHolds
        rcases List.mem_cons.mp hMem with rfl | hMem
        · omega
        · have hBehind := tail.le_of_mem hMem
          omega
      rw [append_assoc, columns_append hGap, columns_append (aligned_plain new), ih hRest,
        append_assoc, columns_append hGap, columns_append (aligned_plain old),
        Text.replaceAll_behind hKept,
        Text.replaceAll_append (columns_plain_ne_nil hOld)]

theorem covered_by_occurrences (hOld : old ≠ []) (l : Line) :
    l.CoveredBy old 0 (l.occurrences old) := by
  intro column hHolds
  have hInside : column < l.view.length := by
    have hSome := drop_ne_nil_of_pattern hOld hHolds.2
    simpa using hSome
  rw [occurrences_eq_greedy l hOld, Nat.zero_add]
  exact covered_by_greedyFrom hOld (Nat.zero_le _) (by omega) hHolds

/-- In the row of columns, replacing a text is ordinary replacement. -/
theorem columns_replace (hOld : old ≠ []) (l : Line) (new : Text) :
    (l.replace old new).columns =
      Text.replaceAll (plain old).columns (plain new).columns l.columns :=
  (rewrites_replace l old new).columns_eq hOld (covered_by_occurrences hOld l)

/-- In a line that hides nothing, replacing a text is ordinary replacement. -/
theorem replace_plain (hOld : old ≠ []) (new s : Text) :
    (plain s).replace old new = plain (Text.replaceAll old new s) := by
  refine ((aligned_plain s).replace old new).eq_of_columns (aligned_plain _) ?_
  have hDoubled : Function.Injective fun c : Char => (c, c) := fun _ _ h => congrArg Prod.fst h
  simp only [columns_replace hOld, columns_plain]
  exact Text.replaceAll_map hDoubled hOld s

/-- Replacing a text replaces its greedy choice: from left to right, without overlap, and leaving no
place at which text and view hold it uncovered. The scan for it ends within a turn for each column
of the view and one more. In the row of columns of an aligned line, and in text and view where they
are the same, that is ordinary replacement. The empty text is nowhere and replaced nowhere. -/
theorem replacement_is_greedy (l : Line) (old new : Text) :
    let offsets := l.occurrences old
    (old ≠ [] →
      offsets = l.greedy old ∧
      (∀ turns, l.view.length < turns → l.scanWithin? old turns 0 = some offsets) ∧
      offsets.Pairwise (fun i j => i < j ∧ i + old.length ≤ j) ∧
      (∀ offset ∈ offsets, l.HoldsAt old offset) ∧
      (∀ column, l.HoldsAt old column →
        ∃ offset ∈ offsets, offset ≤ column ∧ column < offset + old.length) ∧
      Rewrites old new 0 offsets l (l.replace old new) ∧
      (l.Aligned → (l.replace old new).Aligned ∧ (l.replace old new).columns =
        Text.replaceAll (plain old).columns (plain new).columns l.columns) ∧
      (l.text = l.view → (l.replace old new).text = Text.replaceAll old new l.text ∧
        (l.replace old new).view = Text.replaceAll old new l.view)) ∧
    (old = [] → offsets = [] ∧ l.replace old new = l) := by
  intro offsets
  refine ⟨fun hOld => ?_, fun hNone => ?_⟩
  · have hGreedy : offsets = l.greedy old := occurrences_eq_greedy l hOld
    refine ⟨hGreedy, fun turns hTurns => scanWithin?_eq_occurrences hOld hTurns, ?_,
      fun offset hMem => ?_, fun column hHolds => ?_, rewrites_replace l old new,
      fun hAligned => ⟨hAligned.replace old new, columns_replace hOld l new⟩, fun hSame => ?_⟩
    · rw [hGreedy]
      exact pairwise_greedyFrom hOld l _ _ _
    · rw [hGreedy] at hMem
      exact (holdsAt_of_mem_greedyFrom hMem).2
    · simpa using covered_by_occurrences hOld l column hHolds
    · obtain ⟨text, view⟩ := l
      obtain rfl : text = view := hSame
      have hPlain := replace_plain hOld new text
      exact ⟨congrArg Line.text hPlain, congrArg Line.view hPlain⟩
  · subst hNone
    exact ⟨rfl, rfl⟩

/-- A hit that the text does not confirm is left by one column, a confirmed one as a whole: the
filler at column 1 hides nothing of the occurrence at column 2. -/
example : (Line.mk "ab  ab    ".toList "a   ab    ".toList).occurrences [' ', ' '] = [2, 6, 8] := by
  decide +kernel

/-- A rename can be undone: if the view knows no character of the new text, the pieces that it was
put into are the only places where it stands in text and view, and putting the old text back there
gives the line. The new text may stand in what the line hides. -/
theorem renaming_undone {l : Line} (hAligned : l.Aligned) {old new : Text} (hOld : old ≠ [])
    (hNew : new ≠ []) (hFresh : ∀ c ∈ new, c ∉ l.view) :
    (l.replace old new).replace new old = l := by
  have hFreshColumns : ∀ p ∈ (plain new).columns, p ∉ l.columns := by
    rintro ⟨a, b⟩ hPiece hColumn
    exact hFresh b (List.of_mem_zip hPiece).2 (List.of_mem_zip hColumn).2
  refine ((hAligned.replace old new).replace new old).eq_of_columns hAligned ?_
  rw [columns_replace hNew, columns_replace hOld,
    Text.replaceAll_replaceAll (columns_plain_ne_nil hOld) (columns_plain_ne_nil hNew)
      hFreshColumns]

/-- Two neighbours are renamed to a text that overlaps itself and stands in a comment behind them;
the pieces are told apart again. -/
theorem neighbours_renamed_and_back :
    let l : Line := ⟨"ff // ggg".toList, "ff       ".toList⟩
    l.Aligned ∧ ['f'] ≠ [] ∧ ['g', 'g'] ≠ [] ∧ (∀ c ∈ ['g', 'g'], c ∉ l.view) ∧
      l.replace ['f'] ['g', 'g'] = ⟨"gggg // ggg".toList, "gggg       ".toList⟩ ∧
      (l.replace ['f'] ['g', 'g']).replace ['g', 'g'] ['f'] = l := by
  intro l
  have hAligned : l.Aligned := by decide
  have hFresh : ∀ c ∈ ['g', 'g'], c ∉ l.view := by simp [l]
  exact ⟨hAligned, by decide, by decide, hFresh, by decide +kernel,
    renaming_undone hAligned (by decide) (by decide) hFresh⟩

end Sightline.Line
