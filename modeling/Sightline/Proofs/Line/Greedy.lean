import Sightline.Proofs.Line.Indexed

/-! The greedy choice of occurrences. The columns of a line are looked at one by one, from left to
right; a column at which text and view both hold a text is taken, and the columns that this
occurrence covers are passed. The occurrences that are searched for in the view and confirmed in
the text are those, whatever the lengths of the two. -/
namespace Sightline.Line

/-- Text and view hold `old` at a column. -/
def HoldsAt (l : Line) (old : Text) (column : Nat) : Prop :=
  old <+: l.text.drop column ∧ old <+: l.view.drop column

instance (l : Line) (old : Text) (column : Nat) : Decidable (l.HoldsAt old column) :=
  inferInstanceAs (Decidable (_ ∧ _))

/-- Looks at `count` columns from `column` on, one after the other. Once `pass` of them are
passed, it takes each at which text and view hold `old`, and then passes what that covers. -/
def greedyFrom (l : Line) (old : Text) : (count pass column : Nat) → List Nat
  | 0, _, _ => []
  | count + 1, pass + 1, column => greedyFrom l old count pass (column + 1)
  | count + 1, 0, column =>
    if l.HoldsAt old column then
      column :: greedyFrom l old count (old.length - 1) (column + 1)
    else greedyFrom l old count 0 (column + 1)

/-- The greedy choice from all columns of the view. -/
def greedy (l : Line) (old : Text) : List Nat := l.greedyFrom old l.view.length 0 0

variable {l : Line} {old : Text}

theorem greedyFrom_pass (l : Line) (old : Text) (pass count column : Nat) :
    l.greedyFrom old (pass + count) pass column = l.greedyFrom old count 0 (column + pass) := by
  induction pass generalizing column with
  | zero => rw [Nat.zero_add, Nat.add_zero]
  | succ pass ih =>
      rw [Nat.add_right_comm, greedyFrom, ih, Nat.add_assoc, Nat.add_comm 1]

/-- Columns that do not hold the text are left behind. -/
theorem greedyFrom_behind (count : Nat) {k column : Nat}
    (h : ∀ c, column ≤ c → c < column + k → ¬l.HoldsAt old c) :
    l.greedyFrom old (k + count) 0 column = l.greedyFrom old count 0 (column + k) := by
  induction k generalizing column with
  | zero => rw [Nat.zero_add, Nat.add_zero]
  | succ k ih =>
      have hHere : ¬l.HoldsAt old column := h column (Nat.le_refl _) (by omega)
      rw [Nat.add_right_comm, greedyFrom, if_neg hHere,
        ih fun c hFront hBack => h c (by omega) (by omega), Nat.add_right_comm, Nat.add_assoc]

theorem greedyFrom_none {count column : Nat} (h : ∀ c, column ≤ c → ¬l.HoldsAt old c) :
    l.greedyFrom old count 0 column = [] :=
  greedyFrom_behind 0 fun c hFront _ => h c hFront

/-- A column that holds the text is taken, and what it covers is passed. -/
theorem greedyFrom_here (hOld : old ≠ []) (count : Nat) {column : Nat}
    (h : l.HoldsAt old column) : l.greedyFrom old (old.length + count) 0 column =
      column :: l.greedyFrom old count 0 (column + old.length) := by
  obtain ⟨width, hWidth⟩ : ∃ width, old.length = width + 1 :=
    Nat.exists_eq_add_one.mpr (List.length_pos_iff.mpr hOld)
  rw [hWidth, Nat.add_right_comm, greedyFrom, if_pos h, hWidth, Nat.add_sub_cancel,
    greedyFrom_pass, Nat.add_assoc, Nat.add_comm 1]

/-- The scan of the view that asks the text to confirm is the greedy choice. -/
theorem occurrencesFrom_eq_greedyFrom (c : Char) (old : Text) {text view : Text} {start : Nat}
    (hText : text = l.text.drop start) (hView : view = l.view.drop start) :
    occurrencesFrom c old text view start = l.greedyFrom (c :: old) view.length 0 start := by
  -- the columns of the rest, counted from the front of the line
  have hColumn {text view : Text} {start : Nat} (hText : text = l.text.drop start)
      (hView : view = l.view.drop start) (k : Nat) : l.HoldsAt (c :: old) (start + k) ↔
        c :: old <+: text.drop k ∧ c :: old <+: view.drop k := by
    rw [hText, hView, List.drop_drop, List.drop_drop, HoldsAt]
  fun_induction occurrencesFrom c old text view start with
  | case1 text view start hFind =>
      refine (greedyFrom_none fun column hFront hHolds => ?_).symm
      obtain ⟨k, rfl⟩ := Nat.exists_eq_add_of_le hFront
      have hSeen := ((hColumn hText hView k).mp hHolds).2
      exact Text.find?_eq_none_iff.mp hFind
        (hSeen.isInfix.trans (List.drop_suffix k view).isInfix)
  | case2 text view start k hFind hBound hHere ih =>
      obtain ⟨hSeen, hFirst⟩ := Text.find?_eq_some_iff.mp hFind
      have hLength : view.length =
          k + ((c :: old).length + (view.drop (k + old.length + 1)).length) := by
        simp only [List.length_cons, List.length_drop] at hBound ⊢
        omega
      have hHolds : l.HoldsAt (c :: old) (start + k) :=
        (hColumn hText hView k).mpr ⟨List.isPrefixOf_iff_prefix.mp hHere, hSeen⟩
      rw [hLength, greedyFrom_behind, greedyFrom_here (List.cons_ne_nil c old) _ hHolds, ih]
      · simp only [List.length_cons, Nat.add_assoc]
      · simp only [hText, List.drop_drop, Nat.add_assoc]
      · simp only [hView, List.drop_drop, Nat.add_assoc]
      · intro column hFront hBack hHolds
        obtain ⟨j, rfl⟩ := Nat.exists_eq_add_of_le hFront
        exact hFirst j (by omega) ((hColumn hText hView j).mp hHolds).2
  | case3 text view start k hFind hBound hHere ih =>
      obtain ⟨-, hFirst⟩ := Text.find?_eq_some_iff.mp hFind
      have hLength : view.length = (k + 1) + (view.drop (k + 1)).length := by
        simp only [List.length_cons, List.length_drop] at hBound ⊢
        omega
      rw [hLength, greedyFrom_behind, ih]
      · rfl
      · rw [hText, List.drop_drop, Nat.add_assoc]
      · rw [hView, List.drop_drop, Nat.add_assoc]
      · intro column hFront hBack hHolds
        obtain ⟨j, rfl⟩ := Nat.exists_eq_add_of_le hFront
        obtain ⟨hConfirmed, hSeen⟩ := (hColumn hText hView j).mp hHolds
        rcases Nat.lt_or_ge j k with hj | hj
        · exact hFirst j hj hSeen
        · obtain rfl : j = k := by omega
          exact hHere (List.isPrefixOf_iff_prefix.mpr hConfirmed)

theorem occurrences_eq_greedy (l : Line) (hOld : old ≠ []) :
    l.occurrences old = l.greedy old := by
  obtain ⟨c, rest, rfl⟩ := List.exists_cons_of_ne_nil hOld
  exact occurrencesFrom_eq_greedyFrom c rest rfl rfl

/-- The scan for `old` from a column of the view on, if it ends within some turns. A turn looks for
`old` in the view and asks the text to confirm; the next one starts behind a confirmed hit, or one
column behind the start of another. -/
def scanWithin? (l : Line) (old : Text) : (turns start : Nat) → Option (List Nat)
  | 0, _ => none
  | turns + 1, start =>
    match Text.find? old (l.view.drop start) with
    | none => some []
    | some k =>
      if old.isPrefixOf (l.text.drop (start + k)) then
        (scanWithin? l old turns (start + k + old.length)).map ((start + k) :: ·)
      else scanWithin? l old turns (start + k + 1)

/-- A turn for each column that is left, and one more, are enough. -/
theorem scanWithin?_eq (c : Char) (old : Text) {turns start : Nat}
    (h : l.view.length - start < turns) :
    l.scanWithin? (c :: old) turns start =
      some (occurrencesFrom c old (l.text.drop start) (l.view.drop start) start) := by
  induction turns generalizing start with
  | zero => cases h
  | succ turns ih =>
      rw [scanWithin?, occurrencesFrom_step]
      cases hFind : Text.find? (c :: old) (l.view.drop start) with
      | none => rfl
      | some k =>
          have hBound := Text.find?_bound hFind
          rw [List.length_cons, List.length_drop] at hBound
          dsimp only
          rw [List.drop_drop, ih (by rw [List.length_cons]; omega), ih (by omega)]
          simp only [List.drop_drop, List.length_cons, ← Nat.add_assoc]
          split <;> rfl

theorem scanWithin?_eq_occurrences (hOld : old ≠ []) {turns : Nat} (h : l.view.length < turns) :
    l.scanWithin? old turns 0 = some (l.occurrences old) := by
  obtain ⟨c, rest, rfl⟩ := List.exists_cons_of_ne_nil hOld
  exact scanWithin?_eq c rest h

/-- What is taken holds the text, and is not passed. -/
theorem holdsAt_of_mem_greedyFrom {count pass column offset : Nat}
    (h : offset ∈ l.greedyFrom old count pass column) :
    column + pass ≤ offset ∧ l.HoldsAt old offset := by
  fun_induction greedyFrom l old count pass column with
  | case1 => cases h
  | case2 count pass column ih =>
      obtain ⟨hFront, hHolds⟩ := ih h
      exact ⟨by omega, hHolds⟩
  | case3 count column hHere ih =>
      rcases List.mem_cons.mp h with rfl | hRest
      · exact ⟨Nat.le_refl _, hHere⟩
      · obtain ⟨hFront, hHolds⟩ := ih hRest
        exact ⟨by omega, hHolds⟩
  | case4 count column hHere ih =>
      obtain ⟨hFront, hHolds⟩ := ih h
      exact ⟨by omega, hHolds⟩

/-- What is taken follows one on the other without overlap. -/
theorem pairwise_greedyFrom (hOld : old ≠ []) (l : Line) (count pass column : Nat) :
    (l.greedyFrom old count pass column).Pairwise fun i j => i < j ∧ i + old.length ≤ j := by
  have hWidth := List.length_pos_iff.mpr hOld
  fun_induction greedyFrom l old count pass column with
  | case1 => exact .nil
  | case2 count pass column ih => exact ih
  | case3 count column hHere ih =>
      refine List.pairwise_cons.mpr ⟨fun offset hMem => ?_, ih⟩
      have hFront := (holdsAt_of_mem_greedyFrom hMem).1
      omega
  | case4 count column hHere ih => exact ih

/-- A column that holds the text is taken, or one that is taken covers it. -/
theorem covered_by_greedyFrom (hOld : old ≠ []) {count pass column c : Nat}
    (hFront : column + pass ≤ c) (hBack : c < column + count) (hHolds : l.HoldsAt old c) :
    ∃ offset ∈ l.greedyFrom old count pass column, offset ≤ c ∧ c < offset + old.length := by
  have hWidth := List.length_pos_iff.mpr hOld
  fun_induction greedyFrom l old count pass column with
  | case1 column => omega
  | case2 count pass column ih => exact ih (by omega) (by omega)
  | case3 count column hHere ih =>
      by_cases hCovered : c < column + old.length
      · exact ⟨column, List.mem_cons_self, hFront, hCovered⟩
      · obtain ⟨offset, hMem, hCovers⟩ := ih (by omega) (by omega)
        exact ⟨offset, List.mem_cons_of_mem _ hMem, hCovers⟩
  | case4 count column hHere ih =>
      have hPast : column ≠ c := fun hSame => hHere (hSame ▸ hHolds)
      exact ih (by omega) (by omega)

end Sightline.Line
