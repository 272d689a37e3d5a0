import Sightline.Proofs.Mask.Contract

/-! A scanner that reads one character at a time, with a place for every
situation a line can be in, and the lexical view as what it writes. The strides
of `scan` look ahead for the end of a comment or a literal; the scanner never
looks further than the next character. -/
namespace Sightline.Mask

/-- Where the scanner stands between two characters of a line. -/
inductive Place where
  | code
  /-- In a line comment. -/
  | remark
  /-- Between the two characters of the mark that opens a block comment. -/
  | opener
  | block
  /-- Between the two characters of the mark that closes a block comment. -/
  | closer
  /-- In a literal that `mark` closes. -/
  | literal (mark : Char)
  /-- In a literal, behind a backslash. -/
  | escape (mark : Char)
  deriving DecidableEq, Repr

namespace Place

/-- One character, with the one behind it in view: whether the character is
hidden, and where the scanner stands afterwards. -/
def step (ds : DelimiterSet) : Place → Char → Option Char → Bool × Place
  | code, c, next =>
    if ds.lineComment ∧ c = '/' ∧ next = some '/' then (true, remark)
    else if ds.blockComment ∧ c = '/' ∧ next = some '*' then (true, opener)
    else if isQuote ds c then (false, literal c)
    else (false, code)
  | remark, _, _ => (true, remark)
  | opener, _, _ => (true, block)
  | block, c, next => (true, if c = '*' ∧ next = some '/' then closer else block)
  | closer, _, _ => (true, code)
  | literal mark, c, _ =>
    if c = mark then (false, code)
    else if c = '\\' then (true, escape mark)
    else (true, literal mark)
  | escape mark, _, _ => (true, literal mark)

/-- Whether the next line starts inside a block comment. -/
def isOpen : Place → Bool
  | opener => true
  | block => true
  | _ => false

/-- Where the scanner stands at the start of a line. -/
def atStart (inBlock : Bool) : Place := if inBlock then block else code

end Place

/-- What the scanner writes for the rest of a line, and whether a block comment
is open at its end. -/
def walk (ds : DelimiterSet) : Place → Text → Text × Bool
  | place, [] => ([], place.isOpen)
  | place, c :: rest =>
    let (hidden, after) := place.step ds c rest.head?
    let (view, inBlock) := walk ds after rest
    ((if hidden then filler else c) :: view, inBlock)

/-- What the scanner writes for some lines. All that passes from one line to the
next is whether a block comment is open. -/
def walkLines (ds : DelimiterSet) : (inBlock : Bool) → List Text → List Text
  | _, [] => []
  | inBlock, line :: lines =>
    let (view, after) := walk ds (.atStart inBlock) line
    view :: walkLines ds after lines

theorem walk_cons (ds : DelimiterSet) (place : Place) (c : Char) (rest : Text) :
    walk ds place (c :: rest) =
      ((if (place.step ds c rest.head?).1 then filler else c) ::
          (walk ds (place.step ds c rest.head?).2 rest).1,
        (walk ds (place.step ds c rest.head?).2 rest).2) := rfl

@[simp] theorem blanked_nil : blanked [] = [] := rfl

@[simp] theorem blanked_cons (c : Char) (s : Text) : blanked (c :: s) = filler :: blanked s := rfl

/-- A mark of two characters at the start of a text, as the scanner sees it: by
the first character and the one behind. -/
theorem isPrefixOf_pair_iff (a b c : Char) (rest : Text) :
    [a, b].isPrefixOf (c :: rest) = true ↔ c = a ∧ rest.head? = some b := by
  rw [List.isPrefixOf_iff_prefix, List.cons_prefix_cons]
  cases rest with
  | nil => simp
  | cons d rest => simp [eq_comm]

theorem walk_remark (ds : DelimiterSet) (s : Text) : walk ds .remark s = (blanked s, false) := by
  induction s with
  | nil => rfl
  | cons c rest ih => simp [walk, Place.step, ih]

/-- A block comment that does not end on this line hides all of it. -/
theorem walk_block_of_find?_none (ds : DelimiterSet) {s : Text}
    (h : Text.find? ['*', '/'] s = none) : walk ds .block s = (blanked s, true) := by
  induction s with
  | nil => rfl
  | cons c rest ih =>
      rw [Text.find?] at h
      split at h
      · cases h
      next hMark =>
        have hNot : ¬(c = '*' ∧ rest.head? = some '/') := fun hc =>
          hMark ((isPrefixOf_pair_iff _ _ _ _).mpr hc)
        simp [walk, Place.step, hNot, ih (Option.map_eq_none_iff.mp h)]

/-- A block comment that ends on this line hides it up to and including the first
closing mark, and code follows. -/
theorem walk_block_of_find?_some (ds : DelimiterSet) {s : Text} {k : Nat}
    (h : Text.find? ['*', '/'] s = some k) :
    walk ds .block s =
      (blanked (s.take (k + 2)) ++ (walk ds .code (s.drop (k + 2))).1,
        (walk ds .code (s.drop (k + 2))).2) := by
  induction s generalizing k with
  | nil => simp [Text.find?] at h
  | cons c rest ih =>
      rw [Text.find?] at h
      split at h
      next hMark =>
        obtain ⟨rfl, hHead⟩ := (isPrefixOf_pair_iff _ _ _ _).mp hMark
        obtain ⟨tail, rfl⟩ := List.head?_eq_some_iff.mp hHead
        cases h
        simp [walk, Place.step]
      next hMark =>
        obtain ⟨j, hj, rfl⟩ := Option.map_eq_some_iff.mp h
        have hNot : ¬(c = '*' ∧ rest.head? = some '/') := fun hc =>
          hMark ((isPrefixOf_pair_iff _ _ _ _).mpr hc)
        simp [walk, Place.step, hNot, ih hj]

/-- A literal is hidden up to its closing quote, which is kept, and code follows;
one that is not closed is hidden to the end of the line and leaves nothing open. -/
theorem walk_literal (ds : DelimiterSet) (mark : Char) (s : Text) :
    walk ds (.literal mark) s =
      (blanked (s.take (literalLength mark s)) ++ (s.drop (literalLength mark s)).take 1 ++
          (walk ds .code (s.drop (literalLength mark s + 1))).1,
        (walk ds .code (s.drop (literalLength mark s + 1))).2) := by
  fun_induction literalLength mark s with
  | case1 => simp [walk, Place.isOpen]
  | case2 rest => simp [walk, Place.step]
  | case3 hMark => simp [walk, Place.step, if_neg hMark, Place.isOpen]
  | case4 d rest hMark ih => simp [walk, Place.step, if_neg hMark, ih]
  | case5 c rest hMark hEscape ih => simp [walk, Place.step, hMark, hEscape, ih]

/-- The strides of a scan and the single steps of the scanner agree on every rest
of a line, from code as from inside a block comment. -/
theorem scan_eq_walk (ds : DelimiterSet) (inBlock : Bool) (s : Text) :
    scan ds inBlock s = walk ds (.atStart inBlock) s := by
  fun_induction scan ds inBlock s with
  | case1 inBlock => cases inBlock <;> rfl
  | case2 c rest hFind => exact (walk_block_of_find?_none ds hFind).symm
  | case3 c rest k hFind view after hScan ih =>
      have hWalk : walk ds .code (rest.drop (k + 1)) = (view, after) := ih.symm.trans hScan
      simp only [Place.atStart, if_true]
      rw [walk_block_of_find?_some ds hFind, List.drop_succ_cons, hWalk]
  | case4 inBlock c rest hCode hMark =>
      simp only [Bool.and_eq_true, isPrefixOf_pair_iff] at hMark
      simp [Place.atStart, hCode, walk, Place.step, hMark, walk_remark]
  | case5 inBlock c rest hCode hRemark hMark view after hScan ih =>
      simp only [Bool.and_eq_true, isPrefixOf_pair_iff] at hMark
      obtain ⟨hEnabled, rfl, hHead⟩ := hMark
      obtain ⟨tail, rfl⟩ := List.head?_eq_some_iff.mp hHead
      have hWalk : walk ds .block tail = (view, after) := ih.symm.trans hScan
      simp [Place.atStart, hCode, walk, Place.step, hEnabled, hWalk]
  | case6 inBlock c rest hCode hRemark hOpener hQuote n view after hScan ih =>
      have hWalk : walk ds .code (rest.drop (n + 1)) = (view, after) := ih.symm.trans hScan
      simp only [Bool.and_eq_true, isPrefixOf_pair_iff] at hRemark hOpener
      simp [Place.atStart, hCode, walk, Place.step, hRemark, hOpener, hQuote, walk_literal, n,
        hWalk]
  | case7 inBlock c rest hCode hRemark hOpener hQuote view after hScan ih =>
      have hWalk : walk ds .code rest = (view, after) := ih.symm.trans hScan
      simp only [Bool.and_eq_true, isPrefixOf_pair_iff] at hRemark hOpener
      simp [Place.atStart, hCode, walk, Place.step, hRemark, hOpener, hQuote, hWalk]

/-- The lexical view of some lines is what the scanner writes for them. -/
theorem scanLines_eq_walkLines (ds : DelimiterSet) (inBlock : Bool) (lines : List Text) :
    scanLines ds inBlock lines = walkLines ds inBlock lines := by
  induction lines generalizing inBlock with
  | nil => rfl
  | cons line lines ih => simp only [scanLines, walkLines, scan_eq_walk, ih]

theorem walk_veils (ds : DelimiterSet) (place : Place) (line : Text) :
    Veils line (walk ds place line).1 := by
  induction line generalizing place with
  | nil => exact .nil
  | cons c rest ih =>
      rw [walk_cons]
      refine .cons ?_ (ih _)
      cases (place.step ds c rest.head?).1 with
      | false => exact Or.inl rfl
      | true => exact Or.inr rfl

theorem walkLines_veils (ds : DelimiterSet) (inBlock : Bool) (lines : List Text) :
    List.Forall₂ Veils lines (walkLines ds inBlock lines) := by
  induction lines generalizing inBlock with
  | nil => exact .nil
  | cons line lines ih => exact .cons (walk_veils ds _ line) (ih _)

/-- The columns that the strides of a scan write to, in the rest of a line that
starts in `column`. -/
def writes (ds : DelimiterSet) (inBlock : Bool) (column : Nat) (s : Text) : List Nat :=
  match s with
  | [] => []
  | c :: rest =>
    if inBlock then
      match Text.find? ['*', '/'] (c :: rest) with
      | none => List.range' column (rest.length + 1)
      | some k =>
        List.range' column (k + 2) ++ writes ds false (column + (k + 2)) (rest.drop (k + 1))
    else if ds.lineComment && ['/', '/'].isPrefixOf (c :: rest) then
      List.range' column (rest.length + 1)
    else if ds.blockComment && ['/', '*'].isPrefixOf (c :: rest) then
      List.range' column 2 ++ writes ds true (column + 2) (rest.drop 1)
    else if isQuote ds c then
      let n := literalLength c rest
      List.range' (column + 1) n ++ writes ds false (column + 1 + (n + 1)) (rest.drop (n + 1))
    else writes ds false (column + 1) rest
  termination_by s.length
  decreasing_by all_goals simp only [List.length_cons, List.length_drop]; omega

/-- The rest of a line that starts in `column`, with fillers in some columns. -/
def fill (columns : List Nat) : (column : Nat) → Text → Text
  | _, [] => []
  | column, c :: rest => (if column ∈ columns then filler else c) :: fill columns (column + 1) rest

theorem fill_append (columns : List Nat) (column : Nat) (s t : Text) :
    fill columns column (s ++ t) = fill columns column s ++ fill columns (column + s.length) t := by
  induction s generalizing column with
  | nil => rfl
  | cons c s ih => simp [fill, ih, Nat.add_assoc, Nat.add_comm 1]

/-- Columns in front of the rest of a line have no part in it. -/
theorem fill_append_left {before columns : List Nat} {column : Nat} (s : Text)
    (h : ∀ k ∈ before, k < column) : fill (before ++ columns) column s = fill columns column s := by
  induction s generalizing column with
  | nil => rfl
  | cons c s ih =>
      have hNot : column ∉ before := fun hMem => Nat.lt_irrefl _ (h column hMem)
      simp only [fill, List.mem_append, hNot, false_or]
      rw [ih fun k hk => Nat.lt_succ_of_lt (h k hk)]

theorem fill_eq_blanked {columns : List Nat} {column : Nat} {s : Text}
    (h : ∀ k, column ≤ k → k < column + s.length → k ∈ columns) :
    fill columns column s = blanked s := by
  induction s generalizing column with
  | nil => rfl
  | cons c s ih =>
      have hHere : column ∈ columns := h column (Nat.le_refl _) (by simp)
      have hRest : fill columns (column + 1) s = blanked s := by
        refine ih fun k hLow hHigh => h k (by omega) ?_
        rw [List.length_cons]
        omega
      simp [fill, hHere, hRest]

/-- A stride that hides `n` characters writes to their columns and leaves those
behind them to the strides that follow. -/
theorem fill_stride (columns : List Nat) (column : Nat) {n : Nat} {s : Text} (h : n ≤ s.length) :
    fill (List.range' column n ++ columns) column s =
      blanked (s.take n) ++ fill columns (column + n) (s.drop n) := by
  have hTake : (s.take n).length = n := List.length_take_of_le h
  conv_lhs => rw [← List.take_append_drop n s, fill_append, hTake]
  congr 1
  · refine fill_eq_blanked fun k hLow hHigh => List.mem_append_left _ ?_
    rw [hTake] at hHigh
    exact List.mem_range'_1.mpr ⟨hLow, hHigh⟩
  · exact fill_append_left _ fun k hk => (List.mem_range'_1.mp hk).2

/-- A stride to the end of the line. -/
theorem fill_range' (column : Nat) (s : Text) :
    fill (List.range' column s.length) column s = blanked s :=
  fill_eq_blanked fun _ hLow hHigh => List.mem_range'_1.mpr ⟨hLow, hHigh⟩

theorem fill_cons_of_forall_lt {columns : List Nat} {column : Nat} (c : Char) (s : Text)
    (h : ∀ k ∈ columns, column < k) :
    fill columns column (c :: s) = c :: fill columns (column + 1) s := by
  have hNot : column ∉ columns := fun hMem => Nat.lt_irrefl _ (h column hMem)
  simp [fill, hNot]

/-- One character, if there is one, that no stride writes to. -/
theorem fill_take_one {columns : List Nat} {column : Nat} (s : Text)
    (h : ∀ k ∈ columns, column < k) :
    fill columns column s = s.take 1 ++ fill columns (column + 1) (s.drop 1) := by
  cases s with
  | nil => rfl
  | cons c s => exact fill_cons_of_forall_lt c s h

theorem mem_stride {column n k : Nat} {columns : List Nat} :
    k ∈ List.range' column n ++ columns ↔ (column ≤ k ∧ k < column + n) ∨ k ∈ columns := by
  rw [List.mem_append, List.mem_range'_1]

/-- A stride writes to columns of its own rest of the line only. -/
theorem writes_bound (ds : DelimiterSet) (inBlock : Bool) (column : Nat) (s : Text) :
    ∀ k ∈ writes ds inBlock column s, column ≤ k ∧ k < column + s.length := by
  fun_induction writes ds inBlock column s with
  | case1 => simp
  | case2 column c rest hFind =>
      intro k hk
      simpa [List.mem_range'_1] using hk
  | case3 column c rest n hFind ih =>
      intro k hk
      have hBound := Text.find?_bound hFind
      simp only [List.length_cons, List.length_nil, List.length_drop] at hBound ih ⊢
      rcases mem_stride.mp hk with hk | hk
      · omega
      · have := ih k hk
        omega
  | case4 inBlock column c rest hCode hMark =>
      intro k hk
      simpa [List.mem_range'_1] using hk
  | case5 inBlock column c rest hCode hRemark hMark ih =>
      intro k hk
      simp only [Bool.and_eq_true, isPrefixOf_pair_iff] at hMark
      obtain ⟨tail, rfl⟩ := List.head?_eq_some_iff.mp hMark.2.2
      simp only [List.length_cons, List.length_drop] at ih ⊢
      rcases mem_stride.mp hk with hk | hk
      · omega
      · have := ih k hk
        omega
  | case6 inBlock column c rest hCode hRemark hOpener hQuote n ih =>
      intro k hk
      have hBound : n ≤ rest.length := literalLength_le c rest
      simp only [List.length_cons, List.length_drop] at ih ⊢
      rcases mem_stride.mp hk with hk | hk
      · omega
      · have := ih k hk
        omega
  | case7 inBlock column c rest hCode hRemark hOpener hQuote ih =>
      intro k hk
      have := ih k hk
      rw [List.length_cons]
      omega

/-- The view is the line with fillers in the columns that are written to. -/
theorem scan_eq_fill (ds : DelimiterSet) (inBlock : Bool) (column : Nat) (s : Text) :
    (scan ds inBlock s).1 = fill (writes ds inBlock column s) column s := by
  fun_induction writes ds inBlock column s with
  | case1 => simp [scan, fill]
  | case2 column c rest hFind =>
      rw [scan, if_pos rfl, hFind]
      exact (fill_range' column (c :: rest)).symm
  | case3 column c rest n hFind ih =>
      have hBound : n + 2 ≤ (c :: rest).length := Text.find?_bound hFind
      rw [scan, if_pos rfl, hFind, fill_stride _ _ hBound, List.drop_succ_cons, ← ih]
  | case4 inBlock column c rest hCode hMark =>
      rw [scan, if_neg hCode, if_pos hMark]
      exact (fill_range' column (c :: rest)).symm
  | case5 inBlock column c rest hCode hRemark hMark ih =>
      have hBound : 2 ≤ (c :: rest).length := by
        simp only [Bool.and_eq_true, isPrefixOf_pair_iff] at hMark
        obtain ⟨tail, rfl⟩ := List.head?_eq_some_iff.mp hMark.2.2
        simp
      rw [scan, if_neg hCode, if_neg hRemark, if_pos hMark, fill_stride _ _ hBound,
        List.drop_succ_cons, ← ih]
  | case6 inBlock column c rest hCode hRemark hOpener hQuote n ih =>
      have hBound : n ≤ rest.length := literalLength_le c rest
      have hBehind : ∀ k ∈ writes ds false (column + 1 + (n + 1)) (rest.drop (n + 1)),
          column + 1 + n < k := fun k hk => (writes_bound _ _ _ _ k hk).1
      have hInside : ∀ k ∈ List.range' (column + 1) n ++
          writes ds false (column + 1 + (n + 1)) (rest.drop (n + 1)), column < k := by
        intro k hk
        rcases mem_stride.mp hk with hk | hk
        · exact hk.1
        · have := hBehind k hk
          omega
      rw [scan, if_neg hCode, if_neg hRemark, if_neg hOpener, if_pos hQuote,
        fill_cons_of_forall_lt c rest hInside, fill_stride _ _ hBound, fill_take_one _ hBehind,
        List.drop_drop]
      change c :: blanked (rest.take n) ++ (rest.drop n).take 1 ++
        (scan ds false (rest.drop (n + 1))).1 = _
      rw [ih, List.append_assoc]
      rfl
  | case7 inBlock column c rest hCode hRemark hOpener hQuote ih =>
      rw [scan, if_neg hCode, if_neg hRemark, if_neg hOpener, if_neg hQuote,
        fill_cons_of_forall_lt c rest fun k hk => (writes_bound ds false (column + 1) rest k hk).1]
      exact congrArg (List.cons c) ih

/-- The lexical view is what the scanner writes, one character at a time, from
code on the first line. So it has a line for every line and a character for every
character, which is kept or hidden, and every stride stays inside its line. -/
theorem ofDelimiters_mask_eq_walkLines (ds : DelimiterSet) (lines : List Text) :
    (Masker.ofDelimiters ds).mask lines = .ok (walkLines ds false lines) ∧
      List.Forall₂ Veils lines (walkLines ds false lines) ∧
      ∀ (inBlock : Bool) (line : Text),
        (scan ds inBlock line).1 = fill (writes ds inBlock 0 line) 0 line ∧
          ∀ k ∈ writes ds inBlock 0 line, k < line.length := by
  refine ⟨?_, walkLines_veils ds false lines, fun inBlock line => ⟨?_, fun k hk => ?_⟩⟩
  · exact congrArg Except.ok (scanLines_eq_walkLines ds false lines)
  · exact scan_eq_fill ds inBlock 0 line
  · simpa using (writes_bound ds inBlock 0 line k hk).2

end Sightline.Mask
