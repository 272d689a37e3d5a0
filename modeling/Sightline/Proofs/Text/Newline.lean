import Sightline.Text.Newline

/-! Lines put together in one text, and taken out of it again. A line that holds no
line end is found whole between two of them, the empty line included, and nothing is
found behind the last. The other way round, the lines of any text hold no line end, and
put together they are the text with normal line ends, the last one supplied. -/
namespace Sightline.Text

/-- There is no line end in a text. -/
def Unbroken (s : Text) : Prop := ∀ c ∈ s, c ≠ '\n' ∧ c ≠ '\r'

instance (s : Text) : Decidable s.Unbroken :=
  List.decidableBAll (fun c => c ≠ '\n' ∧ c ≠ '\r') s

theorem unbroken_append (s t : Text) : Unbroken (s ++ t) ↔ s.Unbroken ∧ t.Unbroken :=
  List.forall_mem_append

theorem Unbroken.mono {s t : Text} (h : t.Unbroken) (hSub : s ⊆ t) : s.Unbroken :=
  fun c hc => h c (hSub hc)

theorem normalizeEnds_cons {c : Char} (h : c ≠ '\r') (s : Text) :
    normalizeEnds (c :: s) = c :: normalizeEnds s := by
  rw [normalizeEnds.eq_def]
  split <;> simp_all

/-- Text with line feeds for its only line ends is normal. -/
theorem normalizeEnds_eq_self {s : Text} (h : ∀ c ∈ s, c ≠ '\r') : normalizeEnds s = s := by
  induction s with
  | nil => rfl
  | cons c s ih =>
      obtain ⟨hc, hs⟩ := List.forall_mem_cons.mp h
      rw [normalizeEnds_cons hc, ih hs]

/-- The first line is what stands before the first line feed. -/
theorem records_line {line : Text} (h : ∀ c ∈ line, c ≠ '\n') (rest : Text) :
    records (line ++ '\n' :: rest) = line :: records rest := by
  induction line with
  | nil => simp [records]
  | cons c line ih =>
      obtain ⟨hc, hLine⟩ := List.forall_mem_cons.mp h
      rw [List.cons_append, records, if_neg hc, ih hLine]

/-- Lines that are ended and put together are found again. -/
theorem linesOf_endLines {lines : List Text} (h : ∀ line ∈ lines, line.Unbroken) :
    linesOf (endLines lines) = lines := by
  have hReturn : ∀ c ∈ endLines lines, c ≠ '\r' := by
    simp only [endLines, List.mem_flatMap, List.mem_append, List.mem_singleton]
    rintro c ⟨line, hLine, hc | rfl⟩
    · exact (h line hLine c hc).2
    · decide
  rw [linesOf, normalizeEnds_eq_self hReturn]
  clear hReturn
  induction lines with
  | nil => rfl
  | cons line lines ih =>
      obtain ⟨hLine, hLines⟩ := List.forall_mem_cons.mp h
      rw [endLines, List.flatMap_cons, List.append_assoc, List.singleton_append,
        records_line (fun c hc => (hLine c hc).1)]
      exact congrArg (line :: ·) (ih hLines)

theorem mem_normalizeEnds {s : Text} {c : Char} (h : c ∈ normalizeEnds s) :
    c ≠ '\r' ∧ (c = '\n' ∨ c ∈ s) := by
  fun_induction normalizeEnds s with
  | case1 => cases h
  | case2 rest ih | case3 rest hLone ih =>
      obtain rfl | hRest := List.mem_cons.mp h
      · exact ⟨by decide, .inl rfl⟩
      · obtain ⟨hReturn, hIn⟩ := ih hRest
        exact ⟨hReturn, hIn.imp id fun hc => by simp [hc]⟩
  | case4 d rest hLone hReturn ih =>
      obtain rfl | hRest := List.mem_cons.mp h
      · exact ⟨hReturn, .inr List.mem_cons_self⟩
      · obtain ⟨hc, hIn⟩ := ih hRest
        exact ⟨hc, hIn.imp id (List.mem_cons_of_mem d)⟩

theorem normalizeEnds_eq_self_iff {s : Text} : normalizeEnds s = s ↔ '\r' ∉ s := by
  constructor
  · intro h hReturn
    rw [← h] at hReturn
    exact (mem_normalizeEnds hReturn).1 rfl
  · intro h
    exact normalizeEnds_eq_self fun c hc hEq => h (hEq ▸ hc)

/-- A record is cut out of the text and holds no line feed. -/
theorem mem_records {s line : Text} (hLine : line ∈ records s) :
    ∀ c ∈ line, c ≠ '\n' ∧ c ∈ s := by
  induction s generalizing line with
  | nil => cases hLine
  | cons d rest ih =>
      have hMono {t : Text} (ht : ∀ c ∈ t, c ≠ '\n' ∧ c ∈ rest) :
          ∀ c ∈ t, c ≠ '\n' ∧ c ∈ d :: rest :=
        fun c hc => ⟨(ht c hc).1, List.mem_cons_of_mem d (ht c hc).2⟩
      rw [records] at hLine
      split at hLine
      next hd =>
        obtain rfl | hRest := List.mem_cons.mp hLine
        · simp
        · exact hMono (ih hRest)
      next hd =>
        have hHead : ∀ c ∈ [d], c ≠ '\n' ∧ c ∈ d :: rest := by simpa using hd
        split at hLine
        · rwa [List.mem_singleton.mp hLine]
        next first lines hRecords =>
          obtain rfl | hRest := List.mem_cons.mp hLine
          · have hFirst := hMono (ih (hRecords ▸ List.mem_cons_self))
            exact List.forall_mem_append.mpr ⟨hHead, hFirst⟩
          · exact hMono (ih (hRecords ▸ List.mem_cons_of_mem first hRest))

/-- The lines of a text hold no line end, and nothing that the text does not hold. -/
theorem mem_linesOf {s line : Text} (hLine : line ∈ linesOf s) : line.Unbroken ∧ line ⊆ s := by
  have hRecord (c : Char) (hc : c ∈ line) : c ≠ '\n' ∧ c ≠ '\r' ∧ c ∈ s := by
    obtain ⟨hFeed, hIn⟩ := mem_records hLine c hc
    obtain ⟨hReturn, hText⟩ := mem_normalizeEnds hIn
    exact ⟨hFeed, hReturn, hText.resolve_left hFeed⟩
  exact ⟨fun c hc => ⟨(hRecord c hc).1, (hRecord c hc).2.1⟩, fun c hc => (hRecord c hc).2.2⟩

/-- The text with a line feed behind it, unless it is empty or has one there. -/
def ended (s : Text) : Text := if s = [] ∨ s.getLast? = some '\n' then s else s ++ ['\n']

theorem ended_cons_of_ne_nil {rest : Text} (h : rest ≠ []) (c : Char) :
    ended (c :: rest) = c :: ended rest := by
  have hLast : (c :: rest).getLast? = rest.getLast? := List.getLast?_cons_of_ne_nil h
  simp only [ended, h, hLast, reduceCtorEq, false_or]
  split <;> rfl

theorem ended_eq_self_iff {s : Text} : ended s = s ↔ s = [] ∨ s.getLast? = some '\n' := by
  rw [ended]
  split
  next h => simp [h]
  next h => simp [h]

theorem records_eq_nil_iff {s : Text} : records s = [] ↔ s = [] := by
  cases s with
  | nil => simp [records]
  | cons c rest =>
      rw [records]
      repeat' split
      all_goals simp

/-- A line feed behind each record gives the text again, and one where the last was missing. -/
theorem endLines_records (s : Text) : endLines (records s) = ended s := by
  induction s with
  | nil => rfl
  | cons c rest ih =>
      rw [records]
      split
      next hc =>
        subst hc
        change '\n' :: endLines (records rest) = _
        rw [ih]
        by_cases hRest : rest = []
        · subst hRest
          rfl
        · rw [ended_cons_of_ne_nil hRest]
      next hc =>
        split
        next hRecords =>
          rw [records_eq_nil_iff.mp hRecords]
          simp [endLines, ended, hc]
        next line lines hRecords =>
          have hRest : rest ≠ [] := by
            rintro rfl
            cases hRecords
          rw [ended_cons_of_ne_nil hRest, ← ih, hRecords]
          rfl

/-- Only a text with line feeds for its line ends, one at its end included, is left as it
was. -/
theorem ended_normalizeEnds_eq_self_iff {s : Text} : ended (normalizeEnds s) = s ↔
    '\r' ∉ s ∧ (s = [] ∨ s.getLast? = some '\n') := by
  constructor
  · intro h
    have hReturn : '\r' ∉ s := by
      intro hMem
      rw [← h, ended] at hMem
      split at hMem
      · exact (mem_normalizeEnds hMem).1 rfl
      · obtain hMem | hMem := List.mem_append.mp hMem
        · exact (mem_normalizeEnds hMem).1 rfl
        · simp at hMem
    rw [normalizeEnds_eq_self_iff.mpr hReturn] at h
    exact ⟨hReturn, ended_eq_self_iff.mp h⟩
  · rintro ⟨hReturn, hLast⟩
    rw [normalizeEnds_eq_self_iff.mpr hReturn]
    exact ended_eq_self_iff.mpr hLast

end Sightline.Text
