import Mathlib.Order.Bounds.Basic
import Sightline.Mask.Delimiter

/-! Sets of delimiters as they are written. No token is the start of another, so a text is the
tokens of one list of delimiters at most, and reading takes the token in front without a choice. A
text that is none is read up to the end of its longest part that is one; of a list, all items
that are no tokens are told. -/
namespace Sightline

namespace Delimiter

/-- The tokens of some delimiters back to back. -/
def written (ds : List Delimiter) : Text := ds.flatMap token

theorem written_cons (d : Delimiter) (ds : List Delimiter) :
    written (d :: ds) = d.token ++ written ds := List.flatMap_cons

theorem read?_token_append (d : Delimiter) (rest : Text) :
    read? (d.token ++ rest) = some (d, rest) := by
  cases d <;> rfl

/-- No token is the start of another. -/
theorem token_append_inj {d e : Delimiter} {s t : Text} (h : d.token ++ s = e.token ++ t) :
    d = e ∧ s = t := by
  have hRead := (read?_token_append d s).symm.trans (h ▸ read?_token_append e t)
  simpa using hRead

theorem blank_not_mem_written (ds : List Delimiter) : ' ' ∉ written ds := by
  rw [written, List.mem_flatMap]
  rintro ⟨d, -, hBlank⟩
  cases d <;> simp [token] at hBlank

theorem not_prefix_of_read?_eq_none {s : Text} (h : read? s = none) (d : Delimiter) :
    ¬d.token <+: s := by
  rintro ⟨rest, rfl⟩
  rw [read?_token_append] at h
  cases h

/-- A list of tokens in front of one that cannot go on is the start of it. -/
theorem prefix_of_written_prefix {ds ds' : List Delimiter} {rest : Text} (hRest : read? rest = none)
    (h : written ds' <+: written ds ++ rest) : ds' <+: ds := by
  induction ds' generalizing ds with
  | nil => exact List.nil_prefix
  | cons d' ds' ih =>
      obtain ⟨behind, hBehind⟩ := h
      rw [written_cons, List.append_assoc] at hBehind
      cases ds with
      | nil => exact absurd ⟨_, hBehind⟩ (not_prefix_of_read?_eq_none hRest d')
      | cons d ds =>
          rw [written_cons, List.append_assoc] at hBehind
          obtain ⟨rfl, hNext⟩ := token_append_inj hBehind
          exact (List.prefix_cons_inj d').mpr (ih ⟨behind, hNext⟩)

/-- A text is the tokens of one list at most. -/
theorem written_injective : Function.Injective written := by
  intro ds ds' h
  have hNone : read? [] = none := rfl
  have hLeft : ds <+: ds' := prefix_of_written_prefix hNone (h ▸ List.prefix_append _ _)
  have hRight : ds' <+: ds := prefix_of_written_prefix hNone (h ▸ List.prefix_append _ _)
  exact hLeft.eq_of_length_le hRight.length_le

/-- Every text is some tokens and a rest that has none in front. -/
theorem exists_written_append (s : Text) :
    ∃ ds rest, s = written ds ++ rest ∧ read? rest = none := by
  induction hLength : s.length using Nat.strong_induction_on generalizing s with
  | _ n ih =>
      cases hRead : read? s with
      | none => exact ⟨[], s, rfl, hRead⟩
      | some found =>
          obtain ⟨d, after⟩ := found
          obtain ⟨ds, rest, rfl, hRest⟩ :=
            ih after.length (hLength ▸ length_lt_of_read? hRead) after rfl
          refine ⟨d :: ds, rest, ?_, hRest⟩
          rw [eq_token_append_of_read? hRead, written_cons, List.append_assoc]

/-- The tokens in front of a rest without one are the longest part that is tokens. -/
theorem isGreatest_length_written {ds : List Delimiter} {rest : Text} (hRest : read? rest = none) :
    IsGreatest {n | ∃ ds', written ds' <+: written ds ++ rest ∧ (written ds').length = n}
      (written ds).length := by
  refine ⟨⟨ds, List.prefix_append _ _, rfl⟩, ?_⟩
  rintro n ⟨ds', hPrefix, rfl⟩
  obtain ⟨more, rfl⟩ := prefix_of_written_prefix hRest hPrefix
  rw [written, written, List.flatMap_append, List.length_append]
  exact Nat.le_add_right _ _

end Delimiter

namespace DelimiterSet
open Delimiter

theorem readTokens_of_read? {s after : Text} {d : Delimiter} (h : read? s = some (d, after))
    (offset : Nat) :
    readTokens s offset = (readTokens after (offset + d.token.length)).map (d :: ·) := by
  cases s with
  | nil => cases h
  | cons c s =>
      rw [readTokens]
      split
      next hNone => cases h.symm.trans hNone
      next d' after' hSome =>
        cases h.symm.trans hSome
        rfl

theorem readTokens_of_read?_eq_none {s : Text} (h : read? s = none) (offset : Nat) :
    readTokens s offset = if s = [] then .ok [] else .error offset := by
  cases s with
  | nil => simp [readTokens]
  | cons c s =>
      rw [readTokens]
      split
      next => simp
      next d after hSome => cases h.symm.trans hSome

/-- Reading takes all tokens, and fails behind them if there is anything left. -/
theorem readTokens_written_append (ds : List Delimiter) {rest : Text} (hRest : read? rest = none)
    (offset : Nat) : readTokens (written ds ++ rest) offset =
      if rest = [] then .ok ds else .error (offset + (written ds).length) := by
  induction ds generalizing offset with
  | nil => exact readTokens_of_read?_eq_none hRest offset
  | cons d ds ih =>
      rw [written_cons, List.append_assoc,
        readTokens_of_read? (read?_token_append d (written ds ++ rest)), ih]
      split
      · rfl
      · rw [List.length_append, Nat.add_assoc]
        rfl

end DelimiterSet

namespace CodePoint

/-- What stands for a code point while tokens are read: the character it is, or a blank. -/
def standIn (p : CodePoint) : Char := p.character?.getD ' '

/-- Texts without blanks are found among code points where they are found among what stands for
these. -/
theorem ofText_prefix_iff {t : Text} (ht : ' ' ∉ t) (s : List CodePoint) :
    ofText t <+: s ↔ t <+: s.map standIn := by
  induction t generalizing s with
  | nil => simp [ofText]
  | cons c t ih =>
      obtain ⟨hc, ht⟩ := not_or.mp (mt List.mem_cons.mpr ht)
      cases s with
      | nil => simp [ofText]
      | cons p s =>
          have hHead : character c = p ↔ c = p.standIn := by
            cases p with
            | character d => simp [standIn, character?]
            | surrogate code => simpa [standIn, character?] using Ne.symm hc
          rw [ofText, List.map_cons, List.map_cons, List.cons_prefix_cons, List.cons_prefix_cons,
            hHead, ← ih ht, ofText]

theorem eq_ofText_iff {t : Text} (ht : ' ' ∉ t) (s : List CodePoint) :
    s = ofText t ↔ s.map standIn = t := by
  constructor
  · rintro rfl
    have hPrefix : t <+: (ofText t).map standIn := (ofText_prefix_iff ht _).mp List.prefix_rfl
    exact (hPrefix.eq_of_length (by simp [ofText])).symm
  · intro h
    have hPrefix : ofText t <+: s := (ofText_prefix_iff ht s).mpr (h ▸ List.prefix_rfl)
    exact (hPrefix.eq_of_length (by simp [ofText, ← h])).symm

theorem characters_eq_map {s : List CodePoint} (h : s.all (fun p => p.character?.isSome) = true) :
    characters s = s.map standIn := by
  induction s with
  | nil => rfl
  | cons p s ih =>
      rw [List.all_cons, Bool.and_eq_true] at h
      obtain ⟨c, hc⟩ := Option.isSome_iff_exists.mp h.1
      have hRest := ih h.2
      simp only [characters] at hRest
      simp [characters, standIn, hc, hRest]

end CodePoint

namespace DelimiterSet
open Delimiter

theorem ofValue_text (s : Text) : ofValue (.text (String.ofList s)) = ofText s :=
  congrArg ofText String.toList_ofList

/-- Texts are read by what stands for their code points, surrogates among them or not. -/
theorem ofValue_ofPoints (s : List CodePoint) : ofValue (.ofPoints s) =
    match readTokens (s.map CodePoint.standIn) 0 with
    | .ok ds => ofTokens ds
    | .error offset => .error (.strangeOffset offset (.ofPoints s)) := by
  by_cases hAll : s.all (fun p => p.character?.isSome) = true
  · have hText : Value.ofPoints s = .text (String.ofList (s.map CodePoint.standIn)) := by
      rw [Value.ofPoints, if_pos hAll, CodePoint.characters_eq_map hAll]
    rw [hText]
    exact ofValue_text _
  · have hPoints : Value.ofPoints s = .points s := if_neg hAll
    rw [hPoints]
    rfl

/-- A text is some tokens and a rest, and it is refused for the rest if there is any. -/
theorem ofValue_ofPoints_cases (s : List CodePoint) : ∃ ds rest,
    s.map CodePoint.standIn = written ds ++ rest ∧ read? rest = none ∧
      ofValue (.ofPoints s) = if rest = [] then ofTokens ds
        else .error (.strangeOffset (written ds).length (.ofPoints s)) := by
  obtain ⟨ds, rest, hParts, hRest⟩ := exists_written_append (s.map CodePoint.standIn)
  refine ⟨ds, rest, hParts, hRest, ?_⟩
  rw [ofValue_ofPoints, hParts, readTokens_written_append ds hRest 0, Nat.zero_add]
  by_cases hEnd : rest = [] <;> simp only [hEnd, if_true, if_false]

/-- The tokens of some delimiters are read as these. -/
theorem ofValue_written (ds : List Delimiter) :
    ofValue (.ofPoints (CodePoint.ofText (written ds))) = ofTokens ds := by
  have hParts : (CodePoint.ofText (written ds)).map CodePoint.standIn = written ds ++ [] := by
    rw [List.append_nil]
    exact (CodePoint.eq_ofText_iff (blank_not_mem_written ds) _).mp rfl
  rw [ofValue_ofPoints, hParts, readTokens_written_append ds rfl, if_pos rfl]

theorem ofTokens_eq_ok_iff {ds : List Delimiter} {set : DelimiterSet} :
    ofTokens ds = .ok set ↔ ds ≠ [] ∧ set = ofList ds := by
  cases ds with
  | nil => simp [ofTokens]
  | cons d ds => simp [ofTokens, eq_comm]

/-- A text gives a set exactly if it is the tokens of some delimiters, and then the set of these. -/
theorem ofValue_ofPoints_eq_ok_iff (s : List CodePoint) (set : DelimiterSet) :
    ofValue (.ofPoints s) = .ok set ↔
      ∃ ds, ds ≠ [] ∧ s = CodePoint.ofText (written ds) ∧ set = ofList ds := by
  constructor
  · intro h
    obtain ⟨ds, rest, hParts, -, hValue⟩ := ofValue_ofPoints_cases s
    rw [h] at hValue
    split at hValue
    next hEnd =>
      obtain ⟨hSome, hSet⟩ := ofTokens_eq_ok_iff.mp hValue.symm
      rw [hEnd, List.append_nil] at hParts
      exact ⟨ds, hSome, (CodePoint.eq_ofText_iff (blank_not_mem_written ds) s).mpr hParts, hSet⟩
    next => cases hValue
  · rintro ⟨ds, hSome, rfl, rfl⟩
    rw [ofValue_written]
    exact ofTokens_eq_ok_iff.mpr ⟨hSome, rfl⟩

/-- A text that gives no set is empty, or it is refused at the end of its longest part that is
tokens. -/
theorem ofValue_ofPoints_refused {s : List CodePoint}
    (h : ∀ set, ofValue (.ofPoints s) ≠ .ok set) :
    (s = [] ∧ ofValue (.ofPoints s) = .error .empty) ∨
      (s ≠ [] ∧ ∃ offset, ofValue (.ofPoints s) = .error (.strangeOffset offset (.ofPoints s)) ∧
        IsGreatest {n | ∃ ds, CodePoint.ofText (written ds) <+: s ∧ (written ds).length = n}
          offset) := by
  obtain ⟨ds, rest, hParts, hRest, hValue⟩ := ofValue_ofPoints_cases s
  by_cases hEnd : rest = []
  · rw [if_pos hEnd] at hValue
    cases ds with
    | nil =>
        rw [hEnd, written, List.flatMap_nil, List.append_nil, List.map_eq_nil_iff] at hParts
        exact .inl ⟨hParts, hValue⟩
    | cons d ds => exact absurd hValue (h (ofList (d :: ds)))
  · rw [if_neg hEnd] at hValue
    refine .inr ⟨?_, _, hValue, ?_⟩
    · rintro rfl
      exact hEnd (List.append_eq_nil_iff.mp hParts.symm).2
    · simp only [CodePoint.ofText_prefix_iff (blank_not_mem_written _), hParts]
      exact isGreatest_length_written hRest

end DelimiterSet

/-- A delimiter as an item of a list. -/
def Delimiter.item (d : Delimiter) : Value := .text (String.ofList d.token)

/-- An item of a list is the token of a delimiter. -/
def Value.IsToken (v : Value) : Prop := ∃ d : Delimiter, v = d.item

namespace DelimiterSet
open Delimiter

theorem ofItem?_eq_some_iff {v : Value} {d : Delimiter} : ofItem? v = some d ↔ v = d.item := by
  constructor
  · intro h
    cases v with
    | text s =>
        have hToken : d.token = s.toList := by simpa using List.find?_some h
        rw [item, hToken, String.ofList_toList]
    | _ => cases h
  · rintro rfl
    rw [item, ofItem?, String.toList_ofList]
    cases d <;> rfl

theorem ofItem?_isSome_iff {v : Value} : (ofItem? v).isSome = true ↔ v.IsToken := by
  simp only [Option.isSome_iff_exists, ofItem?_eq_some_iff, Value.IsToken]

instance (v : Value) : Decidable v.IsToken := decidable_of_iff _ ofItem?_isSome_iff

/-- The items of a list that are no tokens, in their order. -/
def strange (items : List Value) : List Value := items.filter fun v => ¬v.IsToken

theorem strange_eq (items : List Value) :
    strange items = items.filter fun v => (ofItem? v).isNone := by
  apply List.filter_congr
  intro v _
  rw [Bool.eq_iff_iff, decide_eq_true_iff, ← ofItem?_isSome_iff]
  simp

theorem strange_eq_nil_iff {items : List Value} :
    strange items = [] ↔ ∃ ds : List Delimiter, items = ds.map item := by
  simp only [strange, List.filter_eq_nil_iff, decide_eq_true_eq, not_not]
  constructor
  · intro h
    induction items with
    | nil => exact ⟨[], rfl⟩
    | cons v items ih =>
        obtain ⟨⟨d, rfl⟩, hRest⟩ := List.forall_mem_cons.mp h
        obtain ⟨ds, rfl⟩ := ih hRest
        exact ⟨d :: ds, rfl⟩
  · rintro ⟨ds, rfl⟩
    simp [Value.IsToken]

theorem filterMap_ofItem? (ds : List Delimiter) : (ds.map item).filterMap ofItem? = ds := by
  have hItem : ofItem? ∘ item = some := by
    funext d
    exact ofItem?_eq_some_iff.mpr rfl
  rw [List.filterMap_map, hItem, List.filterMap_some]

theorem ofItems_of_tokens (ds : List Delimiter) : ofItems (ds.map item) = ofTokens ds := by
  have hNone : (ds.map item).filter (fun v => (ofItem? v).isNone) = [] := by
    rw [← strange_eq, strange_eq_nil_iff]
    exact ⟨ds, rfl⟩
  simp only [ofItems, hNone, filterMap_ofItem?]

theorem ofItems_of_strange {items : List Value} (h : strange items ≠ []) :
    ofItems items = .error (if (Value.list (strange items)).isWritable
      then .strangeItems (strange items) else .unwritable) := by
  rw [strange_eq] at h ⊢
  obtain ⟨v, rest, hStrange⟩ := List.exists_cons_of_ne_nil h
  simp only [ofItems, hStrange]

/-- A list gives a set exactly if its items are the tokens of some delimiters, in any order and any
number of times. -/
theorem ofItems_eq_ok_iff (items : List Value) (set : DelimiterSet) : ofItems items = .ok set ↔
    ∃ ds : List Delimiter, ds ≠ [] ∧ items = ds.map item ∧ set = ofList ds := by
  constructor
  · intro h
    by_cases hStrange : strange items = []
    · obtain ⟨ds, rfl⟩ := strange_eq_nil_iff.mp hStrange
      rw [ofItems_of_tokens, ofTokens_eq_ok_iff] at h
      exact ⟨ds, h.1, rfl, h.2⟩
    · rw [ofItems_of_strange hStrange] at h
      cases h
  · rintro ⟨ds, hSome, rfl, rfl⟩
    rw [ofItems_of_tokens]
    exact ofTokens_eq_ok_iff.mpr ⟨hSome, rfl⟩

theorem isWritable_ofPoints (s : List CodePoint) : (Value.ofPoints s).isWritable = true := by
  unfold Value.ofPoints
  split <;> rfl

/-- A list of texts has a written form, those with surrogates in them too. -/
theorem isWritable_of_texts {items : List Value} (h : ∀ v ∈ items, ∃ s, v = .ofPoints s) :
    (Value.list items).isWritable = true := by
  rw [Value.isWritable]
  induction items with
  | nil => rfl
  | cons v items ih =>
      obtain ⟨⟨s, rfl⟩, hRest⟩ := List.forall_mem_cons.mp h
      rw [Value.areWritable, isWritable_ofPoints, ih hRest]
      rfl

/-- A list that gives no set is empty, or it is refused for its items that are no tokens. -/
theorem ofItems_refused {items : List Value} (h : ∀ set, ofItems items ≠ .ok set) :
    (items = [] ∧ ofItems items = .error .empty) ∨
      (strange items ≠ [] ∧ ofItems items = .error (if (Value.list (strange items)).isWritable
        then .strangeItems (strange items) else .unwritable)) := by
  by_cases hStrange : strange items = []
  · obtain ⟨ds, rfl⟩ := strange_eq_nil_iff.mp hStrange
    cases ds with
    | nil => exact .inl ⟨rfl, rfl⟩
    | cons d ds => exact absurd (ofItems_of_tokens (d :: ds)) (h _)
  · exact .inr ⟨hStrange, ofItems_of_strange hStrange⟩

/-- A text stands for a set if it is tokens back to back, of one list of delimiters only, and for
the set of these; a list if its items are tokens. A text is refused at the end of its longest part
that is tokens. A list is refused for the items that are none, which are told in their order if
there are numerals for the numbers among them, as in a list of texts. -/
theorem delimiters_read_exactly (s : List CodePoint) (items : List Value) (set : DelimiterSet) :
    (ofValue (.ofPoints s) = .ok set ↔
      ∃ ds, ds ≠ [] ∧ s = CodePoint.ofText (written ds) ∧ set = ofList ds) ∧
    Function.Injective written ∧
    (∀ ds : List Delimiter, ofValue (.ofPoints (CodePoint.ofText (written ds))) =
      ofValue (.list (ds.map item)) ∧ ∀ d, (ofList ds).has d = true ↔ d ∈ ds) ∧
    ((∀ set, ofValue (.ofPoints s) ≠ .ok set) →
      (s = [] ∧ ofValue (.ofPoints s) = .error .empty) ∨
      (s ≠ [] ∧ ∃ offset, ofValue (.ofPoints s) = .error (.strangeOffset offset (.ofPoints s)) ∧
        IsGreatest {n | ∃ ds, CodePoint.ofText (written ds) <+: s ∧ (written ds).length = n}
          offset)) ∧
    (ofValue (.list items) = .ok set ↔
      ∃ ds : List Delimiter, ds ≠ [] ∧ items = ds.map item ∧ set = ofList ds) ∧
    ((∀ set, ofValue (.list items) ≠ .ok set) →
      (items = [] ∧ ofValue (.list items) = .error .empty) ∨
      (strange items ≠ [] ∧ ofValue (.list items) =
        .error (if (Value.list (strange items)).isWritable then .strangeItems (strange items)
          else .unwritable))) ∧
    ((∀ v ∈ items, ∃ s, v = .ofPoints s) → (Value.list (strange items)).isWritable = true) := by
  refine ⟨ofValue_ofPoints_eq_ok_iff s set, written_injective, ?_, ofValue_ofPoints_refused,
    ofItems_eq_ok_iff items set, ofItems_refused, ?_⟩
  · intro ds
    refine ⟨(ofValue_written ds).trans (ofItems_of_tokens ds).symm, ?_⟩
    intro d
    rw [has_ofList, List.contains_iff_mem]
  · intro hTexts
    apply isWritable_of_texts
    intro v hv
    exact hTexts v (List.mem_filter.mp hv).1

/-- Behind the tokens of a text with half a token in the middle nothing is read. -/
theorem half_token_refused :
    ofValue (.ofPoints (CodePoint.ofText ['/', '/', '"', '/', '"'])) =
      .error (.strangeOffset 3 (.ofPoints (CodePoint.ofText ['/', '/', '"', '/', '"']))) ∧
    IsGreatest {n | ∃ ds, CodePoint.ofText (written ds) <+:
      CodePoint.ofText ['/', '/', '"', '/', '"'] ∧ (written ds).length = n} 3 := by
  have hRead := readTokens_written_append [.lineComment, .doubleQuote]
    (show read? ['/', '"'] = none from rfl) 0
  have hRefused : ofValue (.ofPoints (CodePoint.ofText ['/', '/', '"', '/', '"'])) =
      .error (.strangeOffset 3 (.ofPoints (CodePoint.ofText ['/', '/', '"', '/', '"']))) := by
    rw [ofValue_ofPoints]
    exact hRead ▸ rfl
  obtain ⟨-, -, -, hText, -⟩ :=
    delimiters_read_exactly (CodePoint.ofText ['/', '/', '"', '/', '"']) [] standard
  obtain ⟨hEmpty, -⟩ | ⟨-, offset, hOffset, hGreatest⟩ := hText fun set h => by
    rw [hRefused] at h
    cases h
  · cases hEmpty
  · rw [hRefused] at hOffset
    cases hOffset
    exact ⟨hRefused, hGreatest⟩

theorem not_isWritable_whole {n : Nat} (h : Nat.pow 10 Numeral.maxDigits ≤ n) :
    (Value.list [.whole n]).isWritable = false := by
  have hNumeral : Numeral.isWritable n = false := decide_eq_false (Nat.not_lt.mpr h)
  rw [Value.isWritable, Value.areWritable, Value.whole, Value.isWritable, hNumeral, Bool.false_and]

/-- A whole number that has no numeral is no token, and the list of it is refused without telling
it. -/
theorem numberless_item_untold : ¬∀ items, strange items ≠ [] →
    ofValue (.list items) = .error (.strangeItems (strange items)) := by
  intro h
  obtain ⟨n, hLong⟩ : ∃ n, Nat.pow 10 Numeral.maxDigits ≤ n :=
    ⟨Nat.pow 10 Numeral.maxDigits, Nat.le_refl _⟩
  have hStrange : strange [.whole n] = [.whole n] := rfl
  have hSome : strange [.whole n] ≠ [] := by
    rw [hStrange]
    exact List.cons_ne_nil _ _
  have hRefused := (ofItems_of_strange hSome).symm.trans (h _ hSome)
  rw [hStrange, not_isWritable_whole hLong] at hRefused
  cases hRefused

end DelimiterSet

end Sightline
