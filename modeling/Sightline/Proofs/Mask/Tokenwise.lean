import Mathlib.Logic.Function.Basic
import Sightline.Proofs.Mask.Contract
import Sightline.Proofs.Text.Pieces

/-! The view made of tokens, offset by offset. Blanking writes fillers over one range after
the other, while an offset only asks whether there is a token that hides it. So neither the
order of the tokens nor their number has a part in the view. -/
namespace Sightline.Mask

namespace Token

/-- An offset lies in the text of a token. -/
def Covers (t : Token) (k : Nat) : Prop := t.start ≤ k ∧ (k : Int) < t.start + t.value.length

/-- The offset is that of a token's first character, and this is a quote. -/
def QuoteInFront (t : Token) (k : Nat) : Prop :=
  (k : Int) = t.start ∧ t.value.head?.any isQuoteMark = true

/-- The offset is that of a token's last character, and this is a quote with others before it. -/
def QuoteAtEnd (t : Token) (k : Nat) : Prop :=
  (k : Int) + 1 = t.start + t.value.length ∧ 1 < t.value.length ∧
    t.value.getLast?.any isQuoteMark = true

/-- A token hides an offset: as a comment that is no directive, or as a string literal unless the
quote at either end is there. -/
def Hides (t : Token) (k : Nat) : Prop :=
  t.Covers k ∧
    ((t.kind.under .comment = true ∧ t.kind.under .directive = false) ∨
      (t.kind.under .stringLiteral = true ∧ ¬t.QuoteInFront k ∧ ¬t.QuoteAtEnd k))

instance (t : Token) (k : Nat) : Decidable (t.Covers k) := inferInstanceAs (Decidable (_ ∧ _))

instance (t : Token) (k : Nat) : Decidable (t.QuoteInFront k) :=
  inferInstanceAs (Decidable (_ ∧ _))

instance (t : Token) (k : Nat) : Decidable (t.QuoteAtEnd k) := inferInstanceAs (Decidable (_ ∧ _))

instance (t : Token) (k : Nat) : Decidable (t.Hides k) := inferInstanceAs (Decidable (_ ∧ _))

end Token

/-- String literals are no comments. -/
theorem TokenKind.not_under_comment {kind : TokenKind} (h : kind.under .stringLiteral = true) :
    kind.under .comment = false ∧ kind.under .directive = false := by
  simp only [under, stringLiteral, comment, directive] at h ⊢
  cases kind with
  | nil => cases h
  | cons name path =>
      simp only [List.isPrefixOf, Bool.and_eq_true, beq_iff_eq] at h
      simp [List.isPrefixOf, ← h.1]

theorem isWithin_iff {start stop k : Int} :
    isWithin start stop k = true ↔ start ≤ k ∧ k < stop := by
  simp [isWithin]

/-- The range that a token blanks holds the offsets that it hides. -/
theorem Token.isWithin_hiddenRange (t : Token) (k : Nat) :
    isWithin t.hiddenRange.1 t.hiddenRange.2 k = true ↔ t.Hides k := by
  rw [isWithin_iff, hiddenRange, Hides, Covers, QuoteInFront, QuoteAtEnd]
  by_cases hString : t.kind.under .stringLiteral = true
  · obtain ⟨hComment, hDirective⟩ := TokenKind.not_under_comment hString
    simp only [hComment, hDirective, hString, if_true, Bool.false_eq_true, if_false]
    cases hFront : t.value.head?.any isQuoteMark <;>
      cases hEnd : t.value.getLast?.any isQuoteMark <;>
        by_cases hLong : 1 < t.value.length <;> simp [hLong] <;> omega
  · cases hDirective : t.kind.under .directive <;> cases hComment : t.kind.under .comment <;>
      simp [hString]

theorem Token.hiddenRange_nonneg {t : Token} (h : 0 ≤ t.start) : 0 ≤ t.hiddenRange.1 := by
  simp only [hiddenRange]
  split_ifs <;> simp only <;> omega

/-- A text with fillers at the offsets that are hidden. A line break stays. -/
def blankedAt (hidden : Nat → Prop) [DecidablePred hidden] (s : Text) : Text :=
  s.mapIdx fun k c => if c ≠ '\n' ∧ hidden k then filler else c

section Blanking
variable (hidden hidden' : Nat → Prop) [DecidablePred hidden] [DecidablePred hidden']

theorem getElem?_blankedAt (s : Text) (k : Nat) :
    (blankedAt hidden s)[k]? = s[k]?.map fun c => if c ≠ '\n' ∧ hidden k then filler else c :=
  List.getElem?_mapIdx

theorem blankedAt_cons (c : Char) (s : Text) : blankedAt hidden (c :: s) =
    (if c ≠ '\n' ∧ hidden 0 then filler else c) :: blankedAt (fun k => hidden (k + 1)) s :=
  List.mapIdx_cons

variable {hidden hidden'} in
theorem blankedAt_congr (h : ∀ k, hidden k ↔ hidden' k) (s : Text) :
    blankedAt hidden s = blankedAt hidden' s := by
  simp only [blankedAt, h]

variable {hidden} in
theorem blankedAt_eq_self (h : ∀ k, ¬hidden k) (s : Text) : blankedAt hidden s = s := by
  apply List.ext_getElem?
  intro k
  simp [getElem?_blankedAt, h]

/-- What is blanked a second time has fillers at the offsets of either. -/
theorem blankedAt_blankedAt (s : Text) :
    blankedAt hidden' (blankedAt hidden s) = blankedAt (fun k => hidden k ∨ hidden' k) s := by
  rw [blankedAt, blankedAt, List.mapIdx_mapIdx, blankedAt]
  congr 1
  funext k c
  have hFiller : filler ≠ '\n' := by decide
  by_cases hBreak : c = '\n'
  · simp [hBreak]
  · by_cases hHere : hidden k <;> simp [hBreak, hHere, hFiller]

/-- Blanking takes no line apart and puts none together. -/
theorem fits_splitOn_blankedAt (s : Text) :
    Fits (Text.splitOn '\n' s) (Text.splitOn '\n' (blankedAt hidden s)) := by
  induction s generalizing hidden with
  | nil => exact .cons rfl .nil
  | cons c s ih =>
      have hRest := ih fun k => hidden (k + 1)
      rw [blankedAt_cons]
      by_cases hBreak : c = '\n'
      · subst hBreak
        exact .cons rfl hRest
      · have hKept : (if c ≠ '\n' ∧ hidden 0 then filler else c) ≠ '\n' := by
          split
          · decide
          · exact hBreak
        obtain ⟨line, lines, hLines⟩ := List.exists_cons_of_ne_nil (Text.splitOn_ne_nil '\n' s)
        obtain ⟨view, views, hViews⟩ := List.exists_cons_of_ne_nil
          (Text.splitOn_ne_nil '\n' (blankedAt (fun k => hidden (k + 1)) s))
        rw [hLines, hViews] at hRest
        obtain ⟨hLine, hBelow⟩ := List.forall₂_cons.mp hRest
        rw [Text.splitOn, if_neg hBreak, hLines, Text.splitOn, if_neg hKept, hViews]
        exact .cons (congrArg (· + 1) hLine) hBelow

end Blanking

/-- A range that starts in the text is blanked as it stands: no offset of it counts from the end. -/
theorem blankRange_eq {start : Int} (hStart : 0 ≤ start) (stop : Int) (s : Text) :
    blankRange start stop s = .ok (blankedAt (fun k => isWithin start stop k = true) s) := by
  have hBefore : ¬start < -s.length := by omega
  rw [blankRange, blankedAt]
  simp only [hBefore, decide_false, Bool.false_and, Bool.false_eq_true, if_false, Except.ok.injEq]
  refine List.ext_getElem (by simp) fun k hk _ => ?_
  have hEnd : isWithin start stop ((k : Int) - s.length) = false := by
    rw [List.length_mapIdx] at hk
    rw [Bool.eq_false_iff, Ne, isWithin_iff]
    omega
  simp [hEnd, and_comm, filler]

/-- Tokens that start in the text leave fillers at the offsets that one of them hides. -/
theorem blankTokens_eq {tokens : List Token} (hStart : ∀ t ∈ tokens, 0 ≤ t.start) (s : Text) :
    blankTokens tokens s = .ok (blankedAt (fun k => ∃ t ∈ tokens, t.Hides k) s) := by
  induction tokens generalizing s with
  | nil => exact congrArg Except.ok (blankedAt_eq_self (by simp) s).symm
  | cons t tokens ih =>
      obtain ⟨hHere, hRest⟩ := List.forall_mem_cons.mp hStart
      have hFirst := blankRange_eq (Token.hiddenRange_nonneg hHere) t.hiddenRange.2 s
      have hTokens := ih hRest (blankedAt
        (fun k => isWithin t.hiddenRange.1 t.hiddenRange.2 k = true) s)
      rw [blankTokens, List.foldlM_cons, hFirst]
      refine hTokens.trans ?_
      rw [blankedAt_blankedAt]
      refine congrArg Except.ok (blankedAt_congr (fun k => ?_) s)
      rw [Token.isWithin_hiddenRange, List.exists_mem_cons_iff]

/-- The view of some lines is cut out of their text, with fillers where a token hides it. -/
theorem tokenwise_eq (lexer : Lexer) {lines : List Text} (hLines : lines ≠ [])
    (hStart : ∀ t ∈ lexer.tokens (Text.join ['\n'] lines ++ ['\n']), 0 ≤ t.start) :
    tokenwise lexer lines = .ok (Text.splitOn '\n' (blankedAt
      (fun k => ∃ t ∈ lexer.tokens (Text.join ['\n'] lines ++ ['\n']), t.Hides k)
      (Text.join ['\n'] lines))) := by
  have hInput : lexerInput? lines = some (Text.join ['\n'] lines ++ ['\n']) := by
    rw [lexerInput?, if_neg (by simpa using hLines)]
  rw [tokenwise, hInput]
  dsimp only
  rw [blankTokens_eq hStart]
  rfl

end Sightline.Mask
