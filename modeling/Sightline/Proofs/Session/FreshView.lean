import Mathlib.Data.List.TakeWhile
import Sightline.Proofs.Line.Rescan
import Sightline.Proofs.Session.BracketInsertion

/-! Edits of plain text keep the view fresh: it is then what a masker with the same
delimiters makes of the lines after the edit, though no line is masked again. A place
that an edit finds through the view is code to the scanner, plain text makes no mark
with what stands around it, and so all lines behind the edit read as before. -/
namespace Sightline
open Mask

namespace Buffer

/-- The views are those that some delimiters give the texts. -/
def Fresh (ds : DelimiterSet) (b : Buffer) : Prop :=
  (Masker.ofDelimiters ds).mask b.texts = .ok b.views

/-- The index at which a line is put in below the cursor. -/
def below (b : Buffer) : Nat := (min (max (b.position + 1) 0) b.size).toNat

theorem below_le (b : Buffer) : b.below ≤ b.lines.length := by
  simp only [below, size]
  omega

variable {ds : DelimiterSet}

theorem fresh_iff (b : Buffer) : b.Fresh ds ↔ walkLines ds false b.texts = b.views := by
  rw [← scanLines_eq_walkLines]
  exact ⟨Except.ok.inj, congrArg Except.ok⟩

/-- Lines are fresh when those in front of one, that line, and those behind it are, each
read from where the ones before it leave the scanner. -/
theorem fresh_cut (before : List Line) (l : Line) (after : List Line) (position : Int) :
    Fresh ds ⟨before ++ l :: after, position⟩ ↔
      walkLines ds false (before.map Line.text) = before.map Line.view ∧
      ∃ inBlock, l.ReadsAs ds (.atStart (openAfter ds false (before.map Line.text))) inBlock ∧
        walkLines ds inBlock (after.map Line.text) = after.map Line.view := by
  simp only [fresh_iff, texts, views, List.map_append, List.map_cons, walkLines_append, walkLines]
  constructor
  · intro h
    obtain ⟨hBefore, hRest⟩ := List.append_inj h (by simp)
    obtain ⟨hLine, hAfter⟩ := List.cons.inj hRest
    exact ⟨hBefore, _, Prod.ext hLine rfl, hAfter⟩
  · rintro ⟨hBefore, inBlock, hLine, hAfter⟩
    rw [hBefore, hLine, hAfter]

/-- A line may be changed as long as it is read as before. -/
theorem Fresh.set {b : Buffer} (h : b.Fresh ds) {index : Nat} {target l : Line}
    (hTarget : b.lines[index]? = some target)
    (hReads : ∀ place inBlock, place.Sound → place.Whole →
      target.ReadsAs ds place inBlock → l.ReadsAs ds place inBlock) (position : Int) :
    Fresh ds ⟨b.lines.set index l, position⟩ := by
  obtain ⟨hIndex, rfl⟩ := List.getElem?_eq_some_iff.mp hTarget
  obtain ⟨before, after, hLines, -, hSet⟩ : ∃ before after,
      b.lines = before ++ b.lines[index] :: after ∧ before.length = index ∧
        b.lines.set index l = before ++ l :: after := List.exists_of_set hIndex
  rw [hSet]
  have hCut : Fresh ds ⟨before ++ b.lines[index] :: after, b.position⟩ := hLines ▸ h
  obtain ⟨hBefore, inBlock, hLine, hAfter⟩ := (fresh_cut _ _ _ _).mp hCut
  obtain ⟨hSound, hWhole⟩ := Place.sound_atStart (openAfter ds false (before.map Line.text))
  exact (fresh_cut _ _ _ _).mpr ⟨hBefore, inBlock, hReads _ _ hSound hWhole hLine, hAfter⟩

/-- A plain line may be put in where no block comment is open. -/
theorem Fresh.insertIdx {b : Buffer} (h : b.Fresh ds) {index : Nat} {s : Text}
    (hClosed : openAfter ds false (b.texts.take index) = false) (hs : Plain s)
    (hIndex : index ≤ b.lines.length) (position : Int) :
    Fresh ds ⟨b.lines.insertIdx index (.plain s), position⟩ := by
  obtain ⟨before, after, hLines, rfl, hInsert⟩ :
      ∃ before after, b.lines = before ++ after ∧ before.length = index ∧
        b.lines.insertIdx index (.plain s) = before ++ .plain s :: after :=
    List.exists_of_modifyTailIdx (List.cons (Line.plain s)) hIndex
  have hFresh := (fresh_iff b).mp h
  simp only [texts, views, hLines, List.map_append, walkLines_append] at hClosed hFresh
  rw [List.take_left' (by simp)] at hClosed
  obtain ⟨hBefore, hAfter⟩ := List.append_inj hFresh (by simp)
  rw [hClosed] at hAfter
  rw [hInsert, fresh_cut, hClosed]
  refine ⟨hBefore, false, ?_, hAfter⟩
  have hLine : walk ds .code (s ++ []) = _ := walk_plain_append hs []
  simpa [Line.ReadsAs, Line.plain, Place.atStart, walk, Place.isOpen] using hLine

theorem plain_indentation (s : Text) : Plain (Text.indentation s) := by
  intro c hc hMark
  have hBlank : Text.isBlank c = true := List.mem_takeWhile_imp hc
  have hNone : (marks.all fun m => !Text.isBlank m) = true := by decide
  have hVisible := List.all_eq_true.mp hNone c hMark
  simp [hBlank] at hVisible

theorem plain_copiedIndent (following : Bool) (back : Int) (b : Buffer) :
    Plain (b.copiedIndent following back) := by
  intro c hc
  obtain ⟨l, -, hIndent⟩ := mem_copiedIndent hc
  exact plain_indentation l.text c hIndent

theorem Fresh.insertLine {b : Buffer} (h : b.Fresh ds) {s : Text} (hs : Plain s)
    (hClosed : openAfter ds false (b.texts.take b.below) = false) (following : Bool)
    (back : Int) : (b.insertLine s following back).buffer.Fresh ds := by
  refine h.insertIdx hClosed ?_ ?_ _
  · exact List.forall_mem_append.mpr ⟨plain_copiedIndent following back b, hs⟩
  · exact b.below_le

theorem Fresh.insertNewLine {b : Buffer} (h : b.Fresh ds) {s : Text} (hs : Plain s)
    (hClosed : openAfter ds false (b.texts.take b.below) = false) (following : Bool)
    (back : Int) : (b.insertNewLine s following back).buffer.Fresh ds := by
  rw [Buffer.insertNewLine]
  split_ifs
  · exact h
  · exact h.insertLine hs hClosed following back

theorem Fresh.replaceText {b : Buffer} (h : b.Fresh ds) {old new : Text} (hOld : Plain old)
    (hFull : ∃ c ∈ old, c ≠ filler) (hNew : Plain new) (hSome : new ≠ []) :
    (b.replaceText old new).buffer.Fresh ds := by
  simp only [Buffer.replaceText]
  split
  · exact h
  next line hLine =>
    split_ifs
    · exact h
    · exact h
    · refine h.set ((current?_eq_some_iff b line).mp hLine).2 ?_ _
      intro place inBlock hSound hWhole hReads
      exact Line.ReadsAs.rewrite hOld hFull hNew hSome (Line.rewrites_replace line old new)
        hSound hWhole hReads

end Buffer

namespace Session
variable {ds : DelimiterSet}

/-- A bracket in sight parts its line: what is in front of it hides nothing. -/
theorem line_eq_of_closesInSight {b : Buffer} {located w rest : Text} {opening closing : Char}
    {index column : Nat} {target : Line}
    (h : b.ClosesInSight located opening closing w rest index column target) :
    (target.take column).Aligned ∧
      target.take (column + 1) = target.take column ++ .plain [closing] := by
  obtain ⟨hText, hView⟩ := h.closing_at
  constructor
  · have hSame := congrArg (List.take column) h.clear
    rw [List.take_take, List.take_take, Nat.min_eq_left (Nat.le_succ column)] at hSame
    exact congrArg List.length hSame.symm
  · simp only [Line.take, List.take_add_one, hText, hView]
    rfl

theorem fresh_putBehind {s : Session} (h : s.buffer.Fresh ds) {located w rest t : Text}
    {opening closing : Char} {index column : Nat} {target : Line}
    (sight : s.buffer.ClosesInSight located opening closing w rest index column target)
    (hMark : closing ∉ marks) (hFiller : closing ≠ filler) (ht : Plain t) :
    (s.putBehind index column target t).buffer.Fresh ds := by
  obtain ⟨hAligned, hCut⟩ := line_eq_of_closesInSight sight
  refine h.set sight.line ?_ _
  intro place inBlock _ _ hReads
  rw [← Line.take_append_drop (column + 1) target, hCut, Line.append_assoc] at hReads
  rw [hCut, Line.append_assoc, Line.append_assoc]
  exact hReads.insert hAligned hMark hFiller ht

/-- Fresh views stay fresh when a plain line is put in where no block comment is open,
when plain text is put in behind a closing bracket, and when plain text that is not
just fillers is replaced by plain text. -/
theorem plain_edits_keep_view_fresh (ds : DelimiterSet) (codecs : Registry) (store : Store)
    (s : Session) (hFresh : s.buffer.Fresh ds) :
    (∀ t following back, Plain t →
      openAfter ds false (s.buffer.texts.take s.buffer.below) = false →
        (s.perform codecs store (.insertLine t following back)).session.buffer.Fresh ds ∧
        (s.perform codecs store (.insertNewLine t following back)).session.buffer.Fresh ds) ∧
    (∀ located t opening closing, opening ≠ closing → closing ∉ marks → closing ≠ filler →
      Plain t →
        (s.perform codecs store
          (.insertBehindBracket located t [opening] [closing])).session.buffer.Fresh ds) ∧
    ∀ old new, Plain old → (∃ c ∈ old, c ≠ filler) → Plain new → new ≠ [] →
      (s.perform codecs store (.replaceText old new)).session.buffer.Fresh ds := by
  refine ⟨fun t following back ht hClosed => ?_, fun located t opening closing hDistinct hMark
    hFiller ht => ?_, fun old new hOld hFull hNew hSome => ?_⟩
  · exact ⟨hFresh.insertLine ht hClosed following back,
      hFresh.insertNewLine ht hClosed following back⟩
  · by_cases hEnds : [opening] <:+ located
    · rcases perform_insertBehindBracket_cases codecs store s t hEnds hDistinct with
        ⟨w, rest, index, column, target, events, sight, hOutcome⟩ | ⟨-, events, hOutcome⟩
      · rw [hOutcome]
        exact fresh_putBehind hFresh sight hMark hFiller ht
      · rw [hOutcome]
        exact hFresh
    · have hNot : List.isSuffixOf [opening] located = false := by
        rw [← Bool.not_eq_true, List.isSuffixOf_iff_suffix]
        exact hEnds
      simp only [perform, Buffer.insertBehindBracket, hNot, Bool.not_false, if_true]
      exact hFresh
  · exact hFresh.replaceText hOld hFull hNew hSome

/-- A session behind a block comment that goes over two lines. -/
def behindBlock : Session :=
  ⟨⟨[⟨"a(b); /* c".toList, "a(b);     ".toList⟩, ⟨"d */ e = \"f\";".toList,
      "     e = \" \";".toList⟩, ⟨"g(h) // g".toList, "g(h)     ".toList⟩], 2⟩,
    none, .null, .ofDelimiters .standard, []⟩

/-- A line below the comment, a call behind a call and a new name leave its view fresh. -/
theorem behindBlock_edits_keep_view_fresh :
    let following := behindBlock.perform .common (.empty "/") (.insertLine "i = j;".toList false 0)
    let called := behindBlock.perform .common (.empty "/")
      (.insertBehindBracket ['g', '('] ".k".toList ['('] [')'])
    let renamed := behindBlock.perform .common (.empty "/") (.replaceText "g(h".toList "m(n".toList)
    behindBlock.buffer.Fresh .standard ∧
      (following.session.buffer.Fresh .standard ∧
        following.session.buffer.views.getLast? = some "i = j;".toList) ∧
      (called.session.buffer.Fresh .standard ∧
        called.session.buffer.texts.getLast? = some "g(h).k // g".toList) ∧
      (renamed.session.buffer.Fresh .standard ∧
        renamed.session.buffer.texts.getLast? = some "m(n) // g".toList) := by
  have hFresh : behindBlock.buffer.Fresh .standard := (Buffer.fresh_iff _).mpr rfl
  obtain ⟨hInsert, hBracket, hReplace⟩ :=
    plain_edits_keep_view_fresh .standard .common (.empty "/") behindBlock hFresh
  refine ⟨hFresh, ⟨?_, ?_⟩, ⟨?_, ?_⟩, ?_, ?_⟩
  · exact (hInsert _ false 0 (by decide) rfl).1
  · decide +kernel
  · exact hBracket _ _ _ _ (by decide) (by decide) (by decide) (by decide)
  · decide +kernel
  · exact hReplace _ _ (by decide) ⟨'g', by decide, by decide⟩ (by decide) (by decide)
  · decide +kernel

end Session

end Sightline
