import Sightline.Proofs.Line.Occurrences
import Sightline.Proofs.Mask.Stretch

/-! Lines whose view is what the scanner writes for their text. Plain text that is put
into such a line behind a character that shows, or in place of plain text that
shows, is put into code; the scanner passes over it and writes for the rest of the
line what it wrote before. -/
namespace Sightline.Line
open Mask

/-- Read from a place, the text gives the view; `inBlock` tells whether a block comment
is open behind the line. -/
def ReadsAs (ds : DelimiterSet) (place : Place) (inBlock : Bool) (l : Line) : Prop :=
  walk ds place l.text = (l.view, inBlock)

variable {ds : DelimiterSet} {place : Place} {inBlock : Bool}

theorem readsAs_append {front : Line} (h : front.Aligned) (back : Line) :
    (front ++ back).ReadsAs ds place inBlock ↔
      veil (hides ds back.text.head? place front.text) front.text = front.view ∧
        back.ReadsAs ds (reach ds back.text.head? place front.text) inBlock := by
  have hLength : (veil (hides ds back.text.head? place front.text) front.text).length =
      front.view.length := by
    rw [length_veil_hides]
    exact h.symm
  rw [ReadsAs, text_append, view_append, walk_append, Prod.mk.injEq]
  constructor
  · rintro ⟨hView, hOpen⟩
    obtain ⟨hFront, hBack⟩ := List.append_inj hView hLength
    exact ⟨hFront, Prod.ext hBack hOpen⟩
  · rintro ⟨hFront, hBack⟩
    rw [hFront, hBack]
    exact ⟨rfl, rfl⟩

theorem readsAs_plain_append {s : Text} (hs : Plain s) (back : Line) :
    (plain s ++ back).ReadsAs ds .code inBlock ↔ back.ReadsAs ds .code inBlock := by
  obtain ⟨hHides, hReach⟩ := code_of_plain ds back.text.head? hs
  rw [readsAs_append (aligned_plain s)]
  simp only [plain, hHides, hReach, veil_replicate_false, true_and]

/-- The columns of a piece are hidden or not as it is read from where the columns in
front of it lead. -/
theorem hides_piece (front back : Line) (s : Text) {k : Nat} (hk : k < s.length) :
    (hides ds none place (front ++ (plain s ++ back)).text)[front.text.length + k]? =
      (hides ds back.text.head?
        (reach ds (plain s ++ back).text.head? place front.text) s)[k]? := by
  simp only [text_append, hides_append, Option.or_none, plain]
  rw [List.getElem?_append_right (by simp), List.getElem?_append_left (by simpa using hk)]
  simp

/-- A piece that shows has fillers in its hidden columns. -/
theorem filler_of_veil_eq {hidden : List Bool} {s : Text} (h : veil hidden s = s) {k : Nat}
    (hk : hidden[k]? = some true) (hLength : hidden.length = s.length) :
    s[k]? = some filler := by
  have hLt : k < s.length := hLength ▸ (List.getElem?_eq_some_iff.mp hk).1
  have hSame := congrArg (·[k]?) h
  simpa [veil, List.getElem?_zipWith, hk, hLt] using hSame.symm

/-- Behind a character that shows and is no mark there is code. -/
theorem readsAs_shown_append {c : Char} (hMark : c ∉ marks) (hFiller : c ≠ filler)
    (back : Line) : (plain [c] ++ back).ReadsAs ds place inBlock ↔
      (place.step ds c none).1 = false ∧ back.ReadsAs ds .code inBlock := by
  have hStep : place.step ds c back.text.head? = place.step ds c none :=
    Place.step_of_not_mem_marks ds place hMark _ _
  rw [readsAs_append (aligned_plain [c])]
  simp only [plain, hides_cons, reach, veil, hides, List.head?_nil, Option.none_or, hStep]
  cases hHidden : (place.step ds c none).1 with
  | false =>
      have hCode : (place.step ds c none).2 = .code := Place.step_of_shown hMark hHidden
      simp [hCode]
  | true => simp [hFiller.symm]

/-- Plain text may be put in behind a character that shows and is no mark. -/
theorem ReadsAs.insert {front back : Line} {c : Char} {s : Text} (hFront : front.Aligned)
    (hMark : c ∉ marks) (hFiller : c ≠ filler) (hs : Plain s)
    (h : (front ++ (plain [c] ++ back)).ReadsAs ds place inBlock) :
    (front ++ (plain [c] ++ (plain s ++ back))).ReadsAs ds place inBlock := by
  rw [readsAs_append hFront, readsAs_shown_append hMark hFiller] at h ⊢
  rw [readsAs_plain_append hs]
  exact h

/-- Plain text may be put in place of plain text that shows, and not as fillers only. -/
theorem ReadsAs.rewrite {old new : Text} {start : Nat} {offsets : List Nat} {l r : Line}
    (hOld : Plain old) (hFull : ∃ c ∈ old, c ≠ filler) (hNew : Plain new) (hSome : new ≠ [])
    (hRewrites : Rewrites old new start offsets l r) (hSound : place.Sound)
    (hWhole : place.Whole) (h : l.ReadsAs ds place inBlock) : r.ReadsAs ds place inBlock := by
  induction hRewrites generalizing place with
  | last => exact h
  | @piece start offsets gap l r hGap tail ih =>
      have hOldSome : old ≠ [] := by
        rintro rfl
        obtain ⟨c, hc, -⟩ := hFull
        cases hc
      rw [append_assoc, readsAs_append hGap, readsAs_append (aligned_plain old)] at h
      obtain ⟨hView, hShown, hTail⟩ := h
      have hCalm : Calm (plain old ++ l).text.head? := by
        simpa [plain, List.head?_append] using hOld.calm_head? hOldSome l.text.head?
      have hCalm' : Calm (plain new ++ r).text.head? := by
        simpa [plain, List.head?_append] using hNew.calm_head? hSome r.text.head?
      obtain ⟨hHides, hReach⟩ :=
        hides_congr ds place gap.text hCalm hCalm'
      -- The piece shows, so it stands in code, and so does the one that takes its place.
      have hCode : reach ds (plain old ++ l).text.head? place gap.text = .code :=
        eq_code_of_shown (sound_reach gap.text hSound) (whole_reach gap.text hCalm hWhole)
          hOld hFull hShown
      rw [hCode] at hTail
      simp only [plain] at hTail
      rw [(code_of_plain ds _ hOld).2] at hTail
      rw [append_assoc, readsAs_append hGap, ← hHides, ← hReach, hCode]
      exact ⟨hView, (readsAs_plain_append hNew r).mpr
        (ih trivial (by simp [Place.Whole]) hTail)⟩

end Sightline.Line
