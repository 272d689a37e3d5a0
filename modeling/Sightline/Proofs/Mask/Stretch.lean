import Sightline.Proofs.Mask.Scanner

/-! Stretches of a line. What the scanner makes of a stretch depends on the place in
front of it and on the one character behind it, so a line may be cut anywhere and
read piece by piece. Plain text has no marks in it: in code the scanner shows all of
it and stays there, and everywhere else it shows none of it and stays there too. -/
namespace Sightline.Mask

/-- Which columns of a stretch are hidden, when `next` is the character behind it. -/
def hides (ds : DelimiterSet) (next : Option Char) : Place → Text → List Bool
  | _, [] => []
  | place, c :: rest =>
    let (hidden, after) := place.step ds c (rest.head?.or next)
    hidden :: hides ds next after rest

/-- Where the scanner stands behind a stretch. -/
def reach (ds : DelimiterSet) (next : Option Char) : Place → Text → Place
  | place, [] => place
  | place, c :: rest => reach ds next (place.step ds c (rest.head?.or next)).2 rest

/-- A text with fillers in the columns that are hidden. -/
def veil (hidden : List Bool) (s : Text) : Text :=
  hidden.zipWith (fun h c => if h then filler else c) s

section Stretch
variable (ds : DelimiterSet) (next : Option Char) (place : Place)

theorem hides_cons (c : Char) (s : Text) :
    hides ds next place (c :: s) = (place.step ds c (s.head?.or next)).1 ::
      hides ds next (place.step ds c (s.head?.or next)).2 s := rfl

@[simp] theorem length_hides (s : Text) : (hides ds next place s).length = s.length := by
  induction s generalizing place with
  | nil => rfl
  | cons c s ih => simp [hides_cons, ih]

@[simp] theorem length_veil_hides (s : Text) :
    (veil (hides ds next place s) s).length = s.length := by
  simp [veil]

/-- The scanner shows the columns of a line that are not hidden. -/
theorem walk_eq (s : Text) :
    walk ds place s = (veil (hides ds none place s) s, (reach ds none place s).isOpen) := by
  induction s generalizing place with
  | nil => rfl
  | cons c s ih => simp [walk_cons, ih, hides, reach, veil]

theorem hides_append (s t : Text) :
    hides ds next place (s ++ t) = hides ds (t.head?.or next) place s ++
      hides ds next (reach ds (t.head?.or next) place s) t := by
  induction s generalizing place with
  | nil => rfl
  | cons c s ih => simp [hides, reach, ih, List.head?_append, Option.or_assoc]

theorem reach_append (s t : Text) :
    reach ds next place (s ++ t) =
      reach ds next (reach ds (t.head?.or next) place s) t := by
  induction s generalizing place with
  | nil => rfl
  | cons c s ih => simp [reach, ih, List.head?_append, Option.or_assoc]

theorem veil_append {hidden hidden' : List Bool} {s t : Text} (h : hidden.length = s.length) :
    veil (hidden ++ hidden') (s ++ t) = veil hidden s ++ veil hidden' t :=
  List.zipWith_append h

/-- A line is read as its first stretch, and then as the rest from where that leads. -/
theorem walk_append (s t : Text) :
    walk ds place (s ++ t) =
      (veil (hides ds t.head? place s) s ++ (walk ds (reach ds t.head? place s) t).1,
        (walk ds (reach ds t.head? place s) t).2) := by
  simp [walk_eq, hides_append, reach_append, veil_append]

end Stretch

/-- The characters that can take the scanner out of its place. -/
def marks : List Char := ['/', '*', '"', '\'', '\\']

/-- A text without marks. -/
def Plain (s : Text) : Prop := ∀ c ∈ s, c ∉ marks

instance (s : Text) : Decidable (Plain s) := List.decidableBAll (fun c => c ∉ marks) s

/-- What stands behind a stretch is no second character of a mark. -/
def Calm (next : Option Char) : Prop := next ≠ some '/' ∧ next ≠ some '*'

theorem Plain.calm_head? {s : Text} (h : Plain s) (hs : s ≠ []) (next : Option Char) :
    Calm (s.head?.or next) := by
  obtain ⟨c, rest, rfl⟩ := List.exists_cons_of_ne_nil hs
  have hc : c ∉ marks := h c List.mem_cons_self
  simp only [marks, List.mem_cons, not_or] at hc
  simp [Calm, hc]

namespace Place

/-- The marks of literals are quotes, as they are in every place that a line leads to. -/
def Sound : Place → Prop
  | literal mark => mark = '"' ∨ mark = '\''
  | escape mark => mark = '"' ∨ mark = '\''
  | _ => True

/-- No mark of two characters is half read. -/
def Whole (place : Place) : Prop := place ≠ opener ∧ place ≠ closer

theorem sound_atStart (inBlock : Bool) : (atStart inBlock).Sound ∧ (atStart inBlock).Whole := by
  cases inBlock <;> exact ⟨trivial, nofun, nofun⟩

variable {ds : DelimiterSet} {place : Place} {c : Char} {next next' : Option Char}

theorem isQuote_iff : isQuote ds c = true ↔
    (c = '"' ∧ ds.doubleQuote = true) ∨ (c = '\'' ∧ ds.singleQuote = true) := by
  simp [isQuote]

theorem sound_step (h : place.Sound) : (place.step ds c next).2.Sound := by
  cases place with
  | code =>
      simp only [step]
      split_ifs with _ _ hQuote
      · trivial
      · trivial
      · exact (isQuote_iff.mp hQuote).imp And.left And.left
      · trivial
  | block =>
      simp only [step]
      split_ifs <;> trivial
  | literal mark =>
      simp only [step]
      split_ifs
      · trivial
      · exact h
      · exact h
  | escape mark => exact h
  | remark => trivial
  | opener => trivial
  | closer => trivial

theorem whole_step (hNext : Calm next) : (place.step ds c next).2.Whole := by
  cases place with
  | code =>
      simp only [step, hNext.1, hNext.2, and_false, if_false]
      split_ifs <;> simp [Whole]
  | literal mark =>
      simp only [step]
      split_ifs <;> simp [Whole]
  | block => simp [step, hNext.1, Whole]
  | escape mark => simp [step, Whole]
  | remark => simp [step, Whole]
  | opener => simp [step, Whole]
  | closer => simp [step, Whole]

theorem step_congr (hNext : Calm next) (hNext' : Calm next') :
    place.step ds c next = place.step ds c next' := by
  cases place <;> simp [step, hNext.1, hNext.2, hNext'.1, hNext'.2]

/-- A character that is no mark needs no look at the one behind it. -/
theorem step_of_not_mem_marks (ds : DelimiterSet) (place : Place) (hc : c ∉ marks)
    (next next' : Option Char) : place.step ds c next = place.step ds c next' := by
  simp only [marks, List.mem_cons, not_or] at hc
  cases place <;> simp [step, hc]

theorem step_code_of_not_mem_marks (hc : c ∉ marks) :
    code.step ds c next = (false, code) := by
  simp only [marks, List.mem_cons, not_or] at hc
  simp [step, isQuote, hc]

/-- Only code shows a character that is no mark, and it is code behind it too. -/
theorem step_of_shown (hc : c ∉ marks) (hShown : (place.step ds c next).1 = false) :
    (place.step ds c next).2 = code := by
  cases place with
  | code => rw [step_code_of_not_mem_marks hc]
  | literal mark =>
      simp only [step] at hShown ⊢
      split_ifs at hShown ⊢
      rfl
  | remark => cases hShown
  | opener => cases hShown
  | block => cases hShown
  | closer => cases hShown
  | escape mark => cases hShown

/-- Outside code a character that is no mark is hidden, and it is not code behind it. -/
theorem step_of_ne_code (ds : DelimiterSet) (next : Option Char) (hSound : place.Sound)
    (hWhole : place.Whole) (hCode : place ≠ code) (hc : c ∉ marks) :
    (place.step ds c next).1 = true ∧ (place.step ds c next).2.Whole ∧
      (place.step ds c next).2 ≠ code := by
  simp only [marks, List.mem_cons, not_or] at hc
  cases place with
  | code => exact absurd rfl hCode
  | remark => simp [step, Whole]
  | opener => exact absurd rfl hWhole.1
  | block => simp [step, hc, Whole]
  | closer => exact absurd rfl hWhole.2
  | literal mark =>
      have hMark : c ≠ mark := by
        rintro rfl
        exact hSound.elim hc.2.2.1 hc.2.2.2.1
      simp [step, hMark, hc, Whole]
  | escape mark => simp [step, Whole]

end Place

section Plain
variable {ds : DelimiterSet} {place : Place} {next next' : Option Char} {s : Text}

theorem sound_reach (s : Text) (h : place.Sound) : (reach ds next place s).Sound := by
  induction s generalizing place with
  | nil => exact h
  | cons c s ih => exact ih (Place.sound_step h)

/-- No mark is half read behind a stretch, if the character behind it completes none. -/
theorem whole_reach (s : Text) (hNext : Calm next) (h : place.Whole) :
    (reach ds next place s).Whole := by
  rcases List.eq_nil_or_concat s with rfl | ⟨front, c, rfl⟩
  · exact h
  · rw [List.concat_eq_append, reach_append]
    exact Place.whole_step hNext

theorem hides_congr (ds : DelimiterSet) (place : Place) (s : Text) (hNext : Calm next)
    (hNext' : Calm next') :
    hides ds next place s = hides ds next' place s ∧
      reach ds next place s = reach ds next' place s := by
  induction s generalizing place with
  | nil => exact ⟨rfl, rfl⟩
  | cons c s ih =>
      have hStep : place.step ds c (s.head?.or next) = place.step ds c (s.head?.or next') := by
        cases s with
        | nil => exact Place.step_congr hNext hNext'
        | cons d s => rfl
      rw [hides, hides, reach, reach, hStep]
      exact ⟨congrArg _ (ih _).1, (ih _).2⟩

theorem code_of_plain (ds : DelimiterSet) (next : Option Char) (hs : Plain s) :
    hides ds next .code s = List.replicate s.length false ∧ reach ds next .code s = .code := by
  induction s with
  | nil => exact ⟨rfl, rfl⟩
  | cons c s ih =>
      have hHere : c ∉ marks := hs c List.mem_cons_self
      obtain ⟨hHides, hReach⟩ := ih fun d hd => hs d (List.mem_cons_of_mem c hd)
      rw [hides, reach, Place.step_code_of_not_mem_marks hHere]
      exact ⟨congrArg _ hHides, hReach⟩

theorem hides_of_ne_code (hSound : place.Sound) (hWhole : place.Whole) (hCode : place ≠ .code)
    (hs : Plain s) : hides ds next place s = List.replicate s.length true := by
  induction s generalizing place with
  | nil => rfl
  | cons c s ih =>
      have hHere : c ∉ marks := hs c List.mem_cons_self
      obtain ⟨hHidden, hWhole', hCode'⟩ :=
        Place.step_of_ne_code ds (s.head?.or next) hSound hWhole hCode hHere
      rw [hides_cons, hHidden, ih (Place.sound_step hSound) hWhole' hCode'
        fun d hd => hs d (List.mem_cons_of_mem c hd)]
      rfl

theorem veil_replicate_false (s : Text) : veil (List.replicate s.length false) s = s := by
  induction s with
  | nil => rfl
  | cons c s ih => simpa [veil, List.replicate_succ] using ih

theorem veil_replicate_true (s : Text) : veil (List.replicate s.length true) s = blanked s := by
  induction s with
  | nil => rfl
  | cons c s ih => simpa [veil, List.replicate_succ] using ih

/-- Plain text that shows, and not just as fillers, is code. -/
theorem eq_code_of_shown (hSound : place.Sound) (hWhole : place.Whole) (hs : Plain s)
    (hFull : ∃ c ∈ s, c ≠ filler) (hShown : veil (hides ds next place s) s = s) :
    place = .code := by
  by_contra hCode
  rw [hides_of_ne_code hSound hWhole hCode hs, veil_replicate_true] at hShown
  obtain ⟨c, hc, hNe⟩ := hFull
  rw [← hShown, blanked] at hc
  exact hNe (List.eq_of_mem_replicate hc)

/-- Plain text in code is shown as it is, and what follows is read from code. -/
theorem walk_plain_append (hs : Plain s) (t : Text) :
    walk ds .code (s ++ t) = (s ++ (walk ds .code t).1, (walk ds .code t).2) := by
  obtain ⟨hHides, hReach⟩ := code_of_plain ds t.head? hs
  rw [walk_append, hHides, hReach, veil_replicate_false]

end Plain

/-! Lines. All that a line takes from those in front of it is whether a block comment
is open. -/

/-- Whether a block comment is open behind some lines. -/
def openAfter (ds : DelimiterSet) : (inBlock : Bool) → List Text → Bool
  | inBlock, [] => inBlock
  | inBlock, line :: lines => openAfter ds (walk ds (.atStart inBlock) line).2 lines

section Lines
variable (ds : DelimiterSet) (inBlock : Bool)

@[simp] theorem length_walkLines (lines : List Text) :
    (walkLines ds inBlock lines).length = lines.length := by
  induction lines generalizing inBlock with
  | nil => rfl
  | cons line lines ih => simp [walkLines, ih]

/-- The scanner writes a view of its own length for every line. -/
theorem fits_walkLines (lines : List Text) : Fits lines (walkLines ds inBlock lines) :=
  (walkLines_veils ds inBlock lines).imp fun _ _ h => (List.Forall₂.length_eq h).symm

theorem walkLines_append (lines lines' : List Text) :
    walkLines ds inBlock (lines ++ lines') =
      walkLines ds inBlock lines ++ walkLines ds (openAfter ds inBlock lines) lines' := by
  induction lines generalizing inBlock with
  | nil => rfl
  | cons line lines ih => simp [walkLines, openAfter, ih]

/-- Which columns of some lines are hidden, line by line. -/
def hidesLines : (inBlock : Bool) → List Text → List (List Bool)
  | _, [] => []
  | inBlock, line :: lines =>
    hides ds none (.atStart inBlock) line ::
      hidesLines (walk ds (.atStart inBlock) line).2 lines

theorem getElem?_hidesLines (lines : List Text) (index : Nat) :
    (hidesLines ds inBlock lines)[index]? = lines[index]?.map
      (hides ds none (.atStart (openAfter ds inBlock (lines.take index)))) := by
  induction lines generalizing inBlock index with
  | nil => rfl
  | cons line lines ih =>
      cases index with
      | zero => rfl
      | succ index => simp [hidesLines, openAfter, ih]

/-- The scanner writes fillers into the columns that are hidden, and else the text. -/
theorem walkLines_eq_veil (lines : List Text) :
    walkLines ds inBlock lines = (hidesLines ds inBlock lines).zipWith veil lines := by
  induction lines generalizing inBlock with
  | nil => rfl
  | cons line lines ih => simp [walkLines, hidesLines, ih, walk_eq]

end Lines

end Sightline.Mask
