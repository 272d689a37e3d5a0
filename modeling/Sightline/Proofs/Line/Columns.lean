import Sightline.Line
import Sightline.Proofs.Mask.Contract

/-! A line as a row of columns, each with a character of the text and one of the
view. The columns where the two differ are what the line hides. Lines are cut and
put together by columns, so that an edit is a cut with plain text in it. -/
namespace Sightline.Line

/-- Two lines, one behind the other. -/
instance : Append Line := ⟨fun l r => ⟨l.text ++ r.text, l.view ++ r.view⟩⟩

@[simp] theorem text_append (l r : Line) : (l ++ r).text = l.text ++ r.text := rfl

@[simp] theorem view_append (l r : Line) : (l ++ r).view = l.view ++ r.view := rfl

/-- The first columns of a line. -/
def take (n : Nat) (l : Line) : Line := ⟨l.text.take n, l.view.take n⟩

/-- A line without its first columns. -/
def drop (n : Nat) (l : Line) : Line := ⟨l.text.drop n, l.view.drop n⟩

theorem append_assoc (l m r : Line) : l ++ m ++ r = l ++ (m ++ r) :=
  congrArg₂ Line.mk (List.append_assoc ..) (List.append_assoc ..)

theorem take_append_drop (n : Nat) (l : Line) : l.take n ++ l.drop n = l :=
  congrArg₂ Line.mk (List.take_append_drop ..) (List.take_append_drop ..)

theorem append_eq (l : Line) (s : Text) : l.append s = l ++ plain s := rfl

/-- Text that is put in at a column parts the columns in front of it from the
others, in text and view alike. -/
theorem splice_eq (l : Line) (column : Nat) (s : Text) :
    l.splice column s = l.take column ++ plain s ++ l.drop column := by
  have hCut (t : Text) : t.insertAt column s = t.take column ++ s ++ t.drop column := by
    have hIndex : t.cutIndex column = min column t.length := by
      rw [Text.cutIndex, if_neg (by omega), Int.toNat_natCast]
    rw [Text.insertAt, hIndex]
    rcases Nat.le_total column t.length with h | h
    · rw [Nat.min_eq_left h]
    · rw [Nat.min_eq_right h, List.take_length, List.drop_length, List.take_of_length_le h,
        List.drop_of_length_le h]
  exact congrArg₂ Line.mk (hCut l.text) (hCut l.view)

theorem aligned_plain (s : Text) : (plain s).Aligned := rfl

namespace Aligned
variable {l r : Line}

theorem append (hl : l.Aligned) (hr : r.Aligned) : (l ++ r).Aligned := by
  unfold Aligned at *
  simp [hl, hr]

theorem of_append (hl : l.Aligned) (h : (l ++ r).Aligned) : r.Aligned := by
  unfold Aligned at *
  simpa [hl] using h

theorem take (h : l.Aligned) (n : Nat) : (l.take n).Aligned := by
  unfold Aligned at *
  simp [Line.take, h]

theorem drop (h : l.Aligned) (n : Nat) : (l.drop n).Aligned := by
  unfold Aligned at *
  simp [Line.drop, h]

theorem splice (h : l.Aligned) (column : Nat) (s : Text) : (l.splice column s).Aligned := by
  rw [splice_eq]
  exact ((h.take column).append (aligned_plain s)).append (h.drop column)

end Aligned

/-- The characters of text and view, column by column. -/
def columns (l : Line) : List (Char × Char) := l.text.zip l.view

theorem columns_append {l : Line} (h : l.Aligned) (r : Line) :
    (l ++ r).columns = l.columns ++ r.columns :=
  List.zip_append h.symm

theorem length_columns {l : Line} (h : l.Aligned) : l.columns.length = l.text.length := by
  rw [columns, List.length_zip, show l.view.length = l.text.length from h, Nat.min_self]

theorem columns_plain (s : Text) : (plain s).columns = s.map fun c => (c, c) := by
  induction s with
  | nil => rfl
  | cons c s ih => exact congrArg ((c, c) :: ·) ih

/-- The columns of an aligned line tell its text and its view. -/
theorem Aligned.eq_of_columns {l r : Line} (hl : l.Aligned) (hr : r.Aligned)
    (h : l.columns = r.columns) : l = r := by
  have hParts := congrArg List.unzip h
  rw [columns, columns, List.unzip_zip hl.symm, List.unzip_zip hr.symm] at hParts
  obtain ⟨hText, hView⟩ := Prod.mk.inj hParts
  exact congrArg₂ Line.mk hText hView

/-- The columns that the line hides: those in which the view has another character. -/
def hidden (l : Line) : List (Char × Char) := l.columns.filter fun p => p.1 ≠ p.2

@[simp] theorem hidden_plain (s : Text) : (plain s).hidden = [] := by
  induction s with
  | nil => rfl
  | cons c s ih => simpa [hidden, columns, plain] using ih

theorem hidden_append {l : Line} (h : l.Aligned) (r : Line) :
    (l ++ r).hidden = l.hidden ++ r.hidden := by
  rw [hidden, columns_append h, List.filter_append]
  rfl

/-- Plain text in a cut hides nothing and uncovers nothing. -/
theorem hidden_insert {l : Line} (h : l.Aligned) (s : Text) (r : Line) :
    (l ++ plain s ++ r).hidden = (l ++ r).hidden := by
  rw [hidden_append (h.append (aligned_plain s)), hidden_append h, hidden_append h, hidden_plain,
    List.append_nil]

theorem hidden_splice {l : Line} (h : l.Aligned) (column : Nat) (s : Text) :
    (l.splice column s).hidden = l.hidden := by
  rw [splice_eq, hidden_insert (h.take column), take_append_drop]

/-- A line is veiled by its view when the two are aligned and nothing but the
filler hides a character. -/
theorem veils_iff (l : Line) :
    Mask.Veils l.text l.view ↔ l.Aligned ∧ ∀ p ∈ l.hidden, p.2 = Mask.filler := by
  rw [Mask.Veils, List.forall₂_iff_zip, Aligned, eq_comm]
  refine and_congr_right fun _ => ⟨fun h p hp => ?_, fun h a b hab => ?_⟩
  · obtain ⟨hMem, hNe⟩ := List.mem_filter.mp hp
    exact (h hMem).resolve_left fun he => of_decide_eq_true hNe he.symm
  · by_cases he : b = a
    · exact Or.inl he
    · exact Or.inr (h (a, b) (List.mem_filter.mpr ⟨hab, decide_eq_true (Ne.symm he)⟩))

theorem length_text_splice (l : Line) (column : Nat) (s : Text) :
    (l.splice column s).text.length = l.text.length + s.length := by
  have hParts : (l.take column).text.length + (l.drop column).text.length = l.text.length := by
    rw [← List.length_append, ← text_append, take_append_drop]
  rw [splice_eq, text_append, text_append, List.length_append, List.length_append]
  simp only [plain]
  omega

/-- Only the empty text can be put into a line and leave it as it is. -/
theorem splice_eq_self_iff (l : Line) (column : Nat) (s : Text) :
    l.splice column s = l ↔ s = [] := by
  constructor
  · intro h
    have hLength := length_text_splice l column s
    rw [h] at hLength
    exact List.eq_nil_of_length_eq_zero (by omega)
  · rintro rfl
    have hNone : l.take column ++ plain [] = l.take column :=
      congrArg₂ Line.mk (List.append_nil _) (List.append_nil _)
    rw [splice_eq, hNone, take_append_drop]

theorem append_eq_self_iff (l : Line) (s : Text) : l.append s = l ↔ s = [] := by
  constructor
  · intro h
    exact List.append_right_eq_self.mp (congrArg Line.text h)
  · rintro rfl
    exact congrArg₂ Line.mk (List.append_nil _) (List.append_nil _)

end Sightline.Line
