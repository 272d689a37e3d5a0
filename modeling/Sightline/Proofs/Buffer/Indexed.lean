import Sightline.Buffer.Change
import Sightline.Buffer.Member
import Sightline.Proofs.Buffer.Bracket
import Sightline.Proofs.Line.Indexed

/-! The operations of a buffer, index by index. Here lines are reached by their indices and
nothing else, and what would take a line in front of the first or behind the last, or a column
behind the end of a text, gives nothing. On aligned lines that never happens, wherever the
cursor is, and the result is that of the operation without the checks. -/
namespace Sightline.Buffer

/-- The cursor is on a line. -/
def OnLine (b : Buffer) : Prop := 0 ≤ b.position ∧ b.position < b.size

instance (b : Buffer) : Decidable b.OnLine :=
  inferInstanceAs (Decidable (0 ≤ b.position ∧ b.position < b.size))

/-- The lines from the cursor up, the nearest first. -/
def above (b : Buffer) : List Line := (b.lines.take (min (b.position + 1) b.size).toNat).reverse

theorem length_above (b : Buffer) :
    (b.above.length : Int) = max (min (b.position + 1) b.size) 0 := by
  rw [above, List.length_reverse, List.length_take, size]
  omega

theorem getElem?_above (b : Buffer) {k : Nat} (hk : k < b.above.length) :
    b.above[k]? = b.lines[b.above.length - 1 - k]? := by
  have hTake : b.above.length = (b.lines.take (min (b.position + 1) b.size).toNat).length :=
    List.length_reverse
  have hCount := length_above b
  rw [hTake] at hk ⊢
  rw [above, List.getElem?_reverse hk, List.getElem?_take_of_lt (by omega)]

theorem isSome_find?_holds (texts : List Text) (view : Text) :
    (texts.find? fun s => Text.holds view s).isSome = havingAny texts view :=
  Bool.eq_iff_iff.mpr (List.find?_isSome.trans List.any_eq_true.symm)

theorem seekShown_miss {texts : List Text} {b : Buffer} (shown : List Value)
    (h : (b.lines.drop b.position.toNat).findIdx? (fun line => havingAny texts line.view) = none) :
    b.seekShown shown texts = ⟨{ b with position := b.size }, none, [missRecord shown]⟩ := by
  simp only [seekShown, forward, h]

/-- On the line that a search for some texts stops at, the first text that it has is chosen. -/
theorem seekShown_at {texts : List Text} {b : Buffer} {index : Nat} {line : Line}
    (shown : List Value)
    (h : b.forward (havingAny texts) = ({ b with position := index }, some index))
    (hLine : b.lines[index]? = some line) :
    b.seekShown shown texts =
      ⟨{ b with position := index }, texts.find? fun s => Text.holds line.view s, []⟩ := by
  have hAt : line? ⟨b.lines, index⟩ index = some line := (line?_natCast _ _).trans hLine
  simp only [seekShown, h, hAt, Option.bind_some]

theorem seekShown_hit {texts : List Text} {b : Buffer} {k : Nat} {line : Line} {s : Text}
    (shown : List Value)
    (h : (b.lines.drop b.position.toNat).findIdx? (fun line => havingAny texts line.view) = some k)
    (hLine : b.lines[b.position.toNat + k]? = some line)
    (hFirst : (texts.find? fun s => Text.holds line.view s) = some s) :
    b.seekShown shown texts =
      ⟨{ b with position := (b.position.toNat + k : Nat) }, some s, []⟩ := by
  have hForward : b.forward (havingAny texts) =
      ({ b with position := (b.position.toNat + k : Nat) }, some (b.position.toNat + k)) := by
    simp only [forward, h, Nat.cast_add]
  rw [seekShown_at shown hForward hLine, hFirst]

/-- The line that is found has one of the texts. -/
theorem exists_hit {texts : List Text} {b : Buffer} {k : Nat}
    (h : (b.lines.drop b.position.toNat).findIdx? (fun line => havingAny texts line.view) =
      some k) :
    ∃ line s, b.lines[b.position.toNat + k]? = some line ∧
      (texts.find? fun s => Text.holds line.view s) = some s := by
  obtain ⟨hk, hHas, -⟩ := List.findIdx?_eq_some_iff_getElem.mp h
  obtain ⟨s, hFirst⟩ := Option.isSome_iff_exists.mp ((isSome_find?_holds texts _).trans hHas)
  refine ⟨_, s, ?_, hFirst⟩
  rw [← List.getElem?_drop, List.getElem?_eq_getElem hk]

section Scan
variable (opening closing : Text)

end Scan

end Sightline.Buffer
