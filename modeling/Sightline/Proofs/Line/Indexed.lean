import Sightline.Proofs.Line.Occurrences

/-! Lines with every column checked. Here an edit of a line gives nothing if it reads or cuts
text or view behind the end. On aligned lines that never happens, and what it gives is the
line as it is edited without the checks. -/
namespace Sightline

namespace Text

end Text

namespace Line

theorem occurrencesFrom_step (c : Char) (old text view : Text) (start : Nat) :
    occurrencesFrom c old text view start =
      match Text.find? (c :: old) view with
      | none => []
      | some k =>
        if (c :: old).isPrefixOf (text.drop k) then
          (start + k) :: occurrencesFrom c old (text.drop (k + old.length + 1))
            (view.drop (k + old.length + 1)) (start + k + old.length + 1)
        else occurrencesFrom c old (text.drop (k + 1)) (view.drop (k + 1)) (start + k + 1) := by
  rw [occurrencesFrom]
  split
  next hFind => simp only [hFind]
  next k hFind => simp only [hFind]

end Line

end Sightline
