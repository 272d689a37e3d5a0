import Mathlib.Tactic.SplitIfs
import Sightline.Buffer.Member

/-! A buffer whose hidden text is wiped out, so that its lines hold what their views
show and nothing else. Moving about in it is the same as in the buffer itself: every
search and every jump commutes with the wiping. -/
namespace Sightline

/-- The buffer with the views for its texts. -/
def Buffer.wiped (b : Buffer) : Buffer := ⟨b.lines.map fun l => .plain l.view, b.position⟩

/-- A step that leaves the buffer wiped behind. -/
def Step.wiped {α : Type} (step : Step α) : Step α := { step with buffer := step.buffer.wiped }

namespace Buffer
variable (b : Buffer)

@[simp] theorem position_wiped : b.wiped.position = b.position := rfl

@[simp] theorem size_wiped : b.wiped.size = b.size := by
  simp [size, wiped]

@[simp] theorem views_wiped : b.wiped.views = b.views := by
  simp [views, wiped, Line.plain]

@[simp] theorem texts_wiped : b.wiped.texts = b.views := by
  simp [texts, views, wiped, Line.plain]

theorem line?_wiped (index : Int) :
    b.wiped.line? index = (b.line? index).map fun l => .plain l.view := by
  rw [line?, line?]
  split_ifs
  · rfl
  · simp [wiped]

theorem jump_wiped (offset : Int) :
    b.wiped.jump offset = ((b.jump offset).1.wiped, (b.jump offset).2) := by
  simp only [jump, size_wiped, position_wiped]
  by_cases hPast : (b.size : Int) ≤ b.position + offset
  · simp only [hPast, if_true]
    rfl
  · by_cases hBefore : b.position + offset < 0 <;> simp only [hPast, hBefore, if_true, if_false] <;>
      rfl

theorem forward_wiped (fits : Text → Bool) :
    b.wiped.forward fits = ((b.forward fits).1.wiped, (b.forward fits).2) := by
  have hFind : ((b.wiped.lines.drop b.position.toNat).findIdx? fun l => fits l.view) =
      (b.lines.drop b.position.toNat).findIdx? fun l => fits l.view := by
    simp [wiped, ← List.map_drop, List.findIdx?_map, Function.comp_def, Line.plain]
  simp only [forward, position_wiped, hFind, size_wiped]
  split <;> rfl

theorem backward_wiped (fits : Text → Bool) :
    b.wiped.backward fits = ((b.backward fits).1.wiped, (b.backward fits).2) := by
  have hFind (count : Nat) :
      ((b.wiped.lines.take count).reverse.findIdx? fun l => fits l.view) =
        (b.lines.take count).reverse.findIdx? fun l => fits l.view := by
    simp [wiped, ← List.map_take, ← List.map_reverse, List.findIdx?_map, Function.comp_def,
      Line.plain]
  simp only [backward, position_wiped, size_wiped, hFind]
  split <;> rfl

theorem reported_wiped (name : String) (s : Text) (search : Buffer × Option Nat) :
    reported name s (search.1.wiped, search.2) = (reported name s search).wiped := rfl

theorem seekHaving_wiped (s : Text) : b.wiped.seekHaving s = (b.seekHaving s).wiped := by
  rw [seekHaving, forward_wiped, reported_wiped, seekHaving]

theorem seekBackHaving_wiped (s : Text) :
    b.wiped.seekBackHaving s = (b.seekBackHaving s).wiped := by
  rw [seekBackHaving, backward_wiped, reported_wiped, seekBackHaving]

theorem seekBeing_wiped (s : Text) : b.wiped.seekBeing s = (b.seekBeing s).wiped := by
  rw [seekBeing, forward_wiped, reported_wiped, seekBeing]

theorem seekBackBeing_wiped (s : Text) :
    b.wiped.seekBackBeing s = (b.seekBackBeing s).wiped := by
  rw [seekBackBeing, backward_wiped, reported_wiped, seekBackBeing]

theorem seekShown_wiped (shown : List Value) (candidates : List Text) :
    b.wiped.seekShown shown candidates = (b.seekShown shown candidates).wiped := by
  rw [seekShown, seekShown, forward_wiped]
  rcases b.forward (havingAny candidates) with ⟨found, index | index⟩
  · rfl
  · simp only [line?_wiped, Option.bind_map, Function.comp_def, Line.plain]
    rfl

theorem seekCandidates_wiped (candidates : List Value) :
    b.wiped.seekCandidates candidates = (b.seekCandidates candidates).map Step.wiped := by
  have hLine : b.wiped.lines[b.position.toNat]? =
      b.lines[b.position.toNat]?.map fun l => .plain l.view := by
    simp [wiped]
  simp only [seekCandidates, seekShown_wiped, position_wiped, hLine, size_wiped]
  cases misfit? candidates with
  | none => rfl
  | some v =>
      cases b.lines[b.position.toNat]? with
      | none =>
          simp only [Option.map_none]
          split_ifs <;> rfl
      | some line =>
          simp only [Option.map_some, Line.plain]
          split_ifs <;> rfl

theorem leave_wiped (fault : CandidateFault) : fault.leave b.wiped = (fault.leave b).wiped := by
  cases fault with
  | misfit v => rfl
  | unwritable =>
      rw [CandidateFault.leave, size_wiped]
      rfl

theorem leaveBlocks_wiped (blocks : List String) (b : Buffer) :
    b.wiped.leaveBlocks blocks = (b.leaveBlocks blocks).wiped := by
  induction blocks generalizing b with
  | nil => rfl
  | cons block blocks ih =>
      have hAbove := ih ((b.seekBackBeing closingBrace).buffer.jump (-1)).1
      simp only [leaveBlocks, seekBackBeing_wiped, Step.wiped, jump_wiped] at hAbove ⊢
      rw [hAbove]
      cases (b.seekBackBeing closingBrace).answer <;> rfl

theorem endAbove_wiped (next : Step (Option Text)) :
    endAbove next.wiped = (endAbove next).wiped := by
  simp only [endAbove, Step.wiped, seekBackBeing_wiped, jump_wiped, leaveBlocks_wiped, size_wiped]
  cases next.answer with
  | none => rfl
  | some s => cases (next.buffer.seekBackBeing closingBrace).answer <;> rfl

theorem currentView_wiped : b.wiped.currentView = b.currentView := by
  rw [currentView, currentView, current?, current?, line?_wiped, position_wiped, size_wiped]
  cases b.line? b.position <;> rfl

end Buffer

end Sightline
