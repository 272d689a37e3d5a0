import Sightline.Line
import Sightline.Record

/-!
A buffer: the lines of a file and a cursor. The cursor is an index of a line, or one of two places
where a search leaves it that found nothing: the number of lines after a search forward, -1 after a
search backward.
-/
namespace Sightline

/-- Lines and a cursor. -/
structure Buffer where
  lines : List Line
  position : Int
  deriving DecidableEq, Repr, Inhabited

/-- What an operation on a buffer leaves behind: the buffer, an answer, and what it reported. -/
structure Step (α : Type) where
  buffer : Buffer
  answer : α
  records : List Record
  deriving Repr

namespace Buffer

/-- A buffer with the cursor on its first line. -/
def ofLines (lines : List Line) : Buffer := ⟨lines, 0⟩

/-- The number of lines. -/
def size (b : Buffer) : Nat := b.lines.length

/-- The texts of the lines. -/
def texts (b : Buffer) : List Text := b.lines.map Line.text

/-- The views of the lines. -/
def views (b : Buffer) : List Text := b.lines.map Line.view

/-- The line at an index, if there is one. -/
def line? (b : Buffer) (index : Int) : Option Line :=
  if index < 0 then none else b.lines[index.toNat]?

theorem mem_of_line? {b : Buffer} {index : Int} {line : Line} (h : b.line? index = some line) :
    line ∈ b.lines := by
  rw [line?] at h
  split at h
  · cases h
  · exact List.mem_of_getElem? h

theorem line?_natCast (b : Buffer) (index : Nat) : b.line? index = b.lines[index]? := by
  rw [line?, if_neg (by omega), Int.toNat_natCast]

theorem line?_eq_none {b : Buffer} {index : Int} (h : ¬(0 ≤ index ∧ index < b.size)) :
    b.line? index = none := by
  rw [size] at h
  rw [line?]
  split
  · rfl
  · rw [List.getElem?_eq_none_iff]
    omega

/-- The line the cursor is on, if it is on one. -/
def current? (b : Buffer) : Option Line := b.line? b.position

theorem current?_eq_some_iff (b : Buffer) (line : Line) :
    b.current? = some line ↔ 0 ≤ b.position ∧ b.lines[b.position.toNat]? = some line := by
  rw [current?, line?]
  split
  · simp only [reduceCtorEq, false_iff, not_and]
    omega
  · simp only [iff_and_self]
    omega

/-- The buffer with the cursor on its first line. -/
def toTop (b : Buffer) : Buffer := { b with position := 0 }

/-- Moves the cursor by some lines, but not past the first or the last; tells whether it moved all
the way. -/
def jump (offset : Int) (b : Buffer) : Buffer × Bool :=
  let target := b.position + offset
  if (b.size : Int) ≤ target then ({ b with position := max (b.size - 1) 0 }, false)
  else if target < 0 then ({ b with position := 0 }, false)
  else ({ b with position := target }, true)

end Buffer

/-- The cursor is on no line. -/
structure CursorFault where
  position : Int
  size : Nat
  deriving DecidableEq, Repr

/-- The wording of the fault. -/
def CursorFault.message (fault : CursorFault) : String :=
  "Cursor " ++ toString fault.position ++ " is outside the buffer (" ++ toString fault.size ++
    " lines)"

/-- The view of the line the cursor is on. -/
def Buffer.currentView (b : Buffer) : Except CursorFault Text :=
  match b.current? with
  | some line => .ok line.view
  | none => .error ⟨b.position, b.size⟩

end Sightline
