import Sightline.Buffer.Edit

/-!
Changes around the cursor: lines put in with the indentation of a neighbour, text replaced or added
on the cursor's line. A change that cannot be made leaves the buffer as it is.
-/
namespace Sightline.Buffer

/-- The indentation that a new line copies: of the line the cursor is on, or of the one below it,
without its last `back` characters. -/
def copiedIndent (following : Bool) (back : Int) (b : Buffer) : Text :=
  let indent :=
    match b.line? (if following then b.position + 1 else b.position) with
    | some line => Text.indentation line.text
    | none => []
  if back = 0 then indent else indent.take (max (indent.length - back) 0).toNat

/-- A copied indentation is part of the indentation of some line. -/
theorem mem_copiedIndent {following : Bool} {back : Int} {b : Buffer} {c : Char}
    (h : c ∈ b.copiedIndent following back) : ∃ l ∈ b.lines, c ∈ Text.indentation l.text := by
  generalize hAt : (if following then b.position + 1 else b.position) = index
  have hWhole : c ∈ (match b.line? index with
      | some line => Text.indentation line.text
      | none => []) := by
    simp only [copiedIndent, hAt] at h
    split at h
    · exact h
    · exact List.mem_of_mem_take h
  cases hLine : b.line? index with
  | none => simp [hLine] at hWhole
  | some line =>
    rw [hLine] at hWhole
    exact ⟨line, mem_of_line? hLine, hWhole⟩

/-- Puts a line below the cursor's, with a copied indentation, and moves the cursor onto it. -/
def insertLine (s : Text) (following : Bool) (back : Int) (b : Buffer) : Step Unit :=
  let text := b.copiedIndent following back ++ s
  let index := (min (max (b.position + 1) 0) b.size).toNat
  ⟨⟨b.lines.insertIdx index (.plain text), index⟩, (), [(Edit.insert index text).record]⟩

/-- Puts a line below the cursor's unless some line has its text already; tells whether it did. -/
def insertNewLine (s : Text) (following : Bool) (back : Int) (b : Buffer) : Step Bool :=
  if b.lines.any fun line => Text.holds line.text s then
    ⟨b, false, [.note .debug
      ("insert_unique_line_with_indent: " ++ Text.quote s ++ " already present.")]⟩
  else
    let step := b.insertLine s following back
    ⟨step.buffer, true, step.records⟩

/-- Replaces every occurrence of a text on the cursor's line; tells whether there was one. -/
def replaceText (old new : Text) (b : Buffer) : Step Bool :=
  match b.current? with
  | none => ⟨b, false, []⟩
  | some line =>
    let index := b.position.toNat
    if old.isEmpty then ⟨b, false, []⟩
    else if (line.occurrences old).isEmpty then
      ⟨b, false, [.note .debug
        ("replace_text: " ++ Text.quote old ++ " not in code on line " ++ toString index ++ ".")]⟩
    else
      ⟨{ b with lines := b.lines.set index (line.replace old new) }, true,
        [(Edit.replace index old new).record]⟩

/-- Puts a text at the end of the cursor's line; tells whether the cursor is on one. -/
def appendText (s : Text) (b : Buffer) : Step Bool :=
  match b.current? with
  | none => ⟨b, false, []⟩
  | some line =>
    let index := b.position.toNat
    ⟨{ b with lines := b.lines.set index (line.append s) }, true,
      [(Edit.append index s).record]⟩

end Sightline.Buffer
