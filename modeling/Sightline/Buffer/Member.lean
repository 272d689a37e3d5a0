import Sightline.Buffer.Search

/-!
The end of the member the cursor is in. Braces are taken to stand alone on their lines, and members
to be nested in a type in a namespace; nothing is parsed.
-/
namespace Sightline.Buffer

/-- A closing brace, as it stands alone on a line. -/
def closingBrace : Text := ['}']

/-- Moves above the closing brace of each of some blocks, which end one above the other. -/
def leaveBlocks : (blocks : List String) → Buffer → Step Bool
  | [], b => ⟨b, true, []⟩
  | block :: blocks, b =>
    let brace := seekBackBeing closingBrace b
    match brace.answer with
    | none =>
      ⟨brace.buffer, false, brace.records ++ [.note .debug
        ("find_end_of_method: no closing brace for " ++ block ++ " block.")]⟩
    | some _ =>
      let above := leaveBlocks blocks (brace.buffer.jump (-1)).1
      { above with records := brace.records ++ above.records }

/-- Goes on behind the search for the next member: the closing brace above that member ends this
one. With no member below, the last three closing braces of the buffer end the namespace, the type
and the member. -/
def endAbove (next : Step (Option Text)) : Step Bool :=
  match next.answer with
  | some _ =>
    let brace := seekBackBeing closingBrace next.buffer
    match brace.answer with
    | none => ⟨brace.buffer, false, next.records ++ brace.records⟩
    | some _ => ⟨(brace.buffer.jump (-1)).1, true, next.records ++ brace.records⟩
  | none =>
    let last := leaveBlocks ["namespace", "type", "member"] (next.buffer.jump next.buffer.size).1
    { last with records := next.records ++ last.records }

/-- Moves to the last line inside the member the cursor is in, and tells whether there is one. The
first line below the cursor that has a keyword starts the next member. -/
def seekMemberEnd (keywords : List Text) (b : Buffer) : Step Bool :=
  endAbove (seekAny keywords (b.jump 1).1)

end Sightline.Buffer
