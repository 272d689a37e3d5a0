import Mathlib.Data.List.DropRight
import Sightline.Proofs.Session.CursorSafety
import Sightline.Proofs.Session.FreshView

/-! A block of lines, put in line by line. Every line is put in below the one before it, and finds
the indentation to copy where that one found it: on the line below the block, which moves down with
every line put in, or on the line just put in, which has the indentation it was given. -/
namespace Sightline

namespace Buffer

/-- The indentation of the line at an index; where there is no line there is none. -/
def indentAt (b : Buffer) (index : Int) : Text :=
  match b.line? index with
  | some line => Text.indentation line.text
  | none => []

/-- The buffer with some texts put in as lines below the cursor, in their order, and the cursor on
the last of them. -/
def withBlock (b : Buffer) (block : List Text) : Buffer :=
  ⟨b.lines.take b.below ++ block.map .plain ++ b.lines.drop b.below,
    match block with
    | [] => b.position
    | _ :: rest => (b.below + rest.length : Nat)⟩

variable {b : Buffer}

/-- A line is put in between the lines above the place for it and those below. -/
theorem exists_insertLine_parts (b : Buffer) (t : Text) (following : Bool) (back : Int) :
    ∃ before after, b.lines = before ++ after ∧ b.below = before.length ∧
      (b.insertLine t following back).buffer =
        ⟨before ++ .plain (b.copiedIndent following back ++ t) :: after, before.length⟩ := by
  obtain ⟨before, after, hLines, hLength, hInsert⟩ :
      ∃ before after, b.lines = before ++ after ∧ before.length = b.below ∧
        b.lines.insertIdx b.below (.plain (b.copiedIndent following back ++ t)) =
          before ++ .plain (b.copiedIndent following back ++ t) :: after :=
    List.exists_of_modifyTailIdx (List.cons _) b.below_le
  refine ⟨before, after, hLines, hLength.symm, ?_⟩
  rw [insertLine, Buffer.mk.injEq, hLength]
  exact ⟨hInsert, rfl⟩

/-- A line that is put in is the first of the block. -/
theorem withBlock_insertLine (b : Buffer) (t : Text) (following : Bool) (back : Int)
    (block : List Text) : (b.insertLine t following back).buffer.withBlock block =
      b.withBlock ((b.copiedIndent following back ++ t) :: block) := by
  obtain ⟨before, after, hLines, hLength, hBuffer⟩ := b.exists_insertLine_parts t following back
  generalize b.copiedIndent following back ++ t = text at hBuffer ⊢
  have hBelow : below ⟨before ++ .plain text :: after, before.length⟩ = before.length + 1 := by
    simp only [below, size, List.length_append, List.length_cons]
    omega
  rw [hBuffer]
  simp only [withBlock, hBelow, hLines, hLength, Buffer.mk.injEq]
  constructor
  · simp [List.take_length_add_append]
  · cases block with
    | nil => simp
    | cons first rest =>
        simp only [List.length_cons]
        omega

/-- The line below the cursor is still below it once a line has been put in. -/
theorem line?_below_insertLine (h : b.InRange) (t : Text) (following : Bool) (back : Int) :
    let grown := (b.insertLine t following back).buffer
    grown.line? (grown.position + 1) = b.line? (b.position + 1) := by
  obtain ⟨before, after, hLines, hLength, hBuffer⟩ := b.exists_insertLine_parts t following back
  simp only [hBuffer]
  rw [← Nat.cast_succ, line?_natCast]
  have hSize : b.size = before.length + after.length := by rw [size, hLines, List.length_append]
  obtain ⟨hLow, hHigh⟩ := h
  simp only [below] at hLength
  by_cases hBehind : b.position = b.size
  · obtain rfl : after = [] := List.eq_nil_of_length_eq_zero (by omega)
    rw [line?_eq_none (by omega), List.getElem?_eq_none (by simp)]
  · rw [show b.position + 1 = before.length by omega, line?_natCast, hLines,
      List.getElem?_append_right (Nat.le_succ _), List.getElem?_append_right le_rfl,
      Nat.succ_sub le_rfl, Nat.sub_self, List.getElem?_cons_succ]

/-- A number of characters is dropped from the end of the indentation of a neighbour. -/
theorem copiedIndent_eq (b : Buffer) (following : Bool) (back : Nat) :
    b.copiedIndent following back =
      (b.indentAt (if following then b.position + 1 else b.position)).rdrop back := by
  let indent := b.indentAt (if following then b.position + 1 else b.position)
  have hLeft : (max (indent.length - back : Int) 0).toNat = indent.length - back := by omega
  change (if (back : Int) = 0 then indent else
    indent.take (max (indent.length - back : Int) 0).toNat) = indent.take (indent.length - back)
  rw [hLeft]
  split_ifs with hNone
  · rw [List.take_of_length_le (by omega)]
  · rfl

theorem copiedIndent_insertLine_following (h : b.InRange) (t : Text) (back : Int) :
    (b.insertLine t true back).buffer.copiedIndent true back = b.copiedIndent true back := by
  simp only [copiedIndent, if_true, line?_below_insertLine h]

/-- A line without blanks of its own has the indentation it is given. -/
theorem copiedIndent_insertLine (b : Buffer) {t : Text}
    (ht : ∀ c ∈ t.head?, Text.isBlank c = false) :
    (b.insertLine t false 0).buffer.copiedIndent false 0 = b.copiedIndent false 0 := by
  obtain ⟨before, after, -, -, hBuffer⟩ := b.exists_insertLine_parts t false 0
  have hOwn : Text.indentation t = [] := by
    cases t with
    | nil => rfl
    | cons c rest => exact List.takeWhile_cons_of_neg (by simpa using ht c rfl)
  have hBlank : ∀ c ∈ b.copiedIndent false 0, Text.isBlank c = true := by
    intro c hc
    obtain ⟨line, -, hIndent⟩ := mem_copiedIndent hc
    exact List.mem_takeWhile_imp hIndent
  rw [hBuffer]
  generalize b.copiedIndent false 0 = indent at hBlank ⊢
  have hLine : line? ⟨before ++ .plain (indent ++ t) :: after, before.length⟩ before.length =
      some (.plain (indent ++ t)) := by
    rw [line?_natCast, List.getElem?_append_right le_rfl, Nat.sub_self, List.getElem?_cons_zero]
  simp only [copiedIndent, if_false, Bool.false_eq_true, if_true, hLine]
  change Text.indentation (indent ++ t) = indent
  rw [Text.indentation, List.takeWhile_append_of_pos hBlank]
  exact (congrArg (indent ++ ·) hOwn).trans (List.append_nil indent)

end Buffer

namespace Session

/-- Lines that leave the indentation to copy as they find it are put in as a block. -/
theorem after_insertLines {following : Bool} {back : Int} {ts : List Text}
    (hKeeps : ∀ t ∈ ts, ∀ b : Buffer, b.InRange →
      (b.insertLine t following back).buffer.copiedIndent following back =
        b.copiedIndent following back)
    (codecs : Registry) (store : Store) {s : Session} (h : s.buffer.InRange) :
    s.after (s.performAll codecs store (ts.map fun t => .insertLine t following back)) =
      { s with buffer :=
          s.buffer.withBlock (ts.map (s.buffer.copiedIndent following back ++ ·)) } := by
  induction ts generalizing s with
  | nil =>
      simp [performAll, Buffer.withBlock]
  | cons t ts ih =>
      obtain ⟨hFirst, hRest⟩ := List.forall_mem_cons.mp hKeeps
      rw [List.map_cons, performAll, after_cons]
      refine (ih hRest (s := { s with buffer := (s.buffer.insertLine t following back).buffer })
        (perform_inRange codecs store (.insertLine t following back) h)).trans ?_
      simp only [hFirst s.buffer h, Buffer.withBlock_insertLine, List.map_cons]

/-- Lines that are put in one by one are a block below the cursor, in their order. All of them are
indented as the line that was below the cursor, but for some characters at its end; or as the line
the cursor was on, if none of them brings blanks of its own. -/
theorem block_keeps_order_and_indent (codecs : Registry) (store : Store) {s : Session}
    (h : s.buffer.InRange) (ts : List Text) :
    let b := s.buffer
    (b.below : Int) = min (b.position + 1) b.size ∧
      (∀ back : Nat,
        s.after (s.performAll codecs store (ts.map fun t => .insertLine t true back)) =
        { s with
          buffer := b.withBlock (ts.map ((b.indentAt (b.position + 1)).rdrop back ++ ·)) }) ∧
      ((∀ t ∈ ts, ∀ c ∈ t.head?, Text.isBlank c = false) →
        s.after (s.performAll codecs store (ts.map fun t => .insertLine t false 0)) =
          { s with buffer := b.withBlock (ts.map (b.indentAt b.position ++ ·)) }) := by
  intro b
  refine ⟨?_, fun back => ?_, fun hBare => ?_⟩
  · obtain ⟨hLow, hHigh⟩ := h
    simp only [Buffer.below, b]
    omega
  · rw [after_insertLines (fun t _ b hb => Buffer.copiedIndent_insertLine_following hb t back)
      codecs store h, Buffer.copiedIndent_eq]
    rfl
  · have hCopied : b.copiedIndent false 0 = b.indentAt b.position :=
      (b.copiedIndent_eq false 0).trans (List.rdrop_zero _)
    rw [after_insertLines (fun t ht b _ => b.copiedIndent_insertLine (hBare t ht)) codecs store h,
      hCopied]

/-- A session on two lines, with the cursor on the one that is indented less. -/
def nested : Session :=
  ⟨.ofLines [.plain "  if a:".toList, ⟨"\t    b() # c".toList, "\t    b()    ".toList⟩], none,
    .null, .ofDelimiters .standard, []⟩

/-- An empty line and a call, put in like the line below and like the line above. -/
theorem call_put_in_nested :
    let ts := [[], "d()".toList]
    let behind (ops : List Operation) := nested.after (nested.performAll .common (.empty "/") ops)
    let inner := behind (ts.map fun t => .insertLine t true 2)
    let outer := behind (ts.map fun t => .insertLine t false 0)
    inner.buffer.position = 2 ∧ inner.buffer.texts =
        ["  if a:".toList, "\t  ".toList, "\t  d()".toList, "\t    b() # c".toList] ∧
      outer.buffer.position = 2 ∧ outer.buffer.texts =
        ["  if a:".toList, "  ".toList, "  d()".toList, "\t    b() # c".toList] := by
  have hRange : nested.buffer.InRange := ⟨by decide, by decide⟩
  intro ts behind inner outer
  have hBare : ∀ t ∈ ts, ∀ c ∈ t.head?, Text.isBlank c = false := by
    refine List.forall_mem_cons.mpr ⟨nofun, List.forall_mem_cons.mpr ⟨fun c hCall => ?_, nofun⟩⟩
    obtain rfl : 'd' = c := Option.some.inj hCall
    decide
  obtain ⟨-, hInner, hOuter⟩ := block_keeps_order_and_indent .common (.empty "/") hRange ts
  rw [show inner = _ from hInner 2, show outer = _ from hOuter hBare]
  decide +kernel

end Session

end Sightline
