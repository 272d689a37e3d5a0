import Sightline.Proofs.Store.Put

/-! Paths without the null character. Such a path can only be refused for what the store has or
does not have, and the paths that are made from it are without one as well. -/
namespace Sightline

namespace Path

/-- The character with number zero is not in a path. -/
def NullFree (path : String) : Prop := Char.ofNat 0 ∉ path.toList

variable {path : String}

theorem nullFree_iff : NullFree path ↔ Text.holdsNull path.toList = false := by
  rw [NullFree, Text.holdsNull, ← Bool.not_eq_true, List.contains_iff_mem]

theorem NullFree.of_subset {part : Text} (h : NullFree path) (hPart : part ⊆ path.toList) :
    NullFree (String.ofList part) := by
  rw [NullFree, String.toList_ofList]
  exact fun hNull => h (hPart hNull)

theorem NullFree.append {rest : String} (h : NullFree path) (hRest : NullFree rest) :
    NullFree (path ++ rest) := by
  rw [NullFree, String.toList_append, List.mem_append]
  exact fun hNull => hNull.elim h hRest

/-- The pieces of a text have no characters of their own. -/
theorem subset_of_mem_splitOn {separator : Char} {s piece : Text}
    (h : piece ∈ Text.splitOn separator s) : piece ⊆ s := by
  induction s generalizing piece with
  | nil =>
      rw [Text.splitOn, List.mem_singleton] at h
      exact h ▸ List.Subset.refl _
  | cons c rest ih =>
      rw [Text.splitOn] at h
      split_ifs at h
      · obtain rfl | hPiece := List.mem_cons.mp h
        · exact List.nil_subset _
        · exact List.subset_cons_of_subset c (ih hPiece)
      · obtain ⟨first, pieces, hPieces⟩ :=
          List.exists_cons_of_ne_nil (Text.splitOn_ne_nil separator rest)
        rw [hPieces] at h ih
        obtain rfl | hPiece := List.mem_cons.mp h
        · exact List.cons_subset_cons c (ih List.mem_cons_self)
        · exact List.subset_cons_of_subset c (ih (List.mem_cons_of_mem _ hPiece))

theorem NullFree.of_mem_pieces {piece : String} (h : NullFree path) (hPiece : piece ∈ pieces path) :
    NullFree piece := by
  obtain ⟨part, hPart, rfl⟩ := List.mem_map.mp hPiece
  exact h.of_subset (subset_of_mem_splitOn hPart)

/-- The part of a path in front of its last slash is without the character. -/
theorem NullFree.directory (h : NullFree path) : NullFree (directory path) := by
  have hHead : path.toList.reverse.dropWhile (· != '/') ⊆ path.toList := fun c hc =>
    List.mem_reverse.mp ((List.dropWhile_sublist _).subset hc)
  refine h.of_subset ?_
  split_ifs
  · exact fun c hc => hHead (List.mem_reverse.mp hc)
  · exact fun c hc => hHead ((List.dropWhile_sublist _).subset (List.mem_reverse.mp hc))

theorem foldl_subset {f : List String → String → List String}
    (h : ∀ done step, f done step ⊆ step :: done) (steps done : List String) :
    steps.foldl f done ⊆ steps ++ done := by
  induction steps generalizing done with
  | nil => exact List.Subset.refl _
  | cons step rest ih =>
      refine List.Subset.trans (ih _) fun x hx => ?_
      rw [List.cons_append, List.mem_cons, List.mem_append]
      obtain hRest | hDone := List.mem_append.mp hx
      · exact .inr (.inl hRest)
      · exact (List.mem_cons.mp (h done step hDone)).imp_right .inr

/-- Taking steps back out brings no new step. -/
theorem collapse_subset (steps : List String) : collapse steps ⊆ steps := by
  intro x hx
  rw [collapse, List.mem_reverse] at hx
  rw [← List.append_nil steps]
  refine foldl_subset (fun done step => ?_) steps [] hx
  split
  · split_ifs
    · exact List.Subset.refl _
    · exact List.subset_cons_of_subset _ (List.subset_cons_self _ _)
  · exact List.Subset.refl _

theorem mem_intersperse {between part : Text} {parts : List Text}
    (h : part ∈ parts.intersperse between) : part = between ∨ part ∈ parts := by
  induction parts with
  | nil => exact .inr h
  | cons x rest ih =>
      cases rest with
      | nil => exact .inr h
      | cons y rest =>
          rw [List.intersperse_cons_cons] at h
          obtain rfl | h := List.mem_cons.mp h
          · exact .inr List.mem_cons_self
          · obtain rfl | h := List.mem_cons.mp h
            · exact .inl rfl
            · exact (ih h).imp_right (List.mem_cons_of_mem x)

theorem nullFree_ofSteps {steps : List String} (h : ∀ step ∈ steps, NullFree step) :
    NullFree (ofSteps steps) := by
  intro hNull
  rw [ofSteps, String.toList_intercalate] at hNull
  obtain ⟨part, hPart, hNull⟩ := List.mem_flatten.mp hNull
  obtain rfl | hPart := mem_intersperse hPart
  · revert hNull
    decide +kernel
  · obtain ⟨step, hStep, rfl⟩ := List.mem_map.mp hPart
    exact h step hStep hNull

theorem nullFree_root (path : String) : NullFree (root path) := by
  rw [root]
  split
  all_goals
    rw [nullFree_iff]
    decide +kernel

end Path

namespace Store
open Sightline.Path

variable {store : Store} {path : String}

theorem refusal?_ne_nullCharacter (h : NullFree path) : refusal? path ≠ some .nullCharacter := by
  rw [refusal?, nullFree_iff.mp h, if_neg Bool.false_ne_true]
  split_ifs <;> simp

theorem follow_ne_nullCharacter (store : Store) (path : String) (here : Location)
    (pieces : List String) : store.follow path here pieces ≠ .error .nullCharacter := by
  induction pieces generalizing here with
  | nil => simp [follow]
  | cons piece rest ih =>
      rw [follow]
      split
      · split_ifs
        · simp
        all_goals exact ih _
      · simp
      · simp

theorem locateBy_ne_nullCharacter (store : Store) (h : NullFree path)
    (pick : List String → List String) :
    store.locateBy pick path ≠ .error .nullCharacter := by
  rw [locateBy]
  split
  next fault hFault => exact fun hNull => refusal?_ne_nullCharacter h (by cases hNull; exact hFault)
  next =>
    dsimp only
    split_ifs
    · simp
    · simp
    · simp
    · exact follow_ne_nullCharacter _ _ _ _

theorem openForWriting_ne_nullCharacter (store : Store) (h : NullFree path) :
    store.openForWriting path ≠ .error .nullCharacter := by
  rw [openForWriting]
  split_ifs
  · have hLocate := locateBy_ne_nullCharacter store h directoryPieces
    cases hPlace : store.locateBy directoryPieces path with
    | ok here => simp
    | error fault => simpa [hPlace] using hLocate
  · have hLocate := locateBy_ne_nullCharacter store h id
    rw [← locate] at hLocate
    cases hPlace : store.locate path with
    | error fault => simpa [hPlace] using hLocate
    | ok here =>
        dsimp only
        split <;> simp

theorem makeDirectory_ne_nullCharacter (store : Store) (h : NullFree path) :
    store.makeDirectory path ≠ .error .nullCharacter := by
  have hLocate := locateBy_ne_nullCharacter store h id
  rw [← locate] at hLocate
  rw [makeDirectory]
  cases hPlace : store.locate path with
  | error fault => simpa [hPlace] using hLocate
  | ok here =>
      dsimp only
      split_ifs <;> simp

theorem top_makeDirectory {made : Store} (h : store.makeDirectory path = .ok made) :
    made.top = store.top := by
  rw [makeDirectory] at h
  split at h
  · cases h
  · split_ifs at h
    cases h
    rfl

theorem nullFree_relative (h : NullFree path) : NullFree (store.relative path) := by
  rw [relative]
  split_ifs
  · exact h.of_subset (List.drop_subset _ _)
  · rw [nullFree_iff]
    decide +kernel
  · exact h

/-- The full path is without the character if the path and the working directory are. -/
theorem nullFree_fullPath (hTop : NullFree store.top) (h : NullFree path) :
    NullFree (store.fullPath path) := by
  have hSteps : ∀ step ∈ collapse (steps (store.relative path)), NullFree step :=
    fun step hStep =>
      (nullFree_relative h).of_mem_pieces (List.mem_filter.mp (collapse_subset _ hStep)).1
  rw [fullPath]
  split_ifs
  · exact (nullFree_root _).append (nullFree_ofSteps fun step hStep =>
      hSteps step ((List.dropWhile_sublist _).subset hStep))
  · exact nullFree_ofSteps (List.forall_mem_cons.mpr ⟨hTop, hSteps⟩)

end Store

end Sightline
