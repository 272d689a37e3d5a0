import Mathlib.Tactic.SplitIfs
import Sightline.Store

/-! A store after a file has been written. Nothing but the content of that file is
another one; so every path that leads to some place still leads there, and the path
the file was opened by leads to what has been written. -/
namespace Sightline.Store

theorem content?_put (store : Store) (here there : Location) (content : Bytes) :
    (store.put here content).content? there =
      if there = here then some content else store.content? there := by
  rw [put]
  split
  next hSome =>
    have hKey (file : Location × Bytes) :
        (if file.1 == here then (here, content) else file).1 = file.1 := by
      split
      next hHere => exact (beq_iff_eq.mp hHere).symm
      · rfl
    simp only [content?, List.find?_map, Function.comp_def, hKey, Option.map_map] at hSome ⊢
    cases hFind : store.files.find? fun file => file.1 == there with
    | none =>
        have hThere : there ≠ here := by
          rintro rfl
          simp [hFind] at hSome
        simp [hThere]
    | some file =>
        have hThere : file.1 = there := by simpa using List.find?_some hFind
        subst hThere
        split_ifs with hHere <;> simp [hHere]
  next hNone =>
    simp only [content?, Option.isSome_map, Bool.not_eq_true, Option.isSome_eq_false_iff,
      Option.isNone_iff_eq_none] at hNone ⊢
    rw [List.find?_append, List.find?_singleton]
    by_cases hThere : there = here
    · subst hThere
      simp [hNone]
    · simp [hThere, Ne.symm hThere]

@[simp] theorem directories_put (store : Store) (here : Location) (content : Bytes) :
    (store.put here content).directories = store.directories := by
  rw [put]
  split <;> rfl

@[simp] theorem top_put (store : Store) (here : Location) (content : Bytes) :
    (store.put here content).top = store.top := by
  rw [put]
  split <;> rfl

@[simp] theorem relative_put (store : Store) (here : Location) (content : Bytes)
    (path : String) : (store.put here content).relative path = store.relative path := by
  rw [relative, relative, top_put]

variable {store : Store} {here : Location}

/-- Where no directory is in the way, there is a file with the new content, and
everything else is in its place. -/
theorem entry?_put (h : store.entry? here ≠ some .directory) (content : Bytes)
    (there : Location) : Store.entry? (store.put here content) there =
      if there = here then some (.file content) else store.entry? there := by
  simp only [ entry?, directories_put, content?_put] at h ⊢
  by_cases hThere : there = here
  · subst hThere
    simp only [if_true, Option.map_some]
    split_ifs at h ⊢ with hDirectory
    · exact absurd rfl h
    · rfl
  · rw [if_neg hThere, if_neg hThere]

/-- A path that leads to a place leads there still. -/
theorem follow_put (h : store.entry? here ≠ some .directory) (content : Bytes) {path : String}
    {pieces : List String} {start goal : Location}
    (hFollow : store.follow path start pieces = .ok goal) :
    (store.put here content).follow path start pieces = .ok goal := by
  induction pieces generalizing start with
  | nil => exact hFollow
  | cons piece pieces ih =>
      rw [follow] at hFollow ⊢
      cases hEntry : store.entry? start with
      | none => simp [hEntry] at hFollow
      | some entry =>
          cases entry with
          | file old => simp [hEntry] at hFollow
          | directory =>
              have hStart : start ≠ here := by
                rintro rfl
                exact h hEntry
              rw [entry?_put h, if_neg hStart, hEntry]
              simp only [hEntry] at hFollow ⊢
              split_ifs at hFollow ⊢
              all_goals exact ih hFollow

theorem locate_put (h : store.entry? here ≠ some .directory) (content : Bytes) {path : String}
    {goal : Location} (hLocate : store.locate path = .ok goal) :
    (store.put here content).locate path = .ok goal := by
  simp only [locate, locateBy, relative_put] at hLocate ⊢
  split at hLocate
  · cases hLocate
  · split_ifs at hLocate ⊢
    · exact hLocate
    · exact follow_put h content hLocate

/-- A file is opened for writing where the path leads, if no directory is there. -/
theorem openForWriting_eq_ok {path : String} (h : store.openForWriting path = .ok here) :
    store.locate path = .ok here ∧ store.entry? here ≠ some .directory := by
  rw [openForWriting] at h
  split_ifs at h
  · cases hLocate : store.locateBy Path.directoryPieces path <;> simp [hLocate] at h
  · split at h
    · cases h
    · split at h
      · cases h
      next hLocate _ hEntry =>
        cases h
        exact ⟨hLocate, hEntry⟩

/-- What has been written is read again. -/
theorem read_put {path : String} (h : store.openForWriting path = .ok here) (content : Bytes) :
    (store.put here content).read path = .ok content := by
  obtain ⟨hLocate, hEntry⟩ := openForWriting_eq_ok h
  rw [read, openFile, locate_put hEntry content hLocate]
  simp only [entry?_put hEntry, if_true]
  rfl

/-- Of two writes to one place the second one stays. -/
theorem put_put (store : Store) (here : Location) (first second : Bytes) :
    (store.put here first).put here second = store.put here second := by
  have hSome : ((store.put here first).content? here).isSome := by
    rw [content?_put, if_pos rfl]
    rfl
  rw [put, if_pos hSome, put, put]
  split
  next hOld =>
    simp only [List.map_map, mk.injEq, true_and]
    refine List.map_congr_left fun file _ => ?_
    by_cases hFile : file.1 = here <;> simp [hFile]
  next hOld =>
    simp only [content?, Option.isSome_map, Bool.not_eq_true, Option.isSome_eq_false_iff,
      Option.isNone_iff_eq_none, List.find?_eq_none, beq_iff_eq] at hOld
    simp only [List.map_append, List.map_cons, beq_self_eq_true, if_true, List.map_nil, mk.injEq,
      true_and, List.append_cancel_right_eq]
    refine (List.map_congr_left fun file hFile => ?_).trans (List.map_id store.files)
    simp [hOld file hFile]

/-- A path that is open for writing still is when the file is there. -/
theorem openForWriting_put {path : String} (h : store.openForWriting path = .ok here)
    (content : Bytes) : (store.put here content).openForWriting path = .ok here := by
  obtain ⟨hLocate, hEntry⟩ := openForWriting_eq_ok h
  rw [openForWriting] at h ⊢
  split at h
  · cases hPlace : store.locateBy Path.directoryPieces path <;> simp [hPlace] at h
  next hSlash =>
    rw [if_neg hSlash, locate_put hEntry content hLocate]
    simp [entry?_put hEntry]

/-- An empty piece at the end of a path asks for a directory. -/
theorem entry?_of_follow {path : String} {pieces : List String} {start : Location}
    (h : store.follow path start (pieces ++ [""]) = .ok here) :
    store.entry? here = some .directory := by
  induction pieces generalizing start with
  | nil =>
      rw [List.nil_append, follow] at h
      split at h
      next hStart =>
        split at h
        · cases h
        · cases h
          exact hStart
      · cases h
      · cases h
  | cons piece pieces ih =>
      rw [List.cons_append, follow] at h
      split at h
      · split_ifs at h
        all_goals exact ih h
      · cases h
      · cases h

theorem splitOn_slash (t : Text) : Text.splitOn '/' (t ++ ['/']) = Text.splitOn '/' t ++ [[]] := by
  induction t with
  | nil => rfl
  | cons c t ih =>
      rw [List.cons_append, Text.splitOn, Text.splitOn, ih]
      split
      · rfl
      · cases hPieces : Text.splitOn '/' t with
        | nil => exact absurd hPieces (Text.splitOn_ne_nil '/' t)
        | cons piece pieces => rfl

theorem exists_toList_of_endsWith {path : String} (h : path.endsWith "/" = true) :
    ∃ t, path.toList = t ++ ['/'] := by
  rw [String.endsWith_eq_endsWith_toSlice, String.Slice.endsWith_string_iff,
    String.copy_toSlice] at h
  obtain ⟨t, ht⟩ := h
  exact ⟨t, ht.symm⟩

/-- Seen from the working directory, too, such a path ends in a slash, if it goes further. -/
theorem relative_of_endsWith (store : Store) {path : String} (h : path.endsWith "/" = true) :
    store.relative path = "" ∨ store.relative path = "." ∨
      ∃ t, (store.relative path).toList = t ++ ['/'] := by
  obtain ⟨t, ht⟩ := exists_toList_of_endsWith h
  simp only [relative, ht]
  split
  · simp only [List.drop_append, String.toList_ofList]
    generalize (store.top ++ "/").toList.length = k
    by_cases hk : k ≤ t.length
    · rw [Nat.sub_eq_zero_of_le hk]
      exact .inr (.inr ⟨t.drop k, rfl⟩)
    · obtain ⟨j, hj⟩ := Nat.exists_eq_add_of_lt (Nat.lt_of_not_le hk)
      refine .inl ?_
      rw [List.drop_eq_nil_of_le (by omega), List.drop_eq_nil_of_le (by simp; omega)]
      rfl
  · split
    · exact .inr (.inl rfl)
    · exact .inr (.inr ⟨t, ht⟩)

/-- A path with a slash behind its last name leads to directories only. -/
theorem entry?_of_endsWith {path : String} (hSlash : path.endsWith "/" = true)
    (h : store.locate path = .ok here) : store.entry? here = some .directory := by
  have hWork : store.entry? [] = some .directory := rfl
  have hAbove : store.entry? [".."] = some .directory := rfl
  rw [locate, locateBy] at h
  split at h
  · cases h
  · obtain hInner | hInner | ⟨t, ht⟩ := relative_of_endsWith store hSlash
    · simp [hInner] at h
    · have hPieces : Path.pieces (store.relative path) = ["."] := by
        rw [hInner]
        rfl
      rw [if_neg (by simp [hInner]), if_neg (by simp [hInner]), hPieces] at h
      cases h
      exact hWork
    · dsimp only at h
      split_ifs at h with hEmpty hRoot hSteps
      · cases h
        exact hAbove
      · have hPieces : Path.pieces (store.relative path) =
            (Text.splitOn '/' t).map String.ofList ++ [""] := by
          rw [Path.pieces, ht, splitOn_slash, List.map_append]
          rfl
        rw [id, hPieces] at h
        exact entry?_of_follow h

/-- A file that can be read can be written. -/
theorem exists_openForWriting {path : String} {content : Bytes}
    (h : store.read path = .ok content) : ∃ here, store.openForWriting path = .ok here := by
  rw [read, openFile] at h
  cases hLocate : store.locate path with
  | error fault => simp [hLocate, Except.map] at h
  | ok here =>
      simp only [hLocate] at h
      cases hEntry : store.entry? here with
      | none => simp [hEntry, Except.map] at h
      | some entry =>
          cases entry with
          | directory => simp [hEntry, Except.map] at h
          | file old =>
              have hSlash : ¬path.endsWith "/" = true := by
                intro hSlash
                simp [entry?_of_endsWith hSlash hLocate] at hEntry
              refine ⟨here, ?_⟩
              rw [openForWriting, if_neg hSlash, hLocate]
              simp [hEntry]

end Sightline.Store
