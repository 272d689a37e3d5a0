import Mathlib.Data.List.Basic

/-! Ordinary replacement in a list. One pass from left to right puts `new` in place of every
`old`; where it has put something in, it does not look again. If nothing of `new` was there
before, the pass that puts `old` in place of `new` undoes it. -/
namespace Sightline.Text
variable {α β : Type} [DecidableEq α] [DecidableEq β] {old new front s : List α}

/-- A list with `new` in place of every `old`, once `pass` members are passed. -/
def replaceFrom (old new : List α) : (pass : Nat) → List α → List α
  | _, [] => []
  | pass + 1, _ :: s => replaceFrom old new pass s
  | 0, a :: s =>
    if old <+: a :: s then new ++ replaceFrom old new (old.length - 1) s
    else a :: replaceFrom old new 0 s

/-- A list with `new` in place of every `old`, from left to right and without overlap. -/
def replaceAll (old new s : List α) : List α := replaceFrom old new 0 s

theorem replaceFrom_append (passed s : List α) :
    replaceFrom old new passed.length (passed ++ s) = replaceAll old new s := by
  induction passed with
  | nil => rfl
  | cons a passed ih => exact ih

theorem replaceAll_append (hOld : old ≠ []) (s : List α) :
    replaceAll old new (old ++ s) = new ++ replaceAll old new s := by
  obtain ⟨a, rest, rfl⟩ := List.exists_cons_of_ne_nil hOld
  have hHere : a :: rest <+: a :: (rest ++ s) := List.prefix_append (a :: rest) s
  have hRest : replaceFrom (a :: rest) new ((a :: rest).length - 1) (rest ++ s) =
      replaceAll (a :: rest) new s := replaceFrom_append rest s
  rw [replaceAll, List.cons_append, replaceFrom, if_pos hHere, hRest]

theorem replaceAll_cons {a : α} (h : ¬old <+: a :: s) :
    replaceAll old new (a :: s) = a :: replaceAll old new s := by
  rw [replaceAll, replaceFrom, if_neg h]
  rfl

/-- Members at which no `old` starts are kept. -/
theorem replaceAll_behind (h : ∀ k < front.length, ¬old <+: (front ++ s).drop k) :
    replaceAll old new (front ++ s) = front ++ replaceAll old new s := by
  induction front with
  | nil => rfl
  | cons a front ih =>
      have hHere : ¬old <+: a :: (front ++ s) := h 0 (Nat.succ_pos _)
      rw [List.cons_append, replaceAll_cons hHere,
        ih fun k hk => h (k + 1) (Nat.succ_lt_succ hk), List.cons_append]

theorem replaceAll_eq_self (h : ∀ k, ¬old <+: s.drop k) : replaceAll old new s = s := by
  have hKept : replaceAll old new (s ++ []) = s ++ replaceAll old new [] :=
    replaceAll_behind fun k _ => by
      rw [List.append_nil]
      exact h k
  rwa [replaceAll, replaceAll, replaceFrom, List.append_nil] at hKept

/-- A pass over a list takes every `old` it comes to as a whole, and any other member alone. -/
@[elab_as_elim]
theorem pass_induction {motive : List α → Prop} (old : List α) (hOld : old ≠ [])
    (nil : motive []) (hit : ∀ s, motive s → motive (old ++ s))
    (skip : ∀ a s, ¬old <+: a :: s → motive s → motive (a :: s)) (s : List α) : motive s := by
  induction hLength : s.length using Nat.strongRecOn generalizing s with
  | ind n ih =>
      subst hLength
      cases s with
      | nil => exact nil
      | cons a s =>
          by_cases hHere : old <+: a :: s
          · obtain ⟨rest, hRest⟩ := hHere
            have hShorter : rest.length < (a :: s).length := by
              have hPos := List.length_pos_iff.mpr hOld
              rw [← hRest, List.length_append]
              omega
            rw [← hRest]
            exact hit rest (ih _ hShorter rest rfl)
          · exact skip a s hHere (ih _ (Nat.lt_succ_self _) s rfl)

/-- What is put in place of `old` is found again, if nothing of it was there before. -/
theorem replaceAll_replaceAll (hOld : old ≠ []) (hNew : new ≠ []) (hFresh : ∀ a ∈ new, a ∉ s) :
    replaceAll new old (replaceAll old new s) = s := by
  induction s using pass_induction old hOld with
  | nil => rfl
  | hit s ih =>
      have hRest : ∀ a ∈ new, a ∉ s := fun a ha hs => hFresh a ha (List.mem_append_right old hs)
      rw [replaceAll_append hOld, replaceAll_append hNew, ih hRest]
  | skip a s hHere ih =>
      have hRest : ∀ b ∈ new, b ∉ s := fun b hb hs => hFresh b hb (List.mem_cons_of_mem a hs)
      have hNot : ¬new <+: a :: replaceAll old new s := by
        obtain ⟨b, rest, rfl⟩ := List.exists_cons_of_ne_nil hNew
        intro hStarts
        obtain ⟨rfl, -⟩ := List.cons_prefix_cons.mp hStarts
        exact hFresh b List.mem_cons_self List.mem_cons_self
      rw [replaceAll_cons hHere, replaceAll_cons hNot, ih hRest]

/-- Renaming the members one for one makes no difference to a pass. -/
theorem replaceAll_map {f : α → β} (hf : f.Injective) (hOld : old ≠ []) (s : List α) :
    replaceAll (old.map f) (new.map f) (s.map f) = (replaceAll old new s).map f := by
  have hSome : old.map f ≠ [] := mt List.map_eq_nil_iff.mp hOld
  induction s using pass_induction old hOld with
  | nil => rfl
  | hit s ih =>
      rw [List.map_append, replaceAll_append hSome, ih, replaceAll_append hOld, List.map_append]
  | skip a s hHere ih =>
      have hNot : ¬old.map f <+: f a :: s.map f := by
        rw [← List.map_cons, List.prefix_map_iff]
        rintro ⟨start, hStart, hSame⟩
        rw [List.map_injective_iff.mpr hf hSame] at hHere
        exact hHere hStart
      rw [List.map_cons, replaceAll_cons hNot, ih, replaceAll_cons hHere, List.map_cons]

end Sightline.Text
