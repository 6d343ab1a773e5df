import Mathlib.Data.List.Induction

/-!
# `Unwinding` — leaving a stack through an entry below its top

A return that skips frames looks for the innermost entry it matches and drops that entry with everything above it.
`unwind` is this on a list whose innermost entry comes first. A program that keeps its stack the other way round, and
searches it from the back, does the same (`unwind_reverse`).
-/

namespace Lib.Unwinding

variable {α β : Type _} {p : α → Bool} {a : α}

/-- The innermost entry with `p`, and what lies below it. -/
def unwind (p : α → Bool) : List α → Option (α × List α)
  | [] => none
  | a :: below => if p a then some (a, below) else unwind p below

theorem unwind_cons_of_pos (h : p a = true) (below : List α) :
    unwind p (a :: below) = some (a, below) := if_pos h

theorem unwind_cons_of_neg (h : ¬ p a = true) (below : List α) :
    unwind p (a :: below) = unwind p below := if_neg h

/-- The entry found, what was dropped to reach it, and what is left. -/
theorem unwind_eq_some {l below : List α} (h : unwind p l = some (a, below)) :
    p a = true ∧ ∃ dropped, l = dropped ++ a :: below := by
  induction l with
  | nil => cases h
  | cons b rest ih =>
      by_cases hb : p b = true
      · rw [unwind_cons_of_pos hb] at h
        cases h
        exact ⟨hb, [], rfl⟩
      · rw [unwind_cons_of_neg hb] at h
        obtain ⟨ha, dropped, rfl⟩ := ih h
        exact ⟨ha, b :: dropped, rfl⟩

/-- Entries seen through a function that the search respects. -/
theorem unwind_map {q : β → Bool} {f : α → β} (hf : ∀ a, q (f a) = p a) (l : List α) :
    unwind q (l.map f) = (unwind p l).map fun e => (f e.1, e.2.map f) := by
  induction l with
  | nil => rfl
  | cons a below ih =>
      rw [List.map_cons]
      by_cases ha : p a = true
      · rw [unwind_cons_of_pos ha, unwind_cons_of_pos (by rw [hf]; exact ha)]
        rfl
      · rw [unwind_cons_of_neg ha, unwind_cons_of_neg (by rw [hf]; exact ha)]
        exact ih

/-- The search of a stack whose innermost entry comes last, by position. -/
def findLast (p : α → Bool) (l : List α) : Option (Nat × α) := (l.zipIdx.reverse.find? fun e => p e.1).map Prod.swap

theorem findLast_append_of_pos (h : p a = true) (l : List α) : findLast p (l ++ [a]) = some (l.length, a) := by
  simp [findLast, List.zipIdx_append, h]

theorem findLast_append_of_neg (h : ¬ p a = true) (l : List α) : findLast p (l ++ [a]) = findLast p l := by
  simp [findLast, List.zipIdx_append, h]

/-- **Two ways to keep a stack.** -/
theorem unwind_reverse (p : α → Bool) (l : List α) :
    unwind p l.reverse = (findLast p l).map fun e => (e.2, (l.take e.1).reverse) := by
  suffices h : ∀ rest, unwind p l.reverse = (findLast p l).map (fun e => (e.2, ((l ++ rest).take e.1).reverse)) by
    have hnil := h []
    rwa [List.append_nil] at hnil
  induction l using List.reverseRecOn with
  | nil =>
      intro rest
      rfl
  | append_singleton l a ih =>
      intro rest
      rw [List.reverse_append, List.reverse_singleton, List.singleton_append]
      by_cases ha : p a = true
      · rw [unwind_cons_of_pos ha, findLast_append_of_pos ha, Option.map_some, List.append_assoc,
          List.take_left]
      · rw [unwind_cons_of_neg ha, findLast_append_of_neg ha, List.append_assoc]
        exact ih _

end Lib.Unwinding
