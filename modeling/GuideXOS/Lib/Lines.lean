import Mathlib.Data.List.DropRight

/-!
# `Lines` — a text kept as lines

Lines that are complete, each without its separator, and the text they stand for. Dropping the oldest lines leaves a
suffix that starts where a line starts. The last part of a text is collected from the back, one piece after another.
-/

namespace Lib.Lines

variable {α : Type _} {sep : α}

/-- The text of complete lines: a separator after each. -/
def joined (sep : α) (lines : List (List α)) : List α := lines.flatMap (· ++ [sep])

@[simp] theorem joined_nil : joined sep [] = [] := rfl

@[simp] theorem joined_cons (line : List α) (lines : List (List α)) :
    joined sep (line :: lines) = line ++ [sep] ++ joined sep lines := rfl

@[simp] theorem joined_append (lines lines' : List (List α)) :
    joined sep (lines ++ lines') = joined sep lines ++ joined sep lines' := List.flatMap_append

theorem joined_singleton (line : List α) : joined sep [line] = line ++ [sep] := by
  rw [joined_cons, joined_nil, List.append_nil]

/-- Complete lines: no text, or one that ends with the separator. -/
def Complete (sep : α) (text : List α) : Prop := text = [] ∨ text.getLast? = some sep

theorem complete_concat (text : List α) : Complete sep (text ++ [sep]) := .inr List.getLast?_concat

theorem complete_joined (lines : List (List α)) : Complete sep (joined sep lines) := by
  induction lines using List.reverseRecOn with
  | nil => exact .inl rfl
  | append_singleton lines line _ =>
      rw [joined_append, joined_singleton, ← List.append_assoc]
      exact complete_concat _

/-- What is kept of a text when its oldest lines are dropped. -/
def StartsALine (sep : α) (whole kept : List α) : Prop := ∃ before, whole = before ++ kept ∧ Complete sep before

theorem StartsALine.refl (text : List α) : StartsALine sep text text := ⟨[], rfl, .inl rfl⟩

theorem StartsALine.append {whole kept : List α} (h : StartsALine sep whole kept) (more : List α) :
    StartsALine sep (whole ++ more) (kept ++ more) := by
  obtain ⟨before, rfl, hbefore⟩ := h
  exact ⟨before, List.append_assoc .., hbefore⟩

/-- Dropping more lines. -/
theorem StartsALine.drop {whole : List α} {lines : List (List α)} (h : StartsALine sep whole (joined sep lines))
    (n : ℕ) : StartsALine sep whole (joined sep (lines.drop n)) := by
  obtain ⟨before, rfl, hbefore⟩ := h
  refine ⟨before ++ joined sep (lines.take n), ?_, ?_⟩
  · rw [List.append_assoc, ← joined_append, List.take_append_drop]
  · rcases (complete_joined (lines.take n) : Complete sep _) with hnone | hlast
    · rwa [hnone, List.append_nil]
    · refine .inr ?_
      rw [List.getLast?_append, hlast]
      rfl

/-- A suffix that is not empty ends as the whole does. -/
theorem StartsALine.getLast? {whole kept : List α} (h : StartsALine sep whole kept) (hne : kept ≠ []) :
    whole.getLast? = kept.getLast? := by
  obtain ⟨before, rfl, -⟩ := h
  rw [List.getLast?_append, List.getLast?_eq_some_getLast hne]
  rfl

/-! ## The last part of a text -/

/-- The last part of two pieces: all of the second, and the last part of the first, or the last part of the second. -/
theorem rtake_append (n : ℕ) (l l' : List α) : (l ++ l').rtake n = l.rtake (n - l'.length) ++ l'.rtake n := by
  unfold List.rtake
  rw [List.drop_append, List.length_append]
  rcases Nat.le_total n l'.length with hle | hle
  · -- the second piece is long enough
    rw [Nat.sub_eq_zero_of_le hle, Nat.sub_zero, List.drop_length, List.drop_eq_nil_of_le (by omega)]
    congr 2
    omega
  · rw [Nat.sub_eq_zero_of_le hle]
    congr 2 <;> omega

theorem rtake_of_length_le {n : ℕ} {l : List α} (h : l.length ≤ n) : l.rtake n = l := by
  rw [List.rtake, Nat.sub_eq_zero_of_le h, List.drop_zero]

end Lib.Lines
