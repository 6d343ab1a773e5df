import Mathlib.Data.List.Basic
import Mathlib.Order.MinMax

/-!
# `Cursor` — reading a list from a position

A cursor is a list with a position in it. Reading takes what is left, up to a count, and moves the position behind it;
seeking puts the position anywhere in the list. What was read and what is left are together what was left before
(`read_append_rest`), so reads in a row give the list piece by piece.
-/

namespace Lib

variable {α : Type _}

structure Cursor (α : Type _) where
  data : List α
  position : Nat
  le : position ≤ data.length

namespace Cursor

theorem ext_position {c c' : Cursor α} (hdata : c.data = c'.data) (hposition : c.position = c'.position) : c = c' := by
  cases c
  cases c'
  cases hdata
  cases hposition
  rfl

variable (c : Cursor α) (n : Nat)

/-- What is left to read. -/
def rest : List α := c.data.drop c.position

@[simp] theorem length_rest : c.rest.length = c.data.length - c.position := List.length_drop

/-- Up to `n` elements, and the cursor behind them. -/
def read (n : Nat) : List α × Cursor α :=
  (c.rest.take n,
    { data := c.data
      position := c.position + min n (c.data.length - c.position)
      le := by
        have hle := c.le
        have hmin := Nat.min_le_right n (c.data.length - c.position)
        omega })

/-- The cursor at `n`, or at the end. -/
def seek (n : Nat) : Cursor α := ⟨c.data, min n c.data.length, Nat.min_le_right _ _⟩

@[simp] theorem data_read : (c.read n).2.data = c.data := rfl

@[simp] theorem data_seek : (c.seek n).data = c.data := rfl

theorem length_read : (c.read n).1.length = min n (c.data.length - c.position) := by
  rw [read, List.length_take, length_rest]

/-- The position moves by what was read. -/
theorem position_read : (c.read n).2.position = c.position + (c.read n).1.length := by
  rw [length_read]
  rfl

theorem rest_read : (c.read n).2.rest = c.rest.drop n := by
  have hlength := c.length_rest
  show c.data.drop (c.position + min n (c.data.length - c.position)) = (c.data.drop c.position).drop n
  rw [List.drop_drop]
  rcases Nat.le_total n (c.data.length - c.position) with hle | hge
  · rw [Nat.min_eq_left hle]
  · have hend := c.le
    rw [Nat.min_eq_right hge, List.drop_of_length_le (by omega), List.drop_of_length_le (by omega)]

/-- **Nothing is skipped or repeated.** -/
theorem read_append_rest : (c.read n).1 ++ (c.read n).2.rest = c.rest := by
  rw [rest_read]
  exact List.take_append_drop n c.rest

/-- A read that gives nothing does not move. -/
theorem read_of_nil {c : Cursor α} {n : Nat} (h : (c.read n).1 = []) : (c.read n).2 = c := by
  refine ext_position rfl ?_
  rw [position_read, h]
  rfl

/-- A read that gives something moves. -/
theorem read_ne {c : Cursor α} {n : Nat} (h : (c.read n).1 ≠ []) : (c.read n).2 ≠ c := by
  intro heq
  have hposition := congrArg position heq
  rw [position_read] at hposition
  have hpos := List.length_pos_iff.mpr h
  omega

end Cursor

end Lib
