import Mathlib.Order.Lattice

/-!
# `Selection` — the first greatest eligible element of a queue

A scheduler that serves the greatest eligible request walks its queue once and keeps the position of the
best request so far, replacing it only by a strictly greater one. `scanGreatest_some` and
`scanGreatest_none` say what the walk returns.
-/

namespace Lib.Selection

variable {α : Type _} [LinearOrder α] {eligible : α → Bool} {best : Option (Nat × α)}

/-- The best request so far, after the request at position `i`. -/
def consider (eligible : α → Bool) (i : Nat) (best : Option (Nat × α)) (x : α) : Option (Nat × α) :=
  if eligible x && (best.all fun b => b.2 < x) then some (i, x) else best

/-- The walk: `i` is the position of the head of the list, `best` the best request before it. -/
def scanGreatest (eligible : α → Bool) : Nat → Option (Nat × α) → List α → Option (Nat × α)
  | _, best, [] => best
  | i, best, x :: xs => scanGreatest eligible (i + 1) (consider eligible i best x) xs

/-- What is known of the best request of the prefix `pre`. -/
def BestOf (eligible : α → Bool) (pre : List α) : Option (Nat × α) → Prop
  | none => ∀ y ∈ pre, eligible y = false
  | some (i, x) => pre[i]? = some x ∧ eligible x = true ∧ ∀ y ∈ pre, eligible y = true → y ≤ x

/-- One step of the walk. -/
theorem bestOf_consider {pre : List α} (h : BestOf eligible pre best) (x : α) :
    BestOf eligible (pre ++ [x]) (consider eligible pre.length best x) := by
  unfold consider
  cases best with
  | none =>
      cases hx : eligible x with
      | false =>
          rw [if_neg (by simp)]
          intro y hy
          rcases List.mem_append.mp hy with hy | hy
          · exact h y hy
          · rw [List.mem_singleton.mp hy, hx]
      | true =>
          rw [if_pos (by simp)]
          refine ⟨by simp, hx, fun y hy hey => ?_⟩
          rcases List.mem_append.mp hy with hy | hy
          · exact absurd hey (by rw [h y hy]; simp)
          · exact le_of_eq (List.mem_singleton.mp hy)
  | some b =>
      obtain ⟨i, z⟩ := b
      obtain ⟨hz, hez, hmax⟩ := h
      have hi : i < pre.length := (List.getElem?_eq_some_iff.mp hz).1
      by_cases hx : eligible x = true ∧ z < x
      · rw [if_pos (by simp [hx])]
        refine ⟨by simp, hx.1, fun y hy hey => ?_⟩
        rcases List.mem_append.mp hy with hy | hy
        · exact le_trans (hmax y hy hey) (le_of_lt hx.2)
        · exact le_of_eq (List.mem_singleton.mp hy)
      · rw [if_neg (by simpa using hx)]
        refine ⟨by rw [List.getElem?_append_left hi, hz], hez, fun y hy hey => ?_⟩
        rcases List.mem_append.mp hy with hy | hy
        · exact hmax y hy hey
        · rw [List.mem_singleton.mp hy] at hey ⊢
          exact not_lt.mp fun hlt => hx ⟨hey, hlt⟩

theorem bestOf_scanGreatest {pre : List α} (h : BestOf eligible pre best) (xs : List α) :
    BestOf eligible (pre ++ xs) (scanGreatest eligible pre.length best xs) := by
  induction xs generalizing pre best with
  | nil =>
      rw [List.append_nil]
      exact h
  | cons x xs ih =>
      have hstep := ih (bestOf_consider h x)
      rw [List.length_append, List.length_singleton, List.append_assoc] at hstep
      exact hstep

theorem bestOf_none_nil (eligible : α → Bool) : BestOf eligible [] none :=
  fun _ hy => absurd hy List.not_mem_nil

/-- **What is selected.** The request at the returned position; it is eligible, and none that is eligible
    is greater. -/
theorem scanGreatest_some {xs : List α} {i : Nat} {x : α} (h : scanGreatest eligible 0 none xs = some (i, x)) :
    xs[i]? = some x ∧ eligible x = true ∧ ∀ y ∈ xs, eligible y = true → y ≤ x := by
  have hb := bestOf_scanGreatest (bestOf_none_nil eligible) xs
  rw [List.length_nil, h] at hb
  exact hb

/-- **When nothing is.** -/
theorem scanGreatest_none {xs : List α} (h : scanGreatest eligible 0 none xs = none) :
    ∀ y ∈ xs, eligible y = false := by
  have hb := bestOf_scanGreatest (bestOf_none_nil eligible) xs
  rw [List.length_nil, h] at hb
  exact hb

end Lib.Selection
