import Mathlib.Data.Nat.ModEq

/-!
# `Windows` — a register file with a window that rotates

The positions `[base, base + size)` of a file form a window that can be turned: an offset is added to the number of a
register inside it, modulo the size. Turning back by one moves what register `r` named to register `r + 1`.
-/

namespace Lib.Windows

/-- Where register `i` lies when the window is turned by `offset`. -/
def turned (base size offset i : Nat) : Nat :=
  if i < base ∨ base + size ≤ i then i else base + (i - base + offset) % size

variable {base size offset i j n k : Nat}

theorem turned_outside (h : i < base ∨ base + size ≤ i) : turned base size offset i = i := if_pos h

theorem turned_inside (hbase : base ≤ i) (hsize : i < base + size) :
    turned base size offset i = base + (i - base + offset) % size := if_neg (by omega)

/-- The window is turned within itself. -/
theorem turned_mem (offset : Nat) (hbase : base ≤ i) (hsize : i < base + size) :
    base ≤ turned base size offset i ∧ turned base size offset i < base + size := by
  have hlt := Nat.mod_lt (i - base + offset) (y := size) (by omega)
  rw [turned_inside hbase hsize]
  omega

theorem turned_lt (hfits : base + size ≤ n) (h : i < n) : turned base size offset i < n := by
  by_cases hout : i < base ∨ base + size ≤ i
  · rwa [turned_outside hout]
  · obtain ⟨_, hlt⟩ := turned_mem offset (Nat.le_of_not_lt (not_or.mp hout).1) (Nat.lt_of_not_le (not_or.mp hout).2)
    omega

/-- **No two registers share a place.** -/
theorem turned_inj (h : turned base size offset i = turned base size offset j) : i = j := by
  by_cases hi : i < base ∨ base + size ≤ i
  · by_cases hj : j < base ∨ base + size ≤ j
    · rwa [turned_outside hi, turned_outside hj] at h
    · have hmem := turned_mem offset (Nat.le_of_not_lt (not_or.mp hj).1) (Nat.lt_of_not_le (not_or.mp hj).2)
      rw [turned_outside hi] at h
      omega
  · by_cases hj : j < base ∨ base + size ≤ j
    · have hmem := turned_mem offset (Nat.le_of_not_lt (not_or.mp hi).1) (Nat.lt_of_not_le (not_or.mp hi).2)
      rw [turned_outside hj] at h
      omega
    · rw [turned_inside (by omega) (by omega), turned_inside (by omega) (by omega)] at h
      have hmod : i - base ≡ j - base [MOD size] := Nat.ModEq.add_right_cancel' offset (Nat.add_left_cancel h)
      have hsub := hmod.eq_of_lt_of_lt (by omega) (by omega)
      omega

/-- The offset after a turn back by one. -/
def turnBack (size offset : Nat) : Nat := if size = 0 then offset else (offset + size - 1) % size

theorem turnBack_lt (offset : Nat) (h : 0 < size) : turnBack size offset < size := by
  rw [turnBack, if_neg (by omega)]
  exact Nat.mod_lt _ h

/-- After `k` turns back, `k` more make up for them. -/
theorem iterate_turnBack (h : 0 < size) (offset k : Nat) :
    ((turnBack size)^[k] offset) + k ≡ offset [MOD size] := by
  induction k generalizing offset with
  | zero => exact Nat.ModEq.refl _
  | succ k ih =>
      rw [Function.iterate_succ_apply, ← Nat.add_assoc]
      have hone : turnBack size offset + 1 ≡ offset [MOD size] := by
        have hstep : (offset + size - 1) % size + 1 ≡ offset + size - 1 + 1 [MOD size] :=
          (Nat.mod_modEq _ _).add_right 1
        have hsum : offset + size - 1 + 1 = offset + size := by omega
        rw [hsum] at hstep
        rw [turnBack, if_neg (by omega)]
        exact hstep.trans (Nat.add_modEq_right)
      exact ((ih (turnBack size offset)).add_right 1).trans hone

/-- **What register `r` named, register `r + k` names after `k` turns back.** -/
theorem turned_iterate (hbase : base ≤ i) (hsize : i < base + size) :
    turned base size ((turnBack size)^[k] offset) (base + (i - base + k) % size) = turned base size offset i := by
  have hpos : 0 < size := by omega
  have hlt := Nat.mod_lt (i - base + k) hpos
  rw [turned_inside hbase hsize, turned_inside (by omega) (by omega), Nat.add_sub_cancel_left]
  refine congrArg (base + ·) ?_
  have hback := iterate_turnBack hpos offset k
  calc ((i - base + k) % size + (turnBack size)^[k] offset) % size
      = (i - base + k + (turnBack size)^[k] offset) % size := Nat.mod_add_mod _ _ _
    _ = (i - base + ((turnBack size)^[k] offset + k)) % size := by
        congr 1
        omega
    _ = (i - base + offset) % size := hback.add_left (i - base)

end Lib.Windows
