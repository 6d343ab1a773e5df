import Mathlib.Data.Nat.ModEq
import GuideXOS.Isa.Plugin

/-!
# `Frames` — the stacked registers as one value

This emulator has no register backing store: a call and an interruption save the logical registers
`GR32`–`GR127` together with CFM, and a return writes them back. `stackedGR` numbers these registers from
`0`, `stackedView` is what the running procedure sees of one (its value and NaT bit), and `writeStacked` is
the loop all writers share.

CFM renames the first `8 * SOR` of them cyclically. The renaming is injective, so a write changes one
register of the view; in an `Unrotated` frame it is the identity, so the view survives a change of frame.
-/

namespace GuideXOS.Isa
open Lib Lib.Words GuideXOS.Core

/-- The `i`-th stacked register, as a register number. -/
def stackedGR (i : Fin 96) : Fin 128 := ⟨32 + i.val, by omega⟩

/-- The cyclic renaming of the rotating region, by offset from `GR32`. -/
def stackedSlot (rotatingSize rrb i : Nat) : Nat :=
  if rotatingSize ≤ i then i else (i + rrb) % rotatingSize

theorem stackedSlot_lt {rotatingSize i : Nat} (h : i < rotatingSize) (rrb : Nat) :
    stackedSlot rotatingSize rrb i < rotatingSize := by
  rw [stackedSlot, if_neg (by omega)]
  exact Nat.mod_lt _ (by omega)

/-- No two registers are renamed to the same one. -/
theorem stackedSlot_inj {rotatingSize rrb i j : Nat}
    (h : stackedSlot rotatingSize rrb i = stackedSlot rotatingSize rrb j) : i = j := by
  by_cases hi : rotatingSize ≤ i
  · by_cases hj : rotatingSize ≤ j
    · rw [stackedSlot, stackedSlot, if_pos hi, if_pos hj] at h
      exact h
    · have hlt := stackedSlot_lt (not_le.mp hj) rrb
      rw [← h, stackedSlot, if_pos hi] at hlt
      omega
  · by_cases hj : rotatingSize ≤ j
    · have hlt := stackedSlot_lt (not_le.mp hi) rrb
      rw [h, stackedSlot, if_pos hj] at hlt
      omega
    · rw [stackedSlot, stackedSlot, if_neg hi, if_neg hj] at h
      -- both lie in one period, so equal remainders mean equal offsets
      have hmod : i % rotatingSize = j % rotatingSize := Nat.ModEq.add_right_cancel' rrb h
      rwa [Nat.mod_eq_of_lt (not_le.mp hi), Nat.mod_eq_of_lt (not_le.mp hj)] at hmod

theorem stackedSlot_unrotated {rotatingSize rrb : Nat} (h : rrb % rotatingSize = 0) (i : Nat) :
    stackedSlot rotatingSize rrb i = i := by
  by_cases hi : rotatingSize ≤ i
  · rw [stackedSlot, if_pos hi]
  · rw [stackedSlot, if_neg hi, Nat.add_mod, h, Nat.add_zero, Nat.mod_mod,
      Nat.mod_eq_of_lt (not_le.mp hi)]

end GuideXOS.Isa

namespace GuideXOS.Core.CPUState
open GuideXOS.Isa

/-! ## The view of the running procedure -/

variable (s : CPUState)

/-- A stacked register as the running procedure sees it: its value and its NaT bit. -/
def stackedView (i : Fin 96) : UInt64 × Bool :=
  (s.getGR (stackedGR i), s.getGRNaT (stackedGR i))

/-- The rotating region starts at its first register. -/
def Unrotated : Prop := s.getRRB_GR.toNat % (s.getSOR.toNat * 8) = 0

instance (s : CPUState) : Decidable s.Unrotated := inferInstanceAs (Decidable (_ = _))

/-- The physical register behind a stacked one. -/
def stackedPhysical (i : Fin 96) : Nat :=
  32 + stackedSlot (s.getSOR.toNat * 8) s.getRRB_GR.toNat i

theorem mapGR_stackedGR (i : Fin 96) : s.mapGR (stackedGR i) = s.stackedPhysical i := by
  have hi := i.isLt
  have hlow : ¬ (32 + i.val < 32) := by omega
  have hhigh : ¬ (128 ≤ 32 + i.val) := by omega
  simp only [mapGR, stackedGR, stackedPhysical, hlow, hhigh, stackedSlot, and_false, false_and, or_self,
    if_false, Nat.add_sub_cancel_left]
  by_cases hr : s.getSOR.toNat * 8 ≤ i.val
  · rw [if_pos (.inr (by omega)), if_pos hr]
  · rw [if_neg (by omega), if_neg hr]

theorem stackedPhysical_inj {s : CPUState} {i j : Fin 96} (h : s.stackedPhysical i = s.stackedPhysical j) :
    i = j :=
  Fin.ext (stackedSlot_inj (Nat.add_left_cancel h))

theorem stackedPhysical_of_cfm {s t : CPUState} (h : t.cfm = s.cfm) (i : Fin 96) :
    t.stackedPhysical i = s.stackedPhysical i := by
  rw [stackedPhysical, stackedPhysical, getSOR, getSOR, getRRB_GR, getRRB_GR, h]

theorem unrotated_of_cfm_eq {s t : CPUState} (h : t.cfm = s.cfm) (hs : s.Unrotated) : t.Unrotated := by
  rw [Unrotated, getRRB_GR, getSOR, h]
  exact hs

theorem stackedPhysical_unrotated {s : CPUState} (h : s.Unrotated) (i : Fin 96) :
    s.stackedPhysical i = 32 + i := by
  rw [stackedPhysical, stackedSlot_unrotated h]

theorem stackedView_eq (i : Fin 96) :
    s.stackedView i = (s.gr.get (s.stackedPhysical i), s.gr.getNaT (s.stackedPhysical i)) := by
  have h0 : stackedGR i ≠ 0 := fun h => by
    have := congrArg Fin.val h
    simp [stackedGR] at this
  rw [stackedView, getGR, getGRNaT, if_neg h0, if_neg h0, mapGR_stackedGR]

/-- The view depends on the register file and on CFM only. -/
theorem stackedView_congr {s t : CPUState} (hgr : t.gr = s.gr) (hcfm : t.cfm = s.cfm) (i : Fin 96) :
    t.stackedView i = s.stackedView i := by
  rw [stackedView_eq, stackedView_eq, hgr, stackedPhysical_of_cfm hcfm]

/-- **A change of frame renames nothing between unrotated frames.** -/
theorem stackedView_of_unrotated {s t : CPUState} (hgr : t.gr = s.gr) (hs : s.Unrotated) (ht : t.Unrotated)
    (i : Fin 96) : t.stackedView i = s.stackedView i := by
  rw [stackedView_eq, stackedView_eq, hgr, stackedPhysical_unrotated hs, stackedPhysical_unrotated ht]

/-! ## Writing -/

/-- The loop `SetGR(32 + k, v₀), SetGR(32 + k + 1, v₁), …`, which stops at the last register. -/
def writeStacked (s : CPUState) (k : Nat) : List UInt64 → CPUState
  | [] => s
  | v :: vs => if h : k < 96 then (s.setGR (stackedGR ⟨k, h⟩) v).writeStacked (k + 1) vs else s

@[simp] theorem cfm_writeStacked (k : Nat) (vs : List UInt64) : (s.writeStacked k vs).cfm = s.cfm := by
  induction vs generalizing s k with
  | nil => rfl
  | cons v vs ih =>
      unfold writeStacked
      split
      · rw [ih, cfm_setGR]
      · rfl

theorem stackedView_setGR_ne {s : CPUState} {i j : Fin 96} (h : i ≠ j) (v : UInt64) :
    (s.setGR (stackedGR i) v).stackedView j = s.stackedView j := by
  have hphys : s.stackedPhysical i ≠ s.stackedPhysical j := fun he => h (stackedPhysical_inj he)
  rw [stackedView_eq, stackedView_eq, stackedPhysical_of_cfm (cfm_setGR s _ v)]
  unfold setGR
  split
  · rfl
  · rw [mapGR_stackedGR, GRFile.get_set_ne hphys, GRFile.getNaT_set_ne hphys]

theorem stackedView_setGR_self {s : CPUState} {i : Fin 96} (h : s.stackedPhysical i < 144) (v : UInt64) :
    (s.setGR (stackedGR i) v).stackedView i = (v, false) := by
  have h0 : stackedGR i ≠ 0 := fun h => by
    have := congrArg Fin.val h
    simp [stackedGR] at this
  rw [stackedView_eq, stackedPhysical_of_cfm (cfm_setGR s _ v), setGR, if_neg h0, mapGR_stackedGR,
    GRFile.get_set_self (by unfold stackedPhysical; omega) h, GRFile.getNaT_set_self]

/-- Registers outside the range written keep their view. -/
theorem stackedView_writeStacked_of_not_mem {k : Nat} {vs : List UInt64} {j : Fin 96}
    (h : j.val < k ∨ k + vs.length ≤ j.val) : (s.writeStacked k vs).stackedView j = s.stackedView j := by
  induction vs generalizing s k with
  | nil => rfl
  | cons v vs ih =>
      unfold writeStacked
      split
      · next hk =>
          rw [List.length_cons] at h
          rw [ih _ (by omega), stackedView_setGR_ne (fun he => ?_)]
          have hkj : k = j.val := congrArg Fin.val he
          omega
      · rfl

/-- **What is written is what is seen**, without NaT. -/
theorem stackedView_writeStacked {s : CPUState} {k : Nat} {vs : List UInt64} {j : Fin 96} {v : UInt64}
    (hin : s.stackedPhysical j < 144) (hk : k ≤ j.val) (hv : vs[j.val - k]? = some v) :
    (s.writeStacked k vs).stackedView j = (v, false) := by
  induction vs generalizing s k with
  | nil => simp at hv
  | cons w vs ih =>
      have hk96 : k < 96 := by omega
      rw [writeStacked, dif_pos hk96]
      rcases Nat.eq_or_lt_of_le hk with heq | hlt
      · have hw : w = v := by simpa [heq] using hv
        have hj : (⟨k, hk96⟩ : Fin 96) = j := Fin.ext heq
        rw [stackedView_writeStacked_of_not_mem _ (.inl (by omega)), hj, stackedView_setGR_self hin, hw]
      · refine ih (by rwa [stackedPhysical_of_cfm (cfm_setGR s _ w)]) hlt ?_
        rw [show j.val - k = (j.val - (k + 1)) + 1 by omega, List.getElem?_cons_succ] at hv
        exact hv

end GuideXOS.Core.CPUState

namespace GuideXOS.Isa
open Lib Lib.Words GuideXOS.Core

/-- The snapshot of the current frame that `saveCallFrame` and `servicePendingInterrupt` push. It has no
    NaT bits. -/
def CallFrameSnapshot.capture (cpu : CPUState) (returnAddress : UInt64) : CallFrameSnapshot where
  stackedRegisters := Vector.ofFn fun i => cpu.getGR (stackedGR i)
  cfm := cpu.cfm
  returnAddress := returnAddress

end GuideXOS.Isa
