import GuideXOS.Core.CpuState
import GuideXOS.Lib.Runs
import Mathlib.Data.Nat.Count

/-!
# `BackingStore` — where a call moves `AR.BSP`, and where a return moves it back

The register backing store keeps one word for each stacked register, and after every 63 of them a collection of
their NaT bits. `skipRseRegisters` moves an address by a number of registers and skips the collections on its way.
A return moves back by as many registers as the call moved forward: `skipRseRegisters_neg_eq_iff` says from which
addresses that leads to the one the call started at. `rseRegistersBetween` counts the registers on the way.

The three computations agree for every address and every number of registers (`backing_store_arithmetic`).
-/

namespace GuideXOS.Core
open Lib.Words Lib.Runs

/-- The slot of an address among the 64 words between two boundaries of the backing store. -/
def rseSlot (address : UInt64) : Nat := ((address >>> 3) &&& 0x3F).toNat

/-- The word at this address collects NaT bits. -/
def IsRnatSlot (address : UInt64) : Prop := rseSlot address = 63

instance (address : UInt64) : Decidable (IsRnatSlot address) := inferInstanceAs (Decidable (_ = _))

variable (address : UInt64)

theorem rseSlot_eq : rseSlot address = address.toNat / 8 % 64 := by
  show (address.toNat >>> 3) &&& (2 ^ 6 - 1) = _
  rw [Nat.and_two_pow_sub_one_eq_mod, Nat.shiftRight_eq_div_pow]

theorem rseSlot_lt : rseSlot address < 64 := by
  rw [rseSlot_eq]
  exact Nat.mod_lt _ (by decide)

/-- The address `words` words further. -/
def wordsAfter (address : UInt64) (words : Nat) : UInt64 := address + UInt64.ofNat (words * 8)

theorem wordsAfter_wordsAfter (m n : Nat) : wordsAfter (wordsAfter address m) n = wordsAfter address (m + n) := by
  unfold wordsAfter
  rw [Nat.add_mul, UInt64.ofNat_add, UInt64.add_assoc]

theorem wordsAfter_inj {a b : UInt64} {words : Nat} (h : wordsAfter a words = wordsAfter b words) : a = b :=
  (UInt64.add_left_inj _).mp h

theorem rseSlot_wordsAfter {words : Nat} (h : words < 2 ^ 60) :
    rseSlot (wordsAfter address words) = (rseSlot address + words) % 64 := by
  have hlt := address.toNat_lt
  rw [rseSlot_eq, rseSlot_eq, wordsAfter, UInt64.toNat_add, UInt64.toNat_ofNat_of_lt' (by rw [UInt64.size]; omega)]
  omega

namespace CPUState

variable (s : CPUState) {n : Nat}

theorem getBSP_advanceBSPForCall : s.advanceBSPForCall.getBSP = skipRseRegisters s.getBSP s.getSOL.toNat :=
  getAR_setAR_self s 17 _

theorem getBSP_rewindBSPForReturn (callerSol : UInt8) :
    (s.rewindBSPForReturn callerSol).getBSP = skipRseRegisters s.getBSP (-callerSol.toNat) := by
  unfold rewindBSPForReturn
  dsimp only
  split
  · -- the store pointer is moved as well
    show ((s.setAR 17 _).setAR 18 _).getAR 17 = _
    rw [getAR_setAR_ne (by decide), getAR_setAR_self]
  · exact getAR_setAR_self s 17 _

/-- Forwards, every 63 registers pass a collection. -/
theorem skipRseRegisters_natCast (h : 0 < n) (address : UInt64) :
    skipRseRegisters address n = wordsAfter address (n + (rseSlot address + n) / 63) := by
  have hn : ¬ (n : Int) = 0 := by omega
  have hpos : ¬ (n : Int) < 0 := by omega
  unfold skipRseRegisters
  rw [if_neg hn, if_neg hpos]
  show address + UInt64.ofInt (((n : Int) + Int.tdiv ((rseSlot address : Int) + n - 0) 63) * 8) = _
  have hwords : ((n : Int) + Int.tdiv ((rseSlot address : Int) + n - 0) 63) * 8 =
      (((n + (rseSlot address + n) / 63) * 8 : Nat) : Int) := by
    rw [Int.sub_zero, ← Int.natCast_add, Int.tdiv_eq_ediv_of_nonneg (by omega)]
    push_cast
    rfl
  rw [hwords, wordsAfter, ofInt_natCast]

/-- Backwards, the count is rounded the other way. -/
theorem skipRseRegisters_neg (h : 0 < n) (x b : UInt64) :
    skipRseRegisters x (-n) = b ↔ x = wordsAfter b (n + (62 + n - rseSlot x) / 63) := by
  have hslot := rseSlot_lt x
  have hn : ¬ (-n : Int) = 0 := by omega
  have hneg : (-n : Int) < 0 := by omega
  unfold skipRseRegisters
  rw [if_neg hn, if_pos hneg]
  show x + UInt64.ofInt ((-(n : Int) + Int.tdiv ((rseSlot x : Int) + -(n : Int) - 62) 63) * 8) = b ↔ _
  have hdelta : (rseSlot x : Int) + -(n : Int) - 62 = -((62 + n - rseSlot x : Nat) : Int) := by omega
  have hwords : (-(n : Int) + Int.tdiv ((rseSlot x : Int) + -(n : Int) - 62) 63) * 8 =
      -(((n + (62 + n - rseSlot x) / 63) * 8 : Nat) : Int) := by
    rw [hdelta, Int.neg_tdiv, Int.tdiv_eq_ediv_of_nonneg (by omega)]
    push_cast
    omega
  rw [hwords, wordsAfter, UInt64.ofInt_neg, ofInt_natCast]
  constructor
  · intro he
    rw [← he]
    grind
  · intro he
    rw [he]
    grind

/-- **The way back.** Only the address of a register is reached backwards: by `n > 0` registers from where the way
    forward ends, and from the collection right before that, if there is one. -/
theorem skipRseRegisters_neg_eq_iff (h : 0 < n) (hn : n < 2 ^ 16) (x b : UInt64) :
    skipRseRegisters x (-n) = b ↔
      ¬ IsRnatSlot b ∧ (x = skipRseRegisters b n ∨ IsRnatSlot x ∧ wordsAfter x 1 = skipRseRegisters b n) := by
  have hb := rseSlot_lt b
  have hslot := fun (words : Nat) (hw : words < 2 ^ 60) => rseSlot_wordsAfter b hw
  rw [skipRseRegisters_neg h, skipRseRegisters_natCast h]
  unfold IsRnatSlot
  constructor
  · intro hx
    generalize hk : (62 + n - rseSlot x) / 63 = k at hx
    have hsx := hslot (n + k) (by omega)
    rw [← hx] at hsx
    refine ⟨by omega, ?_⟩
    by_cases heq : k = (rseSlot b + n) / 63
    · left
      rw [hx, heq]
    · right
      have hone : k + 1 = (rseSlot b + n) / 63 := by omega
      refine ⟨by omega, ?_⟩
      rw [hx, wordsAfter_wordsAfter, ← hone, Nat.add_assoc]
  · rintro ⟨hsb, hx | ⟨hsx, hx⟩⟩
    · have hsx := hslot (n + (rseSlot b + n) / 63) (by omega)
      rw [← hx] at hsx
      have heq : (62 + n - rseSlot x) / 63 = (rseSlot b + n) / 63 := by omega
      rw [heq]
      exact hx
    · have hnext := hslot (n + (rseSlot b + n) / 63) (by omega)
      rw [← hx, rseSlot_wordsAfter x (by decide)] at hnext
      have hone : (62 + n - rseSlot x) / 63 + 1 = (rseSlot b + n) / 63 := by omega
      rw [← hone, ← Nat.add_assoc, ← wordsAfter_wordsAfter] at hx
      exact wordsAfter_inj hx

/-- The way forward ends behind a register, and so not at a collection. -/
theorem not_isRnatSlot_skipRseRegisters (h : 0 < n) (hn : n < 2 ^ 16) (address : UInt64) :
    ¬ IsRnatSlot (skipRseRegisters address n) := by
  have hslot := rseSlot_lt address
  rw [skipRseRegisters_natCast h, IsRnatSlot, rseSlot_wordsAfter address (by omega)]
  omega

/-! ## Counting the registers -/

/-- **`rseRegistersBetween`.** -/
def rseRegistersBetween (bspstore bsp : UInt64) : UInt64 :=
  if bsp < bspstore then 0
  else
    let backingStoreWords := (bsp - bspstore) >>> 3
    let firstNatSlot := (bspstore >>> 3) &&& 0x3F
    let natCollectionWords := (firstNatSlot + backingStoreWords) / 64
    backingStoreWords - natCollectionWords

/-- **`WriteBSPSTORE`.** -/
def writeBSPSTORE (value : UInt64) : CPUState :=
  let dirtyRegisters := rseRegistersBetween s.getBSPSTORE s.getBSP
  let newBspstore := value &&& ~~~7
  let s := s.setAR 18 newBspstore
  s.setAR 17 (skipRseRegisters newBspstore dirtyRegisters.toNat)

/-- The registers kept in the words from one address to another: one in each word that does not collect NaT bits. -/
def registersBetween (bspstore bsp : UInt64) : Nat :=
  Nat.count (fun i => ¬ IsRnatSlot (wordsAfter bspstore i)) ((bsp.toNat - bspstore.toNat) / 8)

/-- Of the words from a slot on, one in 64 collects. -/
theorem count_registers (address : UInt64) (words : Nat) (h : words < 2 ^ 61) :
    Nat.count (fun i => ¬ IsRnatSlot (wordsAfter address i)) words + (rseSlot address + words) / 64 = words := by
  have hslot := rseSlot_lt address
  induction words with
  | zero =>
      rw [Nat.count_zero]
      omega
  | succ words ih =>
      have hprevious := ih (by omega)
      have hnext : rseSlot (wordsAfter address words) = (rseSlot address + words) % 64 := by
        have hlt := address.toNat_lt
        rw [rseSlot_eq, rseSlot_eq, wordsAfter, UInt64.toNat_add, UInt64.toNat_ofNat_of_lt' (by rw [UInt64.size]; omega)]
        omega
      rw [Nat.count_succ]
      by_cases hcollects : IsRnatSlot (wordsAfter address words)
      · rw [if_neg (not_not.mpr hcollects)]
        rw [IsRnatSlot, hnext] at hcollects
        omega
      · rw [if_pos hcollects]
        rw [IsRnatSlot, hnext] at hcollects
        omega

/-- **What is counted are the registers**, at or above the store pointer. -/
theorem rseRegistersBetween_toNat {bspstore bsp : UInt64} (h : bspstore ≤ bsp) :
    (rseRegistersBetween bspstore bsp).toNat = registersBetween bspstore bsp := by
  have hle : bspstore.toNat ≤ bsp.toNat := h
  have hlt := bsp.toNat_lt
  have hslot := rseSlot_lt bspstore
  have hnot : ¬ bsp < bspstore := by
    rw [UInt64.lt_iff_toNat_lt]
    omega
  have hwords : ((bsp - bspstore) >>> 3).toNat = (bsp.toNat - bspstore.toNat) / 8 := by
    rw [UInt64.toNat_shiftRight, UInt64.toNat_sub_of_le _ _ h]
    exact Nat.shiftRight_eq_div_pow _ 3
  have hfirst : ((bspstore >>> 3) &&& 0x3F).toNat = rseSlot bspstore := rfl
  have hcount := count_registers bspstore ((bsp.toNat - bspstore.toNat) / 8) (by omega)
  unfold rseRegistersBetween registersBetween
  rw [if_neg hnot]
  dsimp only
  generalize (bsp - bspstore) >>> 3 = words at hwords ⊢
  generalize (bspstore >>> 3) &&& 0x3F = first at hfirst ⊢
  have hcollections : ((first + words) / 64).toNat = (rseSlot bspstore + (bsp.toNat - bspstore.toNat) / 8) / 64 := by
    have hsixtyFour : (64 : UInt64).toNat = 64 := rfl
    rw [UInt64.toNat_div, UInt64.toNat_add, hfirst, hwords, hsixtyFour, Nat.mod_eq_of_lt (by omega)]
  have hfewer : (first + words) / 64 ≤ words := by
    rw [UInt64.le_iff_toNat_le, hcollections, hwords]
    omega
  rw [UInt64.toNat_sub_of_le _ _ hfewer, hcollections, hwords]
  omega

/-- The words that `n` registers take from an address on, with the collections before each of them. -/
def wordsOver (address : UInt64) (n : Nat) : Nat := if n = 0 then 0 else n + (rseSlot address + n) / 63

/-- The way over `n` registers does not pass the end of the address space. -/
def NoWrap (address : UInt64) (n : Nat) : Prop := address.toNat + wordsOver address n * 8 < 2 ^ 64

theorem skipRseRegisters_toNat {address : UInt64} (h : NoWrap address n) :
    (skipRseRegisters address n).toNat = address.toNat + wordsOver address n * 8 := by
  unfold NoWrap at h
  by_cases hn : n = 0
  · subst hn
    rfl
  · unfold wordsOver at h ⊢
    rw [if_neg hn] at h ⊢
    rw [skipRseRegisters_natCast (Nat.pos_of_ne_zero hn), wordsAfter, UInt64.toNat_add, UInt64.toNat_ofNat_of_lt'
      (by rw [UInt64.size]; omega)]
    exact Nat.mod_eq_of_lt h

/-- **As many registers are counted as were skipped.** -/
theorem rseRegistersBetween_skip {address : UInt64} (h : NoWrap address n) :
    (rseRegistersBetween address (skipRseRegisters address n)).toNat = n := by
  have hskip := skipRseRegisters_toNat h
  have hle : address ≤ skipRseRegisters address n := by
    rw [UInt64.le_iff_toNat_le]
    omega
  unfold NoWrap at h
  have hcount := count_registers address (wordsOver address n) (by omega)
  have hwords : (skipRseRegisters address n).toNat - address.toNat = wordsOver address n * 8 := by omega
  rw [rseRegistersBetween_toNat hle, registersBetween, hwords, Nat.mul_div_cancel _ (by decide)]
  unfold wordsOver at hcount ⊢
  split at hcount
  · rename_i hzero
    rw [if_pos hzero, Nat.count_zero, hzero]
  · rename_i hpos
    rw [if_neg hpos]
    omega

theorem getBSPSTORE_writeBSPSTORE (value : UInt64) : (s.writeBSPSTORE value).getBSPSTORE = value &&& ~~~7 := by
  unfold writeBSPSTORE getBSPSTORE
  dsimp only
  rw [getAR_setAR_ne (by decide), getAR_setAR_self]

theorem getBSP_writeBSPSTORE (value : UInt64) : (s.writeBSPSTORE value).getBSP =
    skipRseRegisters (value &&& ~~~7) (rseRegistersBetween s.getBSPSTORE s.getBSP).toNat := getAR_setAR_self _ 17 _

/-! ## Chains of calls -/

/-- A processor in a chain of calls, with the locals of each caller and where `AR.BSP` pointed when it called. -/
structure CallChain where
  cpu : CPUState
  calls : List (UInt8 × UInt64)

/-- What happens in a chain: a frame is set up, a call, or a return from the last call. -/
inductive ChainStep
  | frame (cfm : UInt64)
  | call
  | ret

namespace CallChain

variable (c : CallChain)

def step : ChainStep → CallChain
  | .frame cfm => { c with cpu := c.cpu.setCFM cfm }
  | .call => ⟨c.cpu.advanceBSPForCall, (c.cpu.getSOL, c.cpu.getBSP) :: c.calls⟩
  | .ret =>
    match c.calls with
    | [] => c
    | (sol, _) :: rest => ⟨c.cpu.rewindBSPForReturn sol, rest⟩

/-- `AR.BSP` points at a register, and so it will after each of the returns to come. -/
def Unwinds : UInt64 → List (UInt8 × UInt64) → Prop
  | bsp, [] => ¬ IsRnatSlot bsp
  | bsp, (sol, caller) :: rest =>
    ¬ IsRnatSlot bsp ∧ skipRseRegisters bsp (-sol.toNat) = caller ∧ Unwinds caller rest

variable {calls : List (UInt8 × UInt64)}

theorem Unwinds.not_isRnatSlot {bsp : UInt64} (h : Unwinds bsp calls) : ¬ IsRnatSlot bsp := by
  cases calls with
  | nil => exact h
  | cons _ _ => exact h.1

/-- A call leaves the way back to where it was made. -/
theorem Unwinds.call {bsp : UInt64} (h : Unwinds bsp calls) {sol : UInt8} :
    Unwinds (skipRseRegisters bsp sol.toNat) ((sol, bsp) :: calls) := by
  have hbsp := h.not_isRnatSlot
  have hlt := sol.toNat_lt
  rcases Nat.eq_zero_or_pos sol.toNat with hzero | hpos
  · rw [Unwinds, hzero]
    exact ⟨hbsp, rfl, h⟩
  · refine ⟨not_isRnatSlot_skipRseRegisters hpos (by omega) bsp, ?_, h⟩
    exact (skipRseRegisters_neg_eq_iff hpos (by omega) _ _).mpr ⟨hbsp, .inl rfl⟩

/-- Every pending call can be returned from. -/
def Returns : Prop := Unwinds c.cpu.getBSP c.calls

/-- **One step** of a chain. -/
theorem Returns.step {c : CallChain} (h : c.Returns) (op : ChainStep) : (c.step op).Returns := by
  unfold Returns at h ⊢
  cases op with
  | frame cfm => exact h
  | call =>
      show Unwinds c.cpu.advanceBSPForCall.getBSP _
      rw [getBSP_advanceBSPForCall]
      exact h.call
  | ret =>
      unfold CallChain.step
      cases hcalls : c.calls with
      | nil => rwa [hcalls] at h ⊢
      | cons call rest =>
          rw [hcalls] at h
          show Unwinds (c.cpu.rewindBSPForReturn call.1).getBSP rest
          rw [getBSP_rewindBSPForReturn, h.2.1]
          exact h.2.2

/-- A return brings `AR.BSP` back to where the call was made. -/
def Restores (op : ChainStep) : Prop :=
  match op, c.calls with
  | .ret, (_, caller) :: _ => (c.step op).cpu.getBSP = caller
  | _, _ => True

theorem Returns.restores {c : CallChain} (h : c.Returns) (op : ChainStep) : c.Restores op := by
  unfold Returns at h
  cases op with
  | frame _ => exact trivial
  | call => exact trivial
  | ret =>
      unfold Restores CallChain.step
      cases hcalls : c.calls with
      | nil => exact trivial
      | cons call rest =>
          rw [hcalls] at h
          exact (getBSP_rewindBSPForReturn _ _).trans h.2.1

end CallChain

/-- **The arithmetic of the backing store agrees with itself.** As many registers are counted as were skipped; a new
    store pointer keeps the number of registers above it; and in a chain of calls each return brings `AR.BSP` back,
    which never points at a collection. -/
theorem backing_store_arithmetic :
    (∀ (address : UInt64) (n : Nat), NoWrap address n →
      (rseRegistersBetween address (skipRseRegisters address n)).toNat = n) ∧
    (∀ (s : CPUState) (value : UInt64), s.getBSPSTORE ≤ s.getBSP →
      NoWrap (value &&& ~~~7) (registersBetween s.getBSPSTORE s.getBSP) →
      (s.writeBSPSTORE value).getBSPSTORE = value &&& ~~~7 ∧
        registersBetween (s.writeBSPSTORE value).getBSPSTORE (s.writeBSPSTORE value).getBSP =
          registersBetween s.getBSPSTORE s.getBSP) ∧
    ∀ (s : CPUState) (ops : List ChainStep), ¬ IsRnatSlot s.getBSP →
      ¬ IsRnatSlot (run CallChain.step ⟨s, []⟩ ops).cpu.getBSP ∧
        EveryStep CallChain.step CallChain.Restores ⟨s, []⟩ ops := by
  refine ⟨fun address n h => rseRegistersBetween_skip h, fun s value hle hwrap => ?_, fun s ops hslot => ?_⟩
  · have hcount := rseRegistersBetween_toNat hle
    rw [← hcount] at hwrap
    have hskip := rseRegistersBetween_skip hwrap
    have habove : (value &&& ~~~7) ≤
        skipRseRegisters (value &&& ~~~7) (rseRegistersBetween s.getBSPSTORE s.getBSP).toNat := by
      rw [UInt64.le_iff_toNat_le, skipRseRegisters_toNat hwrap]
      exact Nat.le_add_right _ _
    refine ⟨getBSPSTORE_writeBSPSTORE s value, ?_⟩
    rw [getBSPSTORE_writeBSPSTORE, getBSP_writeBSPSTORE, ← rseRegistersBetween_toNat habove, hskip, hcount]
  · have hall : EveryStep CallChain.step (fun _ _ => True) ⟨s, []⟩ ops := everyStep_of_forall fun _ _ => trivial
    have hstart : CallChain.Returns ⟨s, []⟩ := hslot
    have hstep : ∀ (c : CallChain) (op : ChainStep), c.Returns → True → (c.step op).Returns := fun _ op h _ => h.step op
    have hend := run_invariant CallChain.Returns hstep hstart hall
    exact ⟨hend.not_isRnatSlot, everyStep_of_invariant _ hstep (fun _ op h _ => h.restores op) hstart hall⟩

/-- Sixty-three registers above `0x1000`, and the same number above `0x2010`; two calls and their returns. -/
theorem backing_store_arithmetic_run :
    (rseRegistersBetween 0x1000 (skipRseRegisters 0x1000 (63 : Nat))).toNat = 63 ∧
      registersBetween (((reset.setAR 18 0x1000).setAR 17 0x1200).writeBSPSTORE 0x2010).getBSPSTORE
        (((reset.setAR 18 0x1000).setAR 17 0x1200).writeBSPSTORE 0x2010).getBSP = 63 ∧
      EveryStep CallChain.step CallChain.Restores ⟨reset.setAR 17 0x1000, []⟩
        [.frame 0x2040, .call, .frame 0x187F, .call, .ret, .ret] := by
  obtain ⟨hskip, hwrite, hchain⟩ := backing_store_arithmetic
  refine ⟨hskip 0x1000 63 (by unfold NoWrap wordsOver; decide), ?_, ?_⟩
  · have hle : ((reset.setAR 18 0x1000).setAR 17 0x1200).getBSPSTORE ≤
        ((reset.setAR 18 0x1000).setAR 17 0x1200).getBSP := by
      decide +kernel
    have hcount : registersBetween ((reset.setAR 18 0x1000).setAR 17 0x1200).getBSPSTORE
        ((reset.setAR 18 0x1000).setAR 17 0x1200).getBSP = 63 := by
      decide +kernel
    have hwrap : NoWrap ((0x2010 : UInt64) &&& ~~~7) 63 := by
      unfold NoWrap wordsOver
      decide
    generalize (reset.setAR 18 0x1000).setAR 17 0x1200 = s at hle hcount ⊢
    rw [← hcount] at hwrap
    exact (hwrite s 0x2010 hle hwrap).2.trans hcount
  · exact (hchain (reset.setAR 17 0x1000) _ (by decide)).2

end CPUState

end GuideXOS.Core
