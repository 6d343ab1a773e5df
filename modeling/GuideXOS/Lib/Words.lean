import Mathlib.Data.Nat.Bitwise
import Mathlib.Tactic.Ring

/-!
# `Words` — 64-bit words split at a bit position

A mask with its low `k` bits set cuts a word into a *page number* (the quotient by `2 ^ k`) and an
*offset* (the remainder). The two bitwise idioms `x &&& mask` and `x &&& ~~~mask` are read here as that
remainder and that quotient, so an argument about pages goes through `Nat` division and `omega`.
-/

namespace Lib.Words

/-- Words are ordered as the numbers they denote. -/
instance instLinearOrderUInt64 : LinearOrder UInt64 where
  le_refl x := UInt64.le_refl x
  le_trans _ _ _ := UInt64.le_trans
  lt_iff_le_not_ge a b := by
    rw [UInt64.lt_iff_toNat_lt, UInt64.le_iff_toNat_le, UInt64.le_iff_toNat_le]
    omega
  le_antisymm _ _ := UInt64.le_antisymm
  le_total a b := by
    rw [UInt64.le_iff_toNat_le, UInt64.le_iff_toNat_le]
    omega
  toDecidableLE := inferInstance
  toDecidableEq := inferInstance
  toDecidableLT := inferInstance

/-- Bytes are ordered as the numbers they denote. -/
instance instLinearOrderUInt8 : LinearOrder UInt8 where
  le_refl x := UInt8.le_refl x
  le_trans _ _ _ := UInt8.le_trans
  lt_iff_le_not_ge a b := by
    rw [UInt8.lt_iff_toNat_lt, UInt8.le_iff_toNat_le, UInt8.le_iff_toNat_le]
    omega
  le_antisymm _ _ := UInt8.le_antisymm
  le_total a b := by
    rw [UInt8.le_iff_toNat_le, UInt8.le_iff_toNat_le]
    omega
  toDecidableLE := inferInstance
  toDecidableEq := inferInstance
  toDecidableLT := inferInstance

/-! ## Indices into files of a fixed size -/

instance neZero8 : NeZero 8 := ⟨by decide⟩
instance neZero64 : NeZero 64 := ⟨by decide⟩
instance neZero128 : NeZero 128 := ⟨by decide⟩

theorem zero_lt_64 : 0 < 64 := by decide
theorem zero_lt_256 : 0 < 256 := by decide

theorem fin_lt_8 (i : Fin 8) : i.val < 8 := i.isLt
theorem fin_lt_64 (i : Fin 64) : i.val < 64 := i.isLt
theorem fin_lt_128 (i : Fin 128) : i.val < 128 := i.isLt
theorem fin_lt_256 (i : Fin 256) : i.val < 256 := i.isLt

/-! ## Low masks -/

/-- The mask with the low `k` bits set, computed as machine code does. -/
def lowMask (k : UInt64) : UInt64 := (1 <<< k) - 1

variable {k : UInt64} (v : UInt64)

theorem one_shiftLeft_toNat (hk : k.toNat < 64) : ((1 : UInt64) <<< k).toNat = 2 ^ k.toNat := by
  rw [UInt64.toNat_shiftLeft, Nat.mod_eq_of_lt hk, UInt64.toNat_one, Nat.one_shiftLeft]
  exact Nat.mod_eq_of_lt (Nat.pow_lt_pow_right (by decide) hk)

theorem lowMask_toNat (hk : k.toNat < 64) : (lowMask k).toNat = 2 ^ k.toNat - 1 := by
  have hone : (1 : UInt64) ≤ 1 <<< k :=
    UInt64.le_iff_toNat_le.mpr (by rw [one_shiftLeft_toNat hk]; exact Nat.one_le_two_pow)
  rw [lowMask, UInt64.toNat_sub_of_le _ _ hone, one_shiftLeft_toNat hk, UInt64.toNat_one]

/-- **The offset.** Masking the low bits is the remainder by `2 ^ k`. -/
theorem and_lowMask_toNat (hk : k.toNat < 64) (x : UInt64) : (x &&& lowMask k).toNat = x.toNat % 2 ^ k.toNat := by
  rw [UInt64.toNat_and, lowMask_toNat hk, Nat.and_two_pow_sub_one_eq_mod]

theorem toNat_testBit_not (m : UInt64) (i : Nat) :
    (~~~m).toNat.testBit i = (decide (i < 64) && !m.toNat.testBit i) := by
  show (~~~m.toBitVec).toNat.testBit i = (decide (i < 64) && !m.toBitVec.toNat.testBit i)
  rw [BitVec.testBit_toNat, BitVec.testBit_toNat, BitVec.getLsbD_not]

theorem toNat_testBit_high {x : UInt64} {i : Nat} (hi : ¬ i < 64) : x.toNat.testBit i = false :=
  Nat.testBit_lt_two_pow (Nat.lt_of_lt_of_le x.toNat_lt (Nat.pow_le_pow_right (by decide) (by omega)))

/-- **The page base.** Clearing the low bits rounds down to a multiple of `2 ^ k`. -/
theorem and_not_lowMask_toNat (hk : k.toNat < 64) (x : UInt64) :
    (x &&& ~~~lowMask k).toNat = x.toNat / 2 ^ k.toNat * 2 ^ k.toNat := by
  refine Nat.eq_of_testBit_eq fun i => ?_
  rw [UInt64.toNat_and, Nat.testBit_and, toNat_testBit_not, lowMask_toNat hk,
    Nat.testBit_two_pow_sub_one, Nat.testBit_mul_two_pow, Nat.testBit_div_two_pow]
  by_cases hlow : k.toNat ≤ i
  · rw [Nat.sub_add_cancel hlow]
    by_cases hi : i < 64
    · simp [hlow, hi, Nat.not_lt.mpr hlow]
    · simp [toNat_testBit_high hi]
  · simp [hlow, Nat.lt_of_not_le hlow]

/-! ## Words bit by bit

`bit` reads one bit of a word; the simp lemmas push it through the operators, so that an identity between
bit fields becomes a statement about one position. -/

def bit (x : UInt64) (i : Nat) : Bool := x.toNat.testBit i

theorem ext_bits {x y : UInt64} (h : ∀ i < 64, bit x i = bit y i) : x = y := by
  refine UInt64.toNat_inj.mp (Nat.eq_of_testBit_eq fun i => ?_)
  by_cases hi : i < 64
  · exact h i hi
  · rw [toNat_testBit_high hi, toNat_testBit_high hi]

@[simp] theorem bit_and (x y : UInt64) (i : Nat) : bit (x &&& y) i = (bit x i && bit y i) := by
  simp [bit]

@[simp] theorem bit_or (x y : UInt64) (i : Nat) : bit (x ||| y) i = (bit x i || bit y i) := by
  simp [bit]

@[simp] theorem bit_not (x : UInt64) (i : Nat) : bit (~~~x) i = (decide (i < 64) && !bit x i) :=
  toNat_testBit_not x i

@[simp] theorem bit_shiftRight (x k : UInt64) (i : Nat) :
    bit (x >>> k) i = bit x (k.toNat % 64 + i) := by
  simp [bit, Nat.testBit_shiftRight]

@[simp] theorem bit_shiftLeft (x k : UInt64) (i : Nat) :
    bit (x <<< k) i = (decide (i < 64) && (decide (k.toNat % 64 ≤ i) && bit x (i - k.toNat % 64))) := by
  simp only [bit, UInt64.toNat_shiftLeft, Nat.testBit_mod_two_pow, Nat.testBit_shiftLeft, ge_iff_le]

/-- A literal mask of the low `w` bits. -/
theorem bit_mask {m : UInt64} {w : Nat} (hm : m.toNat = 2 ^ w - 1) (i : Nat) :
    bit m i = decide (i < w) := by
  rw [bit, hm, Nat.testBit_two_pow_sub_one]

/-! ## Bit fields

A field of a word is read by a shift and a mask, and written by clearing its bits and setting them anew. -/

section Fields
variable {mask mask' shift shift' v : UInt64} (w w' : Nat)

/-- A field that was written reads as what was written. -/
theorem field_written (hm : mask.toNat = 2 ^ w - 1) (hfits : shift.toNat + w ≤ 64) (hpos : 0 < w)
    (hv : v.toNat < 2 ^ w) (x : UInt64) :
    (((x &&& ~~~(mask <<< shift)) ||| (v <<< shift)) >>> shift) &&& mask = v := by
  have hshift : shift.toNat % 64 = shift.toNat := Nat.mod_eq_of_lt (by omega)
  refine ext_bits fun i hi => ?_
  by_cases hw : i < w
  · have hin : shift.toNat + i < 64 := by omega
    simp [hshift, bit_mask hm, hw, hin]
  · have hclear : bit v i = false :=
      Nat.testBit_lt_two_pow (Nat.lt_of_lt_of_le hv (Nat.pow_le_pow_right (by decide) (by omega)))
    simp [bit_mask hm, hw, hclear]

/-- Another field reads as before. -/
theorem field_other (hm : mask.toNat = 2 ^ w - 1) (hm' : mask'.toNat = 2 ^ w' - 1) (hshift : shift.toNat < 64)
    (hfits : shift'.toNat + w' ≤ 64) (hpos : 0 < w')
    (hapart : shift.toNat + w ≤ shift'.toNat ∨ shift'.toNat + w' ≤ shift.toNat) (hv : v.toNat < 2 ^ w) (x : UInt64) :
    (((x &&& ~~~(mask <<< shift)) ||| (v <<< shift)) >>> shift') &&& mask' = (x >>> shift') &&& mask' := by
  have hmod : shift.toNat % 64 = shift.toNat := Nat.mod_eq_of_lt hshift
  have hmod' : shift'.toNat % 64 = shift'.toNat := Nat.mod_eq_of_lt (by omega)
  refine ext_bits fun i hi => ?_
  by_cases hw : i < w'
  · have hin : shift'.toNat + i < 64 := by omega
    by_cases hlow : shift.toNat ≤ shift'.toNat + i
    · -- past the field that was written
      have hpast : ¬ shift'.toNat + i - shift.toNat < w := by omega
      have hclear : bit v (shift'.toNat + i - shift.toNat) = false :=
        Nat.testBit_lt_two_pow (Nat.lt_of_lt_of_le hv (Nat.pow_le_pow_right (by decide) (by omega)))
      simp [hmod, hmod', bit_mask hm, bit_mask hm', hw, hin, hpast, hclear]
    · simp [hmod, hmod', bit_mask hm', hw, hin, hlow]
  · simp [bit_mask hm', hw]

end Fields

/-! ## Little-endian words -/

/-- The word whose little-endian bytes are given. -/
def wordOfBytes : List UInt8 → UInt64
  | [] => 0
  | b :: bs => b.toUInt64 ||| (wordOfBytes bs <<< 8)

/-- A little-endian field of a record. -/
def wordAt (record : List UInt8) (offset n : Nat) : UInt64 := wordOfBytes ((record.drop offset).take n)

/-- The `n` low bytes of a word, little-endian. -/
def bytesOfWord : Nat → UInt64 → List UInt8
  | 0, _ => []
  | n + 1, v => v.toUInt8 :: bytesOfWord n (v >>> 8)

@[simp] theorem length_bytesOfWord (n : Nat) (v : UInt64) : (bytesOfWord n v).length = n := by
  induction n generalizing v with
  | zero => rfl
  | succ n ih => rw [bytesOfWord, List.length_cons, ih]

theorem bit_lowByte (i : Nat) : bit v.toUInt8.toUInt64 i = (decide (i < 8) && bit v i) := by
  rw [bit, bit, UInt8.toNat_toUInt64, UInt64.toNat_toUInt8]
  exact Nat.testBit_mod_two_pow v.toNat 8 i

/-- Bytes written out and read back keep the bits they had. -/
theorem bit_wordOfBytes_bytesOfWord {n : Nat} (hn : n ≤ 8) (v : UInt64) (i : Nat) :
    bit (wordOfBytes (bytesOfWord n v)) i = (decide (i < 8 * n) && bit v i) := by
  induction n generalizing v i with
  | zero => simp [bytesOfWord, wordOfBytes, bit]
  | succ n ih =>
      have hshift : (8 : UInt64).toNat % 64 = 8 := rfl
      rw [bytesOfWord, wordOfBytes, bit_or, bit_lowByte, bit_shiftLeft, ih (by omega), bit_shiftRight, hshift]
      by_cases hlow : i < 8
      · have hhigh : ¬ 8 ≤ i := by omega
        have hrange : i < 8 * (n + 1) := by omega
        simp [hlow, hhigh, hrange]
      · have hhigh : 8 ≤ i := by omega
        have hindex : 8 + (i - 8) = i := by omega
        rw [hindex]
        by_cases hrange : i < 8 * (n + 1)
        · have hrest : i - 8 < 8 * n := by omega
          have hword : i < 64 := by omega
          simp [hlow, hhigh, hrange, hrest, hword]
        · have hrest : ¬ i - 8 < 8 * n := by omega
          simp [hlow, hrange, hrest]

theorem wordOfBytes_bytesOfWord : wordOfBytes (bytesOfWord 8 v) = v := by
  refine ext_bits fun i hi => ?_
  rw [bit_wordOfBytes_bytesOfWord (by decide)]
  simp [hi]

theorem wordOfBytes_bytesOfWord_four (v : UInt32) : (wordOfBytes (bytesOfWord 4 v.toUInt64)).toUInt32 = v := by
  have hword : wordOfBytes (bytesOfWord 4 v.toUInt64) = v.toUInt64 := by
    refine ext_bits fun i hi => ?_
    rw [bit_wordOfBytes_bytesOfWord (by decide)]
    by_cases hrange : i < 8 * 4
    · simp [hrange]
    · have hclear : bit v.toUInt64 i = false :=
        Nat.testBit_lt_two_pow (Nat.lt_of_lt_of_le v.toNat_lt (Nat.pow_le_pow_right (by decide) (by omega)))
      rw [hclear, Bool.and_false]
  rw [hword]
  exact UInt32.toUInt32_toUInt64 v

/-- Numbers put side by side. -/
theorem or_shiftLeft {a k : Nat} (h : a < 2 ^ k) (b : Nat) : a ||| b <<< k = a + b * 2 ^ k := by
  rw [Nat.or_comm, ← Nat.shiftLeft_add_eq_or_of_lt h, Nat.shiftLeft_eq, Nat.add_comm]

/-- The two low bytes of a word. -/
theorem bytesOfWord_two : bytesOfWord 2 v = [UInt8.ofNat v.toNat, UInt8.ofNat (v.toNat / 256)] := by
  have hshift : (v >>> 8).toNat = v.toNat / 256 := by
    rw [UInt64.toNat_shiftRight]
    exact Nat.shiftRight_eq_div_pow _ 8
  rw [bytesOfWord, bytesOfWord, bytesOfWord, ← hshift]
  rfl

/-- The four low bytes of a word. -/
theorem bytesOfWord_four : bytesOfWord 4 v = [UInt8.ofNat v.toNat, UInt8.ofNat (v.toNat / 256),
    UInt8.ofNat (v.toNat / 65536), UInt8.ofNat (v.toNat / 16777216)] := by
  have hshift : ∀ u : UInt64, (u >>> 8).toNat = u.toNat / 256 := by
    intro u
    rw [UInt64.toNat_shiftRight]
    exact Nat.shiftRight_eq_div_pow _ 8
  have hhigh : bytesOfWord 4 v = v.toUInt8 :: (v >>> 8).toUInt8 :: bytesOfWord 2 (v >>> 8 >>> 8) := rfl
  rw [hhigh, bytesOfWord_two, hshift, hshift, Nat.div_div_eq_div_mul, Nat.div_div_eq_div_mul, ← hshift]
  rfl

/-! ## Integers modulo the size of a word -/

theorem ofInt_natCast (n : Nat) : UInt64.ofInt n = UInt64.ofNat n := by
  apply UInt64.toNat_inj.mp
  rw [UInt64.ofInt, UInt64.toNat_ofNat', UInt64.toNat_ofNat']
  omega

/-! ## Aligned blocks -/

/-- The number of the aligned `2 ^ k`-byte block an address lies in. -/
def block (k x : Nat) : Nat := x / 2 ^ k

/-- **Same page.** Two addresses have equal page bases exactly when their block numbers agree. -/
theorem and_not_lowMask_eq_iff (hk : k.toNat < 64) (x y : UInt64) :
    x &&& ~~~lowMask k = y &&& ~~~lowMask k ↔ block k.toNat x.toNat = block k.toNat y.toNat := by
  rw [← UInt64.toNat_inj, and_not_lowMask_toNat hk, and_not_lowMask_toNat hk]
  exact Nat.mul_left_inj (Nat.two_pow_pos _).ne'

/-- A page base lies in the page it is the base of. -/
theorem block_and_not_lowMask (hk : k.toNat < 64) (x : UInt64) :
    block k.toNat (x &&& ~~~lowMask k).toNat = block k.toNat x.toNat := by
  rw [and_not_lowMask_toNat hk, block, block, Nat.mul_div_cancel _ (Nat.two_pow_pos _)]

/-! ## Least and greatest -/

theorem toNat_max (a b : UInt64) : (max a b).toNat = max a.toNat b.toNat := by
  rcases le_total a b with h | h
  · rw [max_eq_right h, max_eq_right (UInt64.le_iff_toNat_le.mp h)]
  · rw [max_eq_left h, max_eq_left (UInt64.le_iff_toNat_le.mp h)]

theorem toNat_min (a b : UInt64) : (min a b).toNat = min a.toNat b.toNat := by
  rcases le_total a b with h | h
  · rw [min_eq_left h, min_eq_left (UInt64.le_iff_toNat_le.mp h)]
  · rw [min_eq_right h, min_eq_right (UInt64.le_iff_toNat_le.mp h)]

end Lib.Words
