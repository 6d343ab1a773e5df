import GuideXOS.Lib.Words

/-!
# `BitFields` — slices of a word, deposits and shifts

What is cut out of a word and what is put into one, as bit vectors. A slice that would reach past the end of the word
ends there. A shift that takes its count modulo the width is the shift only up to the width; beyond it the two agree at
few words.
-/

/-!
## Fields of a word, with and without a sign

A field that is cut out by a shift and a mask is a slice of the bits of the word. It is made signed by setting all bits
above it when its highest bit is set, which is the sign extension of the slice.
-/

namespace Lib.Words

variable (x : UInt64)

/-- A slice, as a number. -/
theorem extractLsb'_toNat_eq (start length : Nat) :
    (x.toBitVec.extractLsb' start length).toNat = x.toNat / 2 ^ start % 2 ^ length := by
  rw [BitVec.extractLsb'_toNat, Nat.shiftRight_eq_div_pow]
  rfl

/-- A field cut out by a shift and a mask. -/
theorem shiftRight_and_toNat {shift mask : UInt64} {length : Nat} (hshift : shift.toNat < 64)
    (hmask : mask.toNat = 2 ^ length - 1) :
    ((x >>> shift) &&& mask).toNat = (x.toBitVec.extractLsb' shift.toNat length).toNat := by
  rw [extractLsb'_toNat_eq, UInt64.toNat_and, UInt64.toNat_shiftRight, hmask, Nat.and_two_pow_sub_one_eq_mod,
    Nat.mod_eq_of_lt hshift, Nat.shiftRight_eq_div_pow]

/-- A test of one bit. -/
theorem and_bit_ne_zero_iff {b : UInt64} {i : Nat} (hb : b.toNat = 2 ^ i) : x &&& b ≠ 0 ↔ bit x i = true := by
  rw [ne_eq, ← UInt64.toNat_inj, UInt64.toNat_and, hb, Nat.and_two_pow, bit]
  cases x.toNat.testBit i <;> simp

/-- **The sign set above a field**, or the bits above it cleared. -/
theorem signExtended_toBitVec (value : UInt64) {sign mask : UInt64} {n : Nat} (hpos : 0 < n)
    (hsign : sign.toNat = 2 ^ (n - 1)) (hmask : mask.toNat = 2 ^ n - 1) :
    (if value &&& sign ≠ 0 then value ||| ~~~mask else value &&& mask).toBitVec =
      (value.toBitVec.setWidth n).signExtend 64 := by
  have hmsb : (value.toBitVec.setWidth n).msb = bit value (n - 1) := by
    rw [BitVec.msb_eq_getLsbD_last, BitVec.getLsbD_setWidth]
    simp [hpos, BitVec.getLsbD, bit]
  refine BitVec.eq_of_getLsbD_eq fun i hi => ?_
  have hbit := bit_mask hmask i
  have hvalue : value.toBitVec.getLsbD i = bit value i := rfl
  rw [BitVec.getLsbD_signExtend, BitVec.getLsbD_setWidth, hmsb, hvalue]
  split
  · next hset =>
    show bit (value ||| ~~~mask) i = _
    rw [bit_or, bit_not, hbit, (and_bit_ne_zero_iff value hsign).mp hset]
    by_cases hin : i < n <;> simp [hi, hin]
  · next hclear =>
    show bit (value &&& mask) i = _
    rw [bit_and, hbit, Bool.eq_false_iff.mpr (mt (and_bit_ne_zero_iff value hsign).mpr hclear)]
    by_cases hin : i < n <;> simp [hi, hin]

end Lib.Words

namespace Lib.Words

/-! ## Slices and deposits -/

section Vectors
variable {w : Nat} (x base source : BitVec w) (pos len : Nat)

/-- A slice with zeros above it. -/
def unsignedSlice : BitVec w := (x.extractLsb' pos len).setWidth w

/-- A slice with its sign above it. -/
def signedSlice : BitVec w := (x.extractLsb' pos (min len (w - pos))).signExtend w

/-- A word with a slice replaced by the lowest bits of another. -/
def deposited : BitVec w :=
  let mask := (BitVec.allOnes len).setWidth w <<< pos
  (base &&& ~~~mask) ||| ((source <<< pos) &&& mask)

theorem getLsbD_unsignedSlice (i : Nat) :
    (unsignedSlice x pos len).getLsbD i = (decide (i < w) && (decide (i < len) && x.getLsbD (pos + i))) := by
  rw [unsignedSlice, BitVec.getLsbD_setWidth, BitVec.getLsbD_extractLsb']

/-- **What a deposit is, bit by bit.** -/
theorem getLsbD_deposited {i : Nat} (hi : i < w) : (deposited base source pos len).getLsbD i =
    if pos ≤ i ∧ i < pos + len then source.getLsbD (i - pos) else base.getLsbD i := by
  have hinside : i - pos < w := by omega
  simp only [deposited, BitVec.getLsbD_or, BitVec.getLsbD_and, BitVec.getLsbD_not, BitVec.getLsbD_shiftLeft,
    BitVec.getLsbD_setWidth, BitVec.getLsbD_allOnes, hi, hinside, decide_true, Bool.true_and]
  by_cases hlow : pos ≤ i
  · by_cases hhigh : i < pos + len
    · have hin : i - pos < len := by omega
      simp [hlow, hhigh, hin, Nat.not_lt.mpr hlow]
    · have hout : ¬ i - pos < len := by omega
      simp [hhigh, hout]
  · simp [hlow, Nat.lt_of_not_le hlow]

/-- A deposit into zeros that reaches the end of the word is a shift. -/
theorem shiftLeft_eq_deposited (h : w ≤ pos + len) : x <<< pos = deposited 0 x pos len := by
  refine BitVec.eq_of_getLsbD_eq fun i hi => ?_
  have hhigh : i < pos + len := by omega
  rw [getLsbD_deposited 0 x pos len hi, BitVec.getLsbD_shiftLeft]
  by_cases hlow : pos ≤ i
  · simp [hi, hlow, hhigh, Nat.not_lt.mpr hlow]
  · simp [hlow, Nat.lt_of_not_le hlow]

/-- **Signed slices that are unsigned**: the sign is clear, or the slice is the whole word. -/
theorem signedSlice_eq_iff (hpos : pos < w) (hlen : 0 < len) : signedSlice x pos len = unsignedSlice x pos len ↔
    x.getLsbD (pos + (min len (w - pos) - 1)) = false ∨ (pos = 0 ∧ w ≤ len) := by
  have hsign : (x.extractLsb' pos (min len (w - pos))).msb = x.getLsbD (pos + (min len (w - pos) - 1)) := by
    rw [BitVec.msb_eq_getLsbD_last, BitVec.getLsbD_extractLsb']
    have hlt : min len (w - pos) - 1 < min len (w - pos) := by omega
    simp [hlt]
  have hbit : ∀ i < w, (signedSlice x pos len).getLsbD i =
      if i < min len (w - pos) then x.getLsbD (pos + i) else x.getLsbD (pos + (min len (w - pos) - 1)) := by
    intro i hi
    rw [signedSlice, BitVec.getLsbD_signExtend, hsign, BitVec.getLsbD_extractLsb']
    by_cases hin : i < min len (w - pos) <;> simp only [hi, hin, decide_true, Bool.true_and, if_true, if_false]
  -- above the slice there is nothing
  have hclear : ∀ i, min len (w - pos) ≤ i → (unsignedSlice x pos len).getLsbD i = false := by
    intro i hi
    rw [getLsbD_unsignedSlice]
    by_cases hin : i < len
    · rw [BitVec.getLsbD_of_ge x (pos + i) (by omega), Bool.and_false, Bool.and_false]
    · simp [hin]
  constructor
  · intro heq
    by_cases hwhole : min len (w - pos) < w
    · refine .inl ?_
      have habove := hbit _ hwhole
      rwa [if_neg (lt_irrefl _), heq, hclear _ le_rfl, eq_comm] at habove
    · exact .inr (by omega)
  · intro h
    refine BitVec.eq_of_getLsbD_eq fun i hi => ?_
    rw [hbit i hi]
    split
    · next hin =>
      have hlt : i < len := by omega
      rw [getLsbD_unsignedSlice]
      simp [hi, hlt]
    · next hout =>
      rw [hclear i (by omega)]
      rcases h with hsign | hwhole
      · exact hsign
      · omega

/-! ## Shifts -/

/-- **A left shift by the count modulo the width.** -/
theorem shiftLeft_mod_eq_iff (n : Nat) : x <<< (n % w) = x <<< n ↔ n < w ∨ x <<< (n % w) = 0#w := by
  by_cases hn : n < w
  · rw [Nat.mod_eq_of_lt hn]
    exact iff_of_true rfl (.inl hn)
  · rw [BitVec.shiftLeft_eq_zero (Nat.le_of_not_lt hn), or_iff_right hn]

/-- **A logical right shift by the count modulo the width.** -/
theorem ushiftRight_mod_eq_iff (n : Nat) : x >>> (n % w) = x >>> n ↔ n < w ∨ x >>> (n % w) = 0#w := by
  by_cases hn : n < w
  · rw [Nat.mod_eq_of_lt hn]
    exact iff_of_true rfl (.inl hn)
  · rw [BitVec.ushiftRight_eq_zero (Nat.le_of_not_lt hn), or_iff_right hn]

/-- **A logical shift by the count modulo the width, in place of the arithmetic one**: right for what has no sign, and
for hardly anything else. -/
theorem ushiftRight_mod_eq_sshiftRight_iff (hw : 0 < w) (n : Nat) : x >>> (n % w) = x.sshiftRight n ↔
    if x.msb = true then n % w = 0 ∧ (n = 0 ∨ x = BitVec.allOnes w) else n < w ∨ x >>> (n % w) = 0#w := by
  split
  · next hsign =>
    have hlast : x.getLsbD (w - 1) = true := by rw [← BitVec.msb_eq_getLsbD_last, hsign]
    have hbit : ∀ i < w, (x.sshiftRight n).getLsbD i = if n + i < w then x.getLsbD (n + i) else true := by
      intro i hi
      rw [BitVec.getLsbD_sshiftRight, hsign]
      simp [Nat.not_le.mpr hi]
    constructor
    · intro heq
      have htop := congrArg (fun y : BitVec w => y.getLsbD (w - 1)) heq
      have hmod : n % w = 0 := by
        by_contra hne
        rw [BitVec.getLsbD_ushiftRight, BitVec.getLsbD_of_ge x _ (by omega), hbit _ (by omega)] at htop
        split at htop
        · next hlt =>
          have h0 : n = 0 := by omega
          exact hne (by rw [h0, Nat.zero_mod])
        · cases htop
      refine ⟨hmod, ?_⟩
      by_cases h0 : n = 0
      · exact .inl h0
      · refine .inr (BitVec.eq_of_getLsbD_eq fun i hi => ?_)
        have hge : w ≤ n := Nat.le_of_dvd (Nat.pos_of_ne_zero h0) (Nat.dvd_of_mod_eq_zero hmod)
        have hone := congrArg (fun y : BitVec w => y.getLsbD i) heq
        rw [hmod, BitVec.ushiftRight_zero, hbit i hi, if_neg (by omega)] at hone
        rw [hone, BitVec.getLsbD_allOnes, decide_eq_true hi]
    · rintro ⟨hmod, h0 | hones⟩
      · rw [h0, Nat.zero_mod, BitVec.ushiftRight_zero, BitVec.sshiftRight_zero]
      · rw [hmod, BitVec.ushiftRight_zero]
        refine BitVec.eq_of_getLsbD_eq fun i hi => ?_
        rw [hbit i hi]
        split
        · next hlt => rw [hones, BitVec.getLsbD_allOnes, BitVec.getLsbD_allOnes, decide_eq_true hi, decide_eq_true hlt]
        · rw [hones, BitVec.getLsbD_allOnes, decide_eq_true hi]
  · next hsign =>
    rw [BitVec.sshiftRight_eq_of_msb_false (Bool.eq_false_iff.mpr hsign), ushiftRight_mod_eq_iff]

end Vectors

/-! ## On machine words -/

section MachineWords
variable (x base source : UInt64) {shift mask : UInt64} {len : Nat} (count : UInt64)

theorem getLsbD_toBitVec (i : Nat) : x.toBitVec.getLsbD i = bit x i := rfl

theorem and_63_toNat : (count &&& 0x3F).toNat = count.toNat % 64 := by
  rw [UInt64.toNat_and]
  exact Nat.and_two_pow_sub_one_eq_mod count.toNat 6

/-- A shift by the lowest six bits of a count. -/
theorem shiftLeft_63_toBitVec : (x <<< (count &&& 0x3F)).toBitVec = x.toBitVec <<< (count.toNat % 64) := by
  refine BitVec.eq_of_getLsbD_eq fun i hi => ?_
  rw [getLsbD_toBitVec, bit_shiftLeft, and_63_toNat, Nat.mod_mod, BitVec.getLsbD_shiftLeft, getLsbD_toBitVec]
  by_cases hle : count.toNat % 64 ≤ i
  · simp [hle, Nat.not_lt.mpr hle]
  · simp [hle, Nat.lt_of_not_le hle]

theorem shiftRight_63_toBitVec : (x >>> (count &&& 0x3F)).toBitVec = x.toBitVec >>> (count.toNat % 64) := by
  refine BitVec.eq_of_getLsbD_eq fun i _ => ?_
  rw [getLsbD_toBitVec, bit_shiftRight, and_63_toNat, Nat.mod_mod, BitVec.getLsbD_ushiftRight, getLsbD_toBitVec]

/-- **A shift and a mask cut out a slice.** -/
theorem shiftRight_and_toBitVec (hshift : shift.toNat < 64) (hmask : ∀ i < 64, bit mask i = decide (i < len)) :
    ((x >>> shift) &&& mask).toBitVec = unsignedSlice x.toBitVec shift.toNat len := by
  refine BitVec.eq_of_getLsbD_eq fun i hi => ?_
  rw [getLsbD_toBitVec, bit_and, bit_shiftRight, hmask i hi, Nat.mod_eq_of_lt hshift, getLsbD_unsignedSlice,
    getLsbD_toBitVec, decide_eq_true hi, Bool.true_and, Bool.and_comm]

/-- **Two masks and a shift deposit.** -/
theorem masked_or_toBitVec (hshift : shift.toNat < 64) (hmask : ∀ i < 64, bit mask i = decide (i < len)) :
    ((base &&& ~~~(mask <<< shift)) ||| ((source <<< shift) &&& (mask <<< shift))).toBitVec =
      deposited base.toBitVec source.toBitVec shift.toNat len := by
  refine BitVec.eq_of_getLsbD_eq fun i hi => ?_
  have hinside : i - shift.toNat < 64 := by omega
  simp only [getLsbD_deposited _ _ _ _ hi, getLsbD_toBitVec, bit_or, bit_and, bit_not, bit_shiftLeft,
    Nat.mod_eq_of_lt hshift, hmask _ hinside, hi, decide_true, Bool.true_and]
  by_cases hlow : shift.toNat ≤ i
  · by_cases hhigh : i < shift.toNat + len
    · have hin : i - shift.toNat < len := by omega
      simp [hlow, hhigh, hin]
    · have hout : ¬ i - shift.toNat < len := by omega
      simp [hhigh, hout]
  · simp [hlow]

end MachineWords

end Lib.Words
