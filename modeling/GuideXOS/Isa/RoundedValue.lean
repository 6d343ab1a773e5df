import GuideXOS.Isa.FixedTruncation
import GuideXOS.Isa.FusedArithmetic

/-!
# `RoundedValue` — what `WriteRoundedIA64Value` writes

A register encodes a number if its significand is normalised. The magnitude is rounded by dropping its low bits, and is
written right but for one slip: at 64 bits a carry out of the significand is lost.
-/

namespace GuideXOS.Isa
open Lib.Words Lib.Rounding GuideXOS.Core GuideXOS.Decoder

/-! ## Signs -/

/-- A magnitude with a sign. -/
def signed (negative : Bool) (q : ℚ) : ℚ := if negative then -q else q

@[simp] theorem abs_signed (negative : Bool) (q : ℚ) : |signed negative q| = |q| := by
  cases negative
  · rfl
  · exact abs_neg q

theorem signed_mul (a b : Bool) (q r : ℚ) : signed a q * signed b r = signed (a != b) (q * r) := by
  cases a <;> cases b <;> simp [signed]

theorem signed_neg (a : Bool) (q : ℚ) : -signed a q = signed (!a) q := by
  cases a <;> simp [signed]

/-- The direction in which the magnitude of a signed number is rounded. -/
def directionOn (negative : Bool) (d : Direction) : Direction := if negative then d.flip else d

theorem rounds_signed {p : ℕ} {d : Direction} {x y : ℚ} {negative : Bool}
    (h : Rounds p (directionOn negative d) x y) : Rounds p d (signed negative x) (signed negative y) := by
  cases negative with
  | false => exact h
  | true =>
      have hneg := h.neg
      cases d <;> exact hneg

/-! ## The register format -/

/-- A normalised number: the top bit of the significand is set, and the exponent is neither of the two special ones. -/
structure IA64FloatingValue.IsNormal (value : IA64FloatingValue) : Prop where
  natVal : value.natVal = false
  significand : 2 ^ 63 ≤ value.significand.toNat
  exponent_pos : 1 ≤ value.exponent.toNat
  exponent_le : value.exponent.toNat ≤ 0x1FFFE

/-- **The register encodes the number.** -/
def Encodes (bytes : FRBytes) (y : ℚ) : Prop :=
  (readIA64FloatingValue bytes).IsNormal ∧ (readIA64FloatingValue bytes).toRat = y

/-- The numbers whose exponent has a representation. -/
def ExponentInRange (y : ℚ) : Prop := 2 ^ (1 - 65535 : ℤ) ≤ |y| ∧ |y| < 2 ^ (65536 : ℤ)

theorem IA64FloatingValue.toRat_eq (value : IA64FloatingValue) :
    value.toRat = signed value.negative (value.significand.toNat * 2 ^ value.scale) := rfl

/-- The second word of a register. -/
def signWord (negative : Bool) (e : ℕ) : UInt64 := UInt64.ofNat e ||| if negative then (1 : UInt64) <<< 17 else 0

theorem signWord_toNat {e : ℕ} (he : e ≤ 0x1FFFF) (negative : Bool) :
    (signWord negative e).toNat = e + if negative then 2 ^ 17 else 0 := by
  have hword : (UInt64.ofNat e).toNat = e := UInt64.toNat_ofNat_of_lt' (by rw [UInt64.size]; omega)
  have hsign : ((1 : UInt64) <<< 17).toNat = 2 ^ 17 := rfl
  rw [signWord, UInt64.toNat_or, hword]
  cases negative with
  | false =>
      rw [if_neg Bool.false_ne_true, if_neg Bool.false_ne_true, UInt64.toNat_zero, Nat.or_zero]
      rfl
  | true =>
      rw [if_pos rfl, if_pos rfl, hsign, Nat.or_comm]
      have hlt : e < 2 ^ 17 := by omega
      have hor := Nat.two_pow_add_eq_or_of_lt hlt 1
      rw [Nat.mul_one] at hor
      rw [← hor, Nat.add_comm]

/-- What is read of a register that was written in fields. -/
theorem read_signWord (s : UInt64) {e : ℕ} (he : e ≤ 0x1FFFF) (negative : Bool) :
    (readIA64FloatingValue (frBytes s (signWord negative e))).significand = s ∧
      (readIA64FloatingValue (frBytes s (signWord negative e))).exponent.toNat = e ∧
      (readIA64FloatingValue (frBytes s (signWord negative e))).negative = negative ∧
      (s ≠ 0 → (readIA64FloatingValue (frBytes s (signWord negative e))).natVal = false) := by
  have hword := signWord_toNat he negative
  have hmask : (0x1FFFF : UInt64).toNat = 2 ^ 17 - 1 := rfl
  have hbit : ((1 : UInt64) <<< 17).toNat = 2 ^ 17 := rfl
  unfold readIA64FloatingValue
  rw [readLittleEndian64_frBytes, readLittleEndian64_frBytes_eight]
  dsimp only
  refine ⟨rfl, ?_, ?_, fun hs => ?_⟩
  · rw [UInt64.toNat_toUInt32, UInt64.toNat_and, hmask, Nat.and_two_pow_sub_one_eq_mod, hword]
    split <;> omega
  · have hand : (signWord negative e &&& (1 : UInt64) <<< 17).toNat = if negative then 2 ^ 17 else 0 := by
      rw [UInt64.toNat_and, hbit, hword, Nat.and_two_pow]
      cases negative with
      | false =>
          have hlow : e.testBit 17 = false := Nat.testBit_lt_two_pow (by omega)
          rw [if_neg Bool.false_ne_true, Nat.add_zero, hlow]
          rfl
      | true =>
          have hhigh : (e + 2 ^ 17).testBit 17 = true := by
            rw [Nat.testBit_eq_decide_div_mod_eq, decide_eq_true_iff]
            omega
          rw [if_pos rfl, hhigh]
          rfl
    cases negative with
    | false =>
        rw [if_neg Bool.false_ne_true] at hand
        have hzero : signWord false e &&& (1 : UInt64) <<< 17 = 0 := UInt64.toNat_inj.mp hand
        rw [hzero]
        rfl
    | true =>
        rw [if_pos rfl] at hand
        refine bne_iff_ne.mpr fun hzero => ?_
        rw [hzero] at hand
        exact absurd hand (by decide)
  · rw [isNatVal, readLittleEndian64_frBytes, Bool.and_eq_false_iff]
    exact Or.inl (beq_eq_false_iff_ne.mpr hs)

/-- **What a register written in fields encodes.** -/
theorem encodes_signWord_iff (s : UInt64) {e : ℕ} (he : e ≤ 0x1FFFF) (negative : Bool) (y : ℚ) :
    Encodes (frBytes s (signWord negative e)) y ↔
      2 ^ 63 ≤ s.toNat ∧ 1 ≤ e ∧ e ≤ 0x1FFFE ∧ y = signed negative (s.toNat * 2 ^ ((e : ℤ) - 0x1003E)) := by
  obtain ⟨hs, hexponent, hnegative, hnat⟩ := read_signWord s he negative
  have hvalue : 1 ≤ e → (readIA64FloatingValue (frBytes s (signWord negative e))).toRat =
      signed negative (s.toNat * 2 ^ ((e : ℤ) - 0x1003E)) := by
    intro hpos
    have hscale : (readIA64FloatingValue (frBytes s (signWord negative e))).scale = (e : ℤ) - 0x1003E := by
      have hne : (readIA64FloatingValue (frBytes s (signWord negative e))).exponent ≠ 0 := by
        intro hzero
        rw [hzero, UInt32.toNat_zero] at hexponent
        omega
      rw [IA64FloatingValue.scale, if_neg hne, hexponent]
      omega
    rw [IA64FloatingValue.toRat_eq, hs, hnegative, hscale]
  constructor
  · rintro ⟨hnormal, hy⟩
    have hsig := hnormal.significand
    have hpos := hnormal.exponent_pos
    have hle := hnormal.exponent_le
    rw [hs] at hsig
    rw [hexponent] at hpos hle
    exact ⟨hsig, hpos, hle, hy.symm.trans (hvalue hpos)⟩
  · rintro ⟨hsig, hpos, hle, rfl⟩
    have hne : s ≠ 0 := by
      rintro rfl
      exact absurd hsig (by decide)
    refine ⟨⟨hnat hne, ?_, ?_, ?_⟩, hvalue hpos⟩
    · rw [hs]
      exact hsig
    · rw [hexponent]
      exact hpos
    · rw [hexponent]
      exact hle

/-! ## Rounding -/

/-- The direction of a rounding control. -/
def roundingDirection (roundingControl : UInt64) : Direction :=
  if roundingControl &&& 3 = 1 then .towardZero
  else if roundingControl &&& 3 = 2 then .up
  else if roundingControl &&& 3 = 3 then .down
  else .nearest

theorem bne_decide {α : Type} [DecidableEq α] (a b : α) : (a != b) = decide (a ≠ b) := by
  rw [Bool.eq_iff_iff, bne_iff_ne, decide_eq_true_iff]

/-- **`ShouldRoundUp`** asks for one more exactly where the direction does. -/
theorem shouldRoundUp_eq (magnitude : WideInteger) (shift : ℕ) {retained : UInt64} (negative : Bool)
    (roundingControl : UInt64) (hretained : retained.toNat = magnitude.toNat / 2 ^ shift) :
    shouldRoundUp magnitude shift retained negative roundingControl =
      decide ((directionOn negative (roundingDirection roundingControl)).increments
        (magnitude.toNat / 2 ^ shift) (magnitude.toNat % 2 ^ shift) shift) := by
  unfold shouldRoundUp
  by_cases hzero : shift = 0
  · subst hzero
    rw [if_pos rfl, pow_zero, Nat.mod_one]
    exact (decide_eq_false (not_increments_zero _ _)).symm
  rw [if_neg hzero]
  obtain ⟨s, rfl⟩ : ∃ s, shift = s + 1 := ⟨shift - 1, by omega⟩
  have hdiscarded : magnitude.anyBelow (s + 1) = decide (magnitude.toNat % 2 ^ (s + 1) ≠ 0) := bne_decide _ _
  dsimp only
  rw [hdiscarded]
  unfold roundingDirection directionOn
  by_cases h1 : roundingControl &&& 3 = 1
  · rw [if_pos h1, if_pos h1]
    cases negative <;> rfl
  rw [if_neg h1, if_neg h1]
  by_cases h2 : roundingControl &&& 3 = 2
  · rw [if_pos h2, if_pos h2]
    cases negative
    · exact Bool.true_and _
    · rfl
  rw [if_neg h2, if_neg h2]
  by_cases h3 : roundingControl &&& 3 = 3
  · rw [if_pos h3, if_pos h3]
    cases negative
    · rfl
    · exact Bool.true_and _
  rw [if_neg h3, if_neg h3]
  -- to nearest: the highest dropped bit, and then the ones below it or the last one that is kept
  have hnearest : (if negative = true then Direction.nearest.flip else Direction.nearest) = .nearest := by
    cases negative <;> rfl
  have hbit : magnitude.getLsbD s = decide (magnitude.toNat / 2 ^ s % 2 = 1) := by
    rw [BitVec.getLsbD, Nat.testBit_eq_decide_div_mod_eq]
  have hbelow : magnitude.anyBelow s = decide (magnitude.toNat % 2 ^ s ≠ 0) := bne_decide _ _
  have hone : (1 : UInt64).toNat = 2 ^ 1 - 1 := rfl
  have hodd : (retained &&& 1 != 0) = decide (magnitude.toNat / 2 ^ (s + 1) % 2 = 1) := by
    rw [← hretained, bne_decide, decide_eq_decide, ne_eq, ← UInt64.toNat_inj, UInt64.toNat_and, hone,
      Nat.and_two_pow_sub_one_eq_mod, UInt64.toNat_zero]
    omega
  have hsplit : magnitude.toNat % 2 ^ (s + 1) = magnitude.toNat % 2 ^ s + 2 ^ s * (magnitude.toNat / 2 ^ s % 2) :=
    Nat.mod_pow_succ
  have hlow : magnitude.toNat % 2 ^ s < 2 ^ s := Nat.mod_lt _ (by positivity)
  have htwo : 2 ^ (s + 1) = 2 * 2 ^ s := by rw [pow_succ, Nat.mul_comm]
  rw [hnearest, Nat.add_sub_cancel, hbit, hbelow, hodd, ← Bool.decide_or, ← Bool.decide_and, decide_eq_decide]
  unfold Direction.increments
  rw [hsplit]
  rcases Nat.mod_two_eq_zero_or_one (magnitude.toNat / 2 ^ s) with hclear | hset
  · rw [hclear, Nat.mul_zero, Nat.add_zero, htwo]
    omega
  · rw [hset, Nat.mul_one, htwo]
    omega

/-- Shifted to the left without a loss. -/
theorem shiftLeft_toNat {x : UInt64} {k : ℕ} (hk : k < 64) (h : x.toNat * 2 ^ k < 2 ^ 64) :
    (x <<< UInt64.ofNat k).toNat = x.toNat * 2 ^ k := by
  rw [UInt64.toNat_shiftLeft, UInt64.toNat_ofNat_of_lt' (by rw [UInt64.size]; omega), Nat.mod_eq_of_lt hk, Nat.shiftLeft_eq, Nat.mod_eq_of_lt h]

section Rounded
variable {p : ℕ} {retained : UInt64}

/-- The significand before it is normalised: a carry out of 64 bits is lost. -/
theorem retained_toNat (hp : p ≤ 64) (magnitude : WideInteger) (negative : Bool) (roundingControl : UInt64) :
    (if shouldRoundUp magnitude (magnitude.bitLength - p)
        (WideInteger.low64 (magnitude >>> (magnitude.bitLength - p))) negative roundingControl then
      WideInteger.low64 (magnitude >>> (magnitude.bitLength - p)) + 1
    else WideInteger.low64 (magnitude >>> (magnitude.bitLength - p))).toNat =
      kept (directionOn negative (roundingDirection roundingControl)) p magnitude.toNat % 2 ^ 64 := by
  unfold WideInteger.bitLength
  have hlow : magnitude.toNat / 2 ^ (magnitude.toNat.size - p) < 2 ^ 64 := by
    rw [Nat.div_lt_iff_lt_mul (by positivity), ← pow_add]
    exact (Nat.lt_size_self magnitude.toNat).trans_le (Nat.pow_le_pow_right (by decide) (by omega))
  have hretained : (WideInteger.low64 (magnitude >>> (magnitude.toNat.size - p))).toNat =
      magnitude.toNat / 2 ^ (magnitude.toNat.size - p) := by
    rw [WideInteger.low64, BitVec.toNat_ushiftRight, Nat.shiftRight_eq_div_pow]
    exact UInt64.toNat_ofNat_of_lt' hlow
  rw [shouldRoundUp_eq _ _ _ _ hretained]
  unfold kept
  simp only [decide_eq_true_iff]
  split
  · rw [UInt64.toNat_add, hretained, UInt64.toNat_one]
  · rw [hretained, Nat.add_zero, Nat.mod_eq_of_lt hlow]

/-- The significand that is written, and the bit length that the exponent is made of. -/
def normalised (p length : ℕ) (retained : UInt64) : UInt64 × ℕ :=
  let overflows := p < 64 ∧ retained = (1 : UInt64) <<< UInt64.ofNat p
  let resultLength := if overflows then length + 1 else length
  let retained := if overflows then retained >>> 1 else retained
  let retained := if length < p then retained <<< UInt64.ofNat (p - length) else retained
  (if p = 64 then retained else retained <<< UInt64.ofNat (64 - p), resultLength)

/-- The top bit is set, and the number is the one that was kept. -/
def IsNormalised (p length k : ℕ) (retained : UInt64) : Prop :=
  2 ^ 63 ≤ (normalised p length retained).1.toNat ∧
      ((normalised p length retained).1.toNat : ℚ) * 2 ^ ((normalised p length retained).2 - 64 : ℤ) =
        k * 2 ^ ((length - p : ℕ) : ℤ)

/-- **`WriteRoundedIA64Value`**, with the significand normalised as a step of its own. -/
theorem roundedIA64Value_eq {exact : SignedWideInteger} (hne : exact.magnitude ≠ 0) (exponentBase : ℤ) (p : ℕ)
    (roundingControl : UInt64) (hretained : (if shouldRoundUp exact.magnitude (exact.magnitude.bitLength - p)
        (WideInteger.low64 (exact.magnitude >>> (exact.magnitude.bitLength - p))) exact.negative roundingControl then
      WideInteger.low64 (exact.magnitude >>> (exact.magnitude.bitLength - p)) + 1
    else WideInteger.low64 (exact.magnitude >>> (exact.magnitude.bitLength - p))) = retained) :
    roundedIA64Value exact exponentBase p roundingControl =
      frBytes (normalised p exact.magnitude.bitLength retained).1 (signWord exact.negative
        (max 0 (min 0x1FFFF (0x1003E + exponentBase +
          (normalised p exact.magnitude.bitLength retained).2 - 64))).toNat) := by
  subst hretained
  unfold roundedIA64Value
  rw [if_neg hne]
  rfl

/-- Shifted up to 64 bits. -/
theorem toTop_toNat (hp : 0 < p) (hp' : p ≤ 64) {x : UInt64} (h : x.toNat < 2 ^ p) :
    (if p = 64 then x else x <<< UInt64.ofNat (64 - p)).toNat = x.toNat * 2 ^ (64 - p) := by
  by_cases hall : p = 64
  · rw [if_pos hall, hall, Nat.sub_self, pow_zero, Nat.mul_one]
  · have hfits : x.toNat * 2 ^ (64 - p) < 2 ^ 64 := by
      have hpow : (2 : ℕ) ^ 64 = 2 ^ p * 2 ^ (64 - p) := by rw [← pow_add, Nat.add_sub_cancel' hp']
      rw [hpow]
      exact Nat.mul_lt_mul_of_pos_right h (by positivity)
    rw [if_neg hall]
    exact shiftLeft_toNat (by omega) hfits

/-- The top bit of a word, shifted up to it. -/
theorem top_eq {n : ℕ} (hpos : 0 < n) (hle : n ≤ 64) : 2 ^ 63 = 2 ^ (n - 1) * 2 ^ (64 - n) := by
  rw [← pow_add]
  congr 1
  omega

/-- Two powers of two that cancel. -/
theorem scaled_back (k : ℕ) {a : ℕ} {b c : ℤ} (h : (a : ℤ) + b = c) :
    ((k * 2 ^ a : ℕ) : ℚ) * 2 ^ b = k * 2 ^ c := by
  rw [← h, zpow_add₀ (by norm_num), zpow_natCast]
  push_cast
  ring

/-- The carry is seen where there is room for it. -/
theorem overflows_iff (hp' : p < 64) {x : UInt64} : x = (1 : UInt64) <<< UInt64.ofNat p ↔ x.toNat = 2 ^ p := by
  have hone : (1 : UInt64).toNat = 1 := rfl
  have hpow : (2 : ℕ) ^ p < 2 ^ 64 := Nat.pow_lt_pow_right (by decide) hp'
  have hbit : ((1 : UInt64) <<< UInt64.ofNat p).toNat = 2 ^ p := by
    rw [shiftLeft_toNat hp' (by rw [hone, Nat.one_mul]; exact hpow), hone, Nat.one_mul]
  rw [← UInt64.toNat_inj, hbit]

/-- Nothing carries out of the significand. -/
theorem no_carry (hp' : p ≤ 64) {k : ℕ} (hretained : retained.toNat = k % 2 ^ 64) (hk : k < 2 ^ p) :
    retained.toNat = k ∧ ¬(p < 64 ∧ retained = (1 : UInt64) <<< UInt64.ofNat p) := by
  have hword : (2 : ℕ) ^ p ≤ 2 ^ 64 := Nat.pow_le_pow_right (by decide) hp'
  have hsame : retained.toNat = k := by rw [hretained, Nat.mod_eq_of_lt (hk.trans_le hword)]
  refine ⟨hsame, ?_⟩
  rintro ⟨hlt, hover⟩
  rw [overflows_iff hlt, hsame] at hover
  exact hk.ne hover

/-- Fewer bits than the precision are shifted up to it. -/
theorem normalised_short (hp' : p ≤ 64) {length k : ℕ} (hlength : 0 < length)
    (hretained : retained.toNat = k % 2 ^ 64) (hlt : length < p) (hlow : 2 ^ (length - 1) ≤ k)
    (hhigh : k < 2 ^ length) :
    IsNormalised p length k retained := by
  have hword : (2 : ℕ) ^ p ≤ 2 ^ 64 := Nat.pow_le_pow_right (by decide) hp'
  obtain ⟨hsame, hnone⟩ := no_carry hp' hretained (hhigh.trans (Nat.pow_lt_pow_right (by decide) hlt))
  have hup : k * 2 ^ (p - length) < 2 ^ p := by
    have hpow : (2 : ℕ) ^ p = 2 ^ length * 2 ^ (p - length) := by rw [← pow_add, Nat.add_sub_cancel' hlt.le]
    rw [hpow]
    exact Nat.mul_lt_mul_of_pos_right hhigh (by positivity)
  have hshift : (retained <<< UInt64.ofNat (p - length)).toNat = k * 2 ^ (p - length) := by
    rw [shiftLeft_toNat (by omega) (by rw [hsame]; exact hup.trans_le hword), hsame]
  have htop : (if p = 64 then retained <<< UInt64.ofNat (p - length)
      else (retained <<< UInt64.ofNat (p - length)) <<< UInt64.ofNat (64 - p)).toNat = k * 2 ^ (64 - length) := by
    rw [toTop_toNat (by omega) hp' (by rw [hshift]; exact hup), hshift, Nat.mul_assoc, ← pow_add]
    congr 2
    omega
  unfold IsNormalised normalised
  dsimp only
  rw [if_neg hnone, if_neg hnone, if_pos hlt, htop, Nat.sub_eq_zero_of_le hlt.le]
  refine ⟨?_, scaled_back k (by push_cast [Nat.cast_sub (hlt.le.trans hp')]; ring)⟩
  exact (top_eq (by omega) (by omega)).trans_le (Nat.mul_le_mul_right _ hlow)

/-- The bits of the precision are shifted up to the top of the word. -/
theorem normalised_full (hp : 2 ≤ p) (hp' : p ≤ 64) {length k : ℕ} (hretained : retained.toNat = k % 2 ^ 64)
    (hge : p ≤ length) (hlow : 2 ^ (p - 1) ≤ k) (hk : k < 2 ^ p) :
    IsNormalised p length k retained := by
  obtain ⟨hsame, hnone⟩ := no_carry hp' hretained hk
  have htop := toTop_toNat (by omega) hp' (x := retained) (by rw [hsame]; exact hk)
  unfold IsNormalised normalised
  dsimp only
  rw [if_neg (Nat.not_lt.mpr hge), if_neg hnone, if_neg hnone, htop, hsame]
  refine ⟨?_, scaled_back k (by push_cast [Nat.cast_sub hp', Nat.cast_sub hge]; ring)⟩
  exact (top_eq (by omega) (by omega)).trans_le (Nat.mul_le_mul_right _ hlow)

/-- A carry leaves one bit more, and the significand is shifted back. -/
theorem normalised_carry (hp : 2 ≤ p) (hroom : p < 64) {length : ℕ} (hretained : retained.toNat = 2 ^ p)
    (hge : p ≤ length) :
    IsNormalised p length (2 ^ p) retained := by
  have hover : p < 64 ∧ retained = (1 : UInt64) <<< UInt64.ofNat p := ⟨hroom, (overflows_iff hroom).mpr hretained⟩
  have hhalf : (retained >>> 1).toNat = 2 ^ (p - 1) := by
    have hone : (1 : UInt64).toNat % 64 = 1 := rfl
    have hpow : (2 : ℕ) ^ p = 2 ^ (p - 1) * 2 := by rw [← pow_succ, Nat.sub_add_cancel (by omega)]
    rw [UInt64.toNat_shiftRight, hone, hretained, Nat.shiftRight_one, hpow]
    omega
  have htop := toTop_toNat (by omega) hroom.le (x := retained >>> 1)
    (by rw [hhalf]; exact Nat.pow_lt_pow_right (by decide) (by omega))
  unfold IsNormalised normalised
  dsimp only
  rw [if_neg (Nat.not_lt.mpr hge), if_pos hover, if_pos hover, htop, hhalf, ← top_eq (by omega) hroom.le]
  refine ⟨le_rfl, ?_⟩
  have hback := scaled_back 1 (a := 63) (b := (length + 1 : ℕ) - 64) (c := length) (by push_cast; ring)
  have hfront := scaled_back 1 (a := p) (b := (length - p : ℕ)) (c := length) (by push_cast [Nat.cast_sub hge]; ring)
  rw [Nat.one_mul] at hback hfront
  rw [hback, hfront]

/-- **The significand is normalised**, except after a carry out of 64 bits. -/
theorem normalised_spec (hp : 2 ≤ p) (hp' : p ≤ 64) {length k : ℕ} (hlength : 0 < length)
    (hretained : retained.toNat = k % 2 ^ 64) (hshort : length < p → 2 ^ (length - 1) ≤ k ∧ k < 2 ^ length)
    (hlong : p ≤ length → 2 ^ (p - 1) ≤ k ∧ k ≤ 2 ^ p) :
    if p = 64 ∧ k = 2 ^ 64 then (normalised p length retained).1 = 0
    else IsNormalised p length k retained := by
  have hword : (2 : ℕ) ^ p ≤ 2 ^ 64 := Nat.pow_le_pow_right (by decide) hp'
  rcases Nat.lt_or_ge length p with hlt | hge
  · obtain ⟨hlow, hhigh⟩ := hshort hlt
    have hk : k < 2 ^ 64 := (hhigh.trans (Nat.pow_lt_pow_right (by decide) hlt)).trans_le hword
    rw [if_neg (fun h => absurd h.2 hk.ne)]
    exact normalised_short hp' hlength hretained hlt hlow hhigh
  obtain ⟨hlow, hhigh⟩ := hlong hge
  rcases hhigh.lt_or_eq with hk | hcarry
  · rw [if_neg (fun h => absurd h.2 (hk.trans_le hword).ne)]
    exact normalised_full hp hp' hretained hge hlow hk
  rcases hp'.lt_or_eq with hroom | hall
  · rw [if_neg (fun h => absurd h.1 hroom.ne), hcarry]
    refine normalised_carry hp hroom ?_ hge
    rw [hretained, hcarry, Nat.mod_eq_of_lt (Nat.pow_lt_pow_right (by decide) hroom)]
  · -- the carry is lost
    have hzero : retained = 0 := by
      rw [← UInt64.toNat_inj, hretained, hcarry, hall, Nat.mod_self, UInt64.toNat_zero]
    unfold normalised
    dsimp only
    rw [if_pos ⟨hall, hall ▸ hcarry⟩, if_pos hall, if_neg (Nat.not_lt.mpr hge), if_neg (fun h => absurd h.1 (by omega))]
    exact hzero

/-- A normalised number in range has an exponent that is not clamped. -/
theorem exponent_of_exponentInRange {s : UInt64} {e : ℤ} {negative : Bool} (hnormal : 2 ^ 63 ≤ s.toNat)
    (h : ExponentInRange (signed negative (s.toNat * 2 ^ (e - 0x1003E)))) : 1 ≤ e ∧ e ≤ 0x1FFFE := by
  obtain ⟨hlow, hhigh⟩ := h
  rw [abs_signed, abs_of_nonneg (mul_nonneg (Nat.cast_nonneg _) (zpow_pos_two _).le)] at hlow hhigh
  have hlt : (s.toNat : ℚ) < 2 ^ (64 : ℤ) := by exact_mod_cast s.toNat_lt
  have hge : (2 : ℚ) ^ (63 : ℤ) ≤ s.toNat := by exact_mod_cast hnormal
  constructor
  · have hbelow : (2 : ℚ) ^ (1 - 65535 : ℤ) < 2 ^ (64 + (e - 0x1003E)) := by
      rw [zpow_add₀ (by norm_num)]
      exact hlow.trans_lt (mul_lt_mul_of_pos_right hlt (zpow_pos_two _))
    have := (zpow_lt_zpow_iff_right₀ (by norm_num : (1 : ℚ) < 2)).mp hbelow
    omega
  · have habove : (2 : ℚ) ^ (63 + (e - 0x1003E)) < 2 ^ (65536 : ℤ) := by
      rw [zpow_add₀ (by norm_num)]
      exact (mul_le_mul_of_nonneg_right hge (zpow_pos_two _).le).trans_lt hhigh
    have := (zpow_lt_zpow_iff_right₀ (by norm_num : (1 : ℚ) < 2)).mp habove
    omega

/-- The number that a wide integer is, scaled. -/
def SignedWideInteger.value (x : SignedWideInteger) (exponentBase : ℤ) : ℚ :=
  signed x.negative (x.magnitude.toNat * 2 ^ exponentBase)

/-- The value of all 64 bits rounds up to a power of two: the carry has no bit to go to. -/
def CarriesOut (p : ℕ) (x y : ℚ) : Prop := p = 64 ∧ |x| < |y| ∧ ∃ k : ℤ, |y| = 2 ^ k

theorem magnitude_eq_zero_iff {x : WideInteger} : x = 0 ↔ x.toNat = 0 := by
  rw [← BitVec.toNat_inj]
  show x.toNat = (BitVec.ofNat 384 0).toNat ↔ x.toNat = 0
  rw [BitVec.toNat_ofNat, Nat.zero_mod]

theorem abs_scaled (n : ℕ) (e : ℤ) : |(n : ℚ) * 2 ^ e| = n * 2 ^ e :=
  abs_of_nonneg (mul_nonneg (Nat.cast_nonneg n) (zpow_pos_two e).le)

section Written
variable {exact : SignedWideInteger} (hne : exact.magnitude ≠ 0) (exponentBase : ℤ) (roundingControl : UInt64)

/-- The rounding itself. -/
theorem rounds_value (hp : 2 ≤ p) (exact : SignedWideInteger) (exponentBase : ℤ) (d : Direction) :
    Rounds p d (exact.value exponentBase) (signed exact.negative
      (kept (directionOn exact.negative d) p exact.magnitude.toNat *
        2 ^ (exponentBase + (exact.magnitude.toNat.size - p : ℕ)))) :=
  rounds_signed (rounds_kept _ hp _ _)

include hne

/-- **What is written**: a significand that is normalised unless the carry is lost, and its exponent, clamped. -/
theorem roundedIA64Value_spec (hp : 2 ≤ p) (hp' : p ≤ 64) : ∃ (s : UInt64) (e : ℤ),
    roundedIA64Value exact exponentBase p roundingControl =
      frBytes s (signWord exact.negative (max 0 (min 0x1FFFF e)).toNat) ∧
    if p = 64 ∧ kept (directionOn exact.negative (roundingDirection roundingControl)) p exact.magnitude.toNat = 2 ^ 64
    then s = 0
    else 2 ^ 63 ≤ s.toNat ∧ (s.toNat : ℚ) * 2 ^ (e - 0x1003E) =
      kept (directionOn exact.negative (roundingDirection roundingControl)) p exact.magnitude.toNat *
        2 ^ (exponentBase + (exact.magnitude.toNat.size - p : ℕ)) := by
  have hretained := retained_toNat hp' exact.magnitude exact.negative roundingControl
  have hwritten := roundedIA64Value_eq hne exponentBase p roundingControl rfl
  generalize (if shouldRoundUp exact.magnitude (exact.magnitude.bitLength - p)
        (WideInteger.low64 (exact.magnitude >>> (exact.magnitude.bitLength - p))) exact.negative roundingControl then
      WideInteger.low64 (exact.magnitude >>> (exact.magnitude.bitLength - p)) + 1
    else WideInteger.low64 (exact.magnitude >>> (exact.magnitude.bitLength - p))) = retained at hretained hwritten
  have hnonzero := mt magnitude_eq_zero_iff.mpr hne
  have hlength : 0 < exact.magnitude.bitLength := Nat.size_pos.mpr (Nat.pos_of_ne_zero hnonzero)
  have hspec := normalised_spec hp hp' hlength hretained
    (fun hshort => by
      rw [kept_of_size_le _ (le_of_lt hshort)]
      exact ⟨Nat.lt_size.mp (Nat.sub_lt hlength Nat.one_pos), Nat.lt_size_self _⟩)
    (fun hlong => ⟨le_kept _ hp hlong, kept_le _ hp⟩)
  refine ⟨_, _, hwritten, ?_⟩
  split
  · next hcarry => rwa [if_pos hcarry] at hspec
  · next hcarry =>
    rw [if_neg hcarry] at hspec
    refine ⟨hspec.1, ?_⟩
    -- the base of the exponent is a factor on both sides
    have hleft : (0x1003E + exponentBase + (normalised p exact.magnitude.bitLength retained).2 - 64 - 0x1003E : ℤ) =
        ((normalised p exact.magnitude.bitLength retained).2 - 64) + exponentBase := by ring
    rw [hleft, zpow_add₀ (by norm_num), ← mul_assoc, hspec.2, add_comm exponentBase, zpow_add₀ (by norm_num), mul_assoc]
    rfl

/-- **The rounding is written right** unless the carry is lost. -/
theorem encodes_rounded_iff (hp : 2 ≤ p) (hp' : p ≤ 64) {y : ℚ}
    (hy : Rounds p (roundingDirection roundingControl) (exact.value exponentBase) y) (hrange : ExponentInRange y) :
    Encodes (roundedIA64Value exact exponentBase p roundingControl) y ↔
      ¬ CarriesOut p (exact.value exponentBase) y := by
  obtain rfl := hy.unique (rounds_value hp exact exponentBase _)
  obtain ⟨s, e, hwritten, hspec⟩ := roundedIA64Value_spec hne exponentBase roundingControl hp hp'
  have hclamped : (max 0 (min 0x1FFFF e)).toNat ≤ 0x1FFFF := by omega
  have hcarry : CarriesOut p (exact.value exponentBase) (signed exact.negative
      (kept (directionOn exact.negative (roundingDirection roundingControl)) p exact.magnitude.toNat *
        2 ^ (exponentBase + (exact.magnitude.toNat.size - p : ℕ)))) ↔
      p = 64 ∧
        kept (directionOn exact.negative (roundingDirection roundingControl)) p exact.magnitude.toNat = 2 ^ 64 := by
    unfold CarriesOut SignedWideInteger.value
    rw [abs_signed, abs_signed, abs_scaled, abs_scaled]
    refine and_congr_right fun hall => ?_
    rw [← kept_eq_pow_iff _ hp, hall]
  rw [hcarry, hwritten, encodes_signWord_iff s hclamped]
  by_cases hlost : p = 64 ∧
      kept (directionOn exact.negative (roundingDirection roundingControl)) p exact.magnitude.toNat = 2 ^ 64
  · rw [if_pos hlost] at hspec
    subst hspec
    exact iff_of_false (fun h => absurd h.1 (by decide)) (fun h => h hlost)
  · rw [if_neg hlost] at hspec
    obtain ⟨hnormal, hvalue⟩ := hspec
    rw [← hvalue] at hrange ⊢
    have hin : 1 ≤ e ∧ e ≤ 0x1FFFE := exponent_of_exponentInRange hnormal hrange
    have hsame : ((max 0 (min 0x1FFFF e)).toNat : ℤ) = e := by omega
    rw [hsame]
    exact iff_of_true ⟨hnormal, by omega, by omega, rfl⟩ hlost

/-- What is encoded at all is at most twice the number. -/
theorem abs_le_of_encodes (hp : 2 ≤ p) (hp' : p ≤ 64) {y : ℚ}
    (h : Encodes (roundedIA64Value exact exponentBase p roundingControl) y) : |y| ≤ 2 * |exact.value exponentBase| := by
  obtain ⟨s, e, hwritten, hspec⟩ := roundedIA64Value_spec hne exponentBase roundingControl hp hp'
  have hclamped : (max 0 (min 0x1FFFF e)).toNat ≤ 0x1FFFF := by omega
  rw [hwritten, encodes_signWord_iff s hclamped] at h
  obtain ⟨hnormal, hpos, hle, rfl⟩ := h
  have hsame : ((max 0 (min 0x1FFFF e)).toNat : ℤ) = e := by omega
  split at hspec
  · rw [hspec] at hnormal
    exact absurd hnormal (by decide)
  · rw [hsame, hspec.2, SignedWideInteger.value, abs_signed, abs_signed, abs_scaled, abs_scaled, add_comm exponentBase,
      zpow_add₀ (by norm_num), zpow_natCast, ← mul_assoc, ← mul_assoc]
    refine mul_le_mul_of_nonneg_right ?_ (zpow_pos_two exponentBase).le
    exact_mod_cast kept_mul_le _ hp exact.magnitude.toNat

end Written

end Rounded

end GuideXOS.Isa
