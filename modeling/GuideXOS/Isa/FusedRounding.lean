import GuideXOS.Isa.RoundedValue

/-!
# `FusedRounding` — when `FMA`, `FMS` and `FNMA` are correctly rounded

The exact value is `±(f3 * f4) ± f2`, and what is written should be its rounding. The exact sum is what is rounded where
product and addend are no more than 256 binary places apart; farther apart the smaller one of the two is written. And
the scale of an operand with exponent zero is that of the other exponents, and not that of the double-extended
denormals.
-/

namespace GuideXOS.Isa
open Lib.Words Lib.Rounding GuideXOS.Core GuideXOS.Decoder

/-! ## Sums of two terms -/

section Sums
variable {m s : ℕ} {a b : Bool} {e f t : ℤ}

theorem signed_scaled (a : Bool) (m : ℕ) (e : ℤ) :
    signed a ((m : ℚ) * 2 ^ e) = ((if a then -(m : ℤ) else m : ℤ) : ℚ) * 2 ^ e := by
  cases a
  · rfl
  · show -((m : ℚ) * 2 ^ e) = ((-(m : ℤ) : ℤ) : ℚ) * 2 ^ e
    push_cast
    ring

theorem le_scaled (hm : m ≠ 0) (e : ℤ) : (2 : ℚ) ^ e ≤ m * 2 ^ e :=
  le_mul_of_one_le_left (zpow_pos_two e).le (by exact_mod_cast Nat.pos_of_ne_zero hm)

theorem scaled_lt {k : ℕ} (hm : m < 2 ^ k) (e : ℤ) : (m : ℚ) * 2 ^ e < 2 ^ (e + k) := by
  rw [add_comm, zpow_add₀ (by norm_num), zpow_natCast]
  exact mul_lt_mul_of_pos_right (by exact_mod_cast hm) (zpow_pos_two e)

/-- A sum that is not zero has at least the smaller of the two scales. -/
theorem pow_le_abs_of_multiple (he : t ≤ e) (hf : t ≤ f)
    (hne : signed a ((m : ℚ) * 2 ^ e) + signed b ((s : ℚ) * 2 ^ f) ≠ 0) :
    2 ^ t ≤ |signed a ((m : ℚ) * 2 ^ e) + signed b ((s : ℚ) * 2 ^ f)| := by
  rw [signed_scaled, signed_scaled, scale_down he, scale_down hf, ← add_mul] at hne ⊢
  rw [abs_mul, abs_of_pos (zpow_pos_two t)]
  have hint := left_ne_zero_of_mul hne
  refine le_mul_of_one_le_left (zpow_pos_two t).le ?_
  rw [← Int.cast_add] at hint ⊢
  have hone : (1 : ℤ) ≤ |_| := Int.one_le_abs (Int.cast_ne_zero.mp hint)
  exact_mod_cast hone

/-- The larger term decides the size. -/
theorem pow_le_abs_add {q r : ℚ} (hq : 2 ^ (t + 1) ≤ |q|) (hr : |r| < 2 ^ t) : 2 ^ t ≤ |q + r| := by
  have htriangle := abs_sub_abs_le_abs_sub q (-r)
  rw [sub_neg_eq_add, abs_neg] at htriangle
  rw [zpow_add_one₀ (by norm_num)] at hq
  linarith

/-- **How small a sum may be**: both terms are large, or one is and the other is small. -/
theorem pow_le_abs_sum (hm : m ≠ 0) (hs : s ≠ 0) (hm' : m < 2 ^ 128) (hs' : s < 2 ^ 64)
    (hne : signed a ((m : ℚ) * 2 ^ e) + signed b ((s : ℚ) * 2 ^ f) ≠ 0)
    (h : (t ≤ e ∧ t ≤ f) ∨ (t + 1 ≤ e ∧ f + 64 ≤ t) ∨ (t + 1 ≤ f ∧ e + 128 ≤ t)) :
    2 ^ t ≤ |signed a ((m : ℚ) * 2 ^ e) + signed b ((s : ℚ) * 2 ^ f)| := by
  have hlarge : ∀ {c : Bool} {n : ℕ} {g : ℤ}, n ≠ 0 → t + 1 ≤ g → 2 ^ (t + 1) ≤ |signed c ((n : ℚ) * 2 ^ g)| := by
    intro c n g hn hg
    rw [abs_signed, abs_scaled]
    exact (zpow_le_zpow_right₀ (by norm_num) hg).trans (le_scaled hn g)
  have hsmall : ∀ {c : Bool} {n k : ℕ} {g : ℤ}, n < 2 ^ k → g + k ≤ t → |signed c ((n : ℚ) * 2 ^ g)| < 2 ^ t := by
    intro c n k g hn hg
    rw [abs_signed, abs_scaled]
    exact (scaled_lt hn g).trans_le (zpow_le_zpow_right₀ (by norm_num) hg)
  rcases h with ⟨he, hf⟩ | ⟨he, hf⟩ | ⟨hf, he⟩
  · exact pow_le_abs_of_multiple he hf hne
  · exact pow_le_abs_add (hlarge hm he) (hsmall hs' hf)
  · rw [add_comm]
    exact pow_le_abs_add (hlarge hs hf) (hsmall hm' he)

end Sums

/-! ## The exact sum -/

/-- The exponent as the instructions take it, whether it is zero or not. -/
def IA64FloatingValue.plainScale (value : IA64FloatingValue) : ℤ := value.exponent.toNat - 0x1003E

/-- The product of the significands, with its sign. -/
def productTerm (type : InstructionType) (left right : IA64FloatingValue) : SignedWideInteger where
  negative := (left.negative != right.negative) == (type != .FNMA)
  magnitude := .fromUInt128 (multiplyUnsigned64 left.significand right.significand)

/-- The addend, with its sign. -/
def addendTerm (type : InstructionType) (value : IA64FloatingValue) : SignedWideInteger :=
  ⟨value.negative != (type == .FMS), .fromU64 value.significand⟩

/-- What `ExecuteFusedArithmetic` rounds, and its scale. -/
def fusedSum (type : InstructionType) (left right : IA64FloatingValue) :
    Option IA64FloatingValue → SignedWideInteger × ℤ
  | none => (productTerm type left right, left.plainScale + right.plainScale)
  | some value =>
      let product := productTerm type left right
      let productExponent := left.plainScale + right.plainScale
      let addend := addendTerm type value
      if product.magnitude = 0 then (addend, value.plainScale)
      else if value.significand = 0 then (product, productExponent)
      else if (productExponent - value.plainScale).natAbs ≤ 256 then
        let commonExponent := min productExponent value.plainScale
        (addSignedWide { product with magnitude := product.magnitude <<< (productExponent - commonExponent).toNat }
          { addend with magnitude := addend.magnitude <<< (value.plainScale - commonExponent).toNat }, commonExponent)
      else if productExponent < value.plainScale then (product, productExponent)
      else (addend, value.plainScale)

theorem apply_choice {α β γ : Type} (F : α → β → γ) (c₁ c₂ c₃ c₄ : Prop) [Decidable c₁] [Decidable c₂] [Decidable c₃]
    [Decidable c₄] (a₁ a₂ a₃ a₄ a₅ : α) (b₁ b₂ b₃ b₄ b₅ : β) :
    (if c₁ then F a₁ b₁ else if c₂ then F a₂ b₂ else if c₃ then F a₃ b₃ else if c₄ then F a₄ b₄ else F a₅ b₅) =
      F (if c₁ then (a₁, b₁) else if c₂ then (a₂, b₂) else if c₃ then (a₃, b₃) else if c₄ then (a₄, b₄)
          else (a₅, b₅)).1
        (if c₁ then (a₁, b₁) else if c₂ then (a₂, b₂) else if c₃ then (a₃, b₃) else if c₄ then (a₄, b₄)
          else (a₅, b₅)).2 := by
  split_ifs <;> rfl

variable {addend : Option FRBytes} {roundingControl : UInt64} {type : InstructionType}

theorem fusedArithmetic_eq (type : InstructionType) (p : ℕ) (roundingControl : UInt64)
    {multiplicand multiplier : FRBytes} (hleft : (readIA64FloatingValue multiplicand).natVal = false)
    (hright : (readIA64FloatingValue multiplier).natVal = false)
    (haddend : ∀ bytes ∈ addend, (readIA64FloatingValue bytes).natVal = false) :
    fusedArithmetic type p roundingControl multiplicand multiplier addend =
      roundedIA64Value (fusedSum type (readIA64FloatingValue multiplicand) (readIA64FloatingValue multiplier)
          (addend.map readIA64FloatingValue)).1
        (fusedSum type (readIA64FloatingValue multiplicand) (readIA64FloatingValue multiplier)
          (addend.map readIA64FloatingValue)).2 p roundingControl := by
  have hnat : ¬ ((readIA64FloatingValue multiplicand).natVal || (readIA64FloatingValue multiplier).natVal ||
      addend.any fun bytes => (readIA64FloatingValue bytes).natVal) = true := by
    rw [hleft, hright, Bool.false_or, Bool.false_or, Option.any_eq_true]
    rintro ⟨bytes, hmem, hbytes⟩
    rw [haddend bytes hmem] at hbytes
    cases hbytes
  unfold fusedArithmetic
  rw [if_neg hnat]
  cases addend with
  | none => rfl
  | some bytes =>
      exact apply_choice (fun exact exponentBase => roundedIA64Value exact exponentBase p roundingControl) ..

/-! ## Its value -/

theorem signed_zero (a : Bool) : signed a 0 = 0 := by
  cases a
  · rfl
  · exact neg_zero

theorem signed_add (a : Bool) (q r : ℚ) : signed a (q + r) = signed a q + signed a r := by
  cases a
  · rfl
  · exact neg_add q r

theorem SignedWideInteger.value_eq_zero {x : SignedWideInteger} (h : x.magnitude = 0) (e : ℤ) : x.value e = 0 := by
  rw [SignedWideInteger.value, magnitude_eq_zero_iff.mp h, Nat.cast_zero, zero_mul, signed_zero]

/-- **`AddSignedWide`** adds, where the limbs have room for the sum. -/
theorem value_addSignedWide (l r : SignedWideInteger) (h : l.magnitude.toNat + r.magnitude.toNat < 2 ^ 384) (e : ℤ) :
    (addSignedWide l r).value e = l.value e + r.value e := by
  obtain ⟨a, x⟩ := l
  obtain ⟨b, y⟩ := r
  dsimp only at h
  unfold addSignedWide SignedWideInteger.value
  dsimp only
  by_cases hsame : a = b
  · subst hsame
    rw [if_pos rfl]
    dsimp only
    rw [BitVec.toNat_add_of_lt h, Nat.cast_add, add_mul, signed_add]
  · have hb : b = !a := by cases a <;> cases b <;> simp at hsame ⊢
    rw [if_neg hsame, hb, ← signed_neg]
    by_cases heq : x = y
    · rw [if_pos heq, heq, add_neg_cancel, magnitude_eq_zero_iff.mp rfl, Nat.cast_zero, zero_mul, signed_zero]
    · rw [if_neg heq]
      by_cases hlt : x > y
      · have hle : y ≤ x := BitVec.le_of_lt hlt
        have hcast : ((x - y).toNat : ℚ) = x.toNat - y.toNat := by
          rw [BitVec.toNat_sub_of_le hle, Nat.cast_sub (BitVec.le_def.mp hle)]
        rw [if_pos hlt]
        dsimp only
        rw [hcast, sub_mul, sub_eq_add_neg, signed_add]
        cases a <;> rfl
      · have hle : x ≤ y := BitVec.not_lt.mp hlt
        have hcast : ((y - x).toNat : ℚ) = y.toNat - x.toNat := by
          rw [BitVec.toNat_sub_of_le hle, Nat.cast_sub (BitVec.le_def.mp hle)]
        rw [if_neg hlt]
        dsimp only
        rw [hcast, sub_mul, sub_eq_add_neg, signed_add, signed_neg, add_comm]
        cases a <;> simp [signed]

/-- A magnitude shifted to the left stands for a larger scale. -/
theorem value_shifted (x : SignedWideInteger) {k : ℕ} {e f : ℤ} (hk : (k : ℤ) = f - e)
    (h : x.magnitude.toNat * 2 ^ k < 2 ^ 384) :
    SignedWideInteger.value { x with magnitude := x.magnitude <<< k } e = x.value f := by
  unfold SignedWideInteger.value
  dsimp only
  rw [BitVec.toNat_shiftLeft, Nat.shiftLeft_eq, Nat.mod_eq_of_lt h, scaled_back _ (by omega : (k : ℤ) + e = f)]

/-- The value that should be rounded. -/
def exactFused (type : InstructionType) (left right : IA64FloatingValue) (addend : Option IA64FloatingValue) : ℚ :=
  (if type = .FNMA then -(left.toRat * right.toRat) else left.toRat * right.toRat) +
    match addend with
    | none => 0
    | some value => if type = .FMS then -value.toRat else value.toRat

section Terms
variable (type : InstructionType) (left right value : IA64FloatingValue)

theorem productTerm_toNat :
    (productTerm type left right).magnitude.toNat = left.significand.toNat * right.significand.toNat := by
  show (BitVec.ofNat 384 (multiplyUnsigned64 left.significand right.significand).toNat).toNat = _
  have hlt := (multiplyUnsigned64 left.significand right.significand).toNat_lt
  have hpow : (2 : ℕ) ^ 128 ≤ 2 ^ 384 := Nat.pow_le_pow_right (by decide) (by decide)
  rw [BitVec.toNat_ofNat, Nat.mod_eq_of_lt (hlt.trans_le hpow), toNat_multiplyUnsigned64]

theorem addendTerm_toNat : (addendTerm type value).magnitude.toNat = value.significand.toNat := by
  show (BitVec.ofNat 384 value.significand.toNat).toNat = _
  have hpow : (2 : ℕ) ^ 64 ≤ 2 ^ 384 := Nat.pow_le_pow_right (by decide) (by decide)
  rw [BitVec.toNat_ofNat, Nat.mod_eq_of_lt (value.significand.toNat_lt.trans_le hpow)]

theorem product_exact : (if type = .FNMA then -(left.toRat * right.toRat) else left.toRat * right.toRat) =
    (productTerm type left right).value (left.scale + right.scale) := by
  have hproduct : left.toRat * right.toRat = signed (left.negative != right.negative)
      ((left.significand.toNat * right.significand.toNat : ℕ) * 2 ^ (left.scale + right.scale)) := by
    rw [IA64FloatingValue.toRat_eq, IA64FloatingValue.toRat_eq, signed_mul, zpow_add₀ (by norm_num)]
    congr 1
    push_cast
    ring
  rw [hproduct, SignedWideInteger.value, productTerm_toNat]
  unfold productTerm
  dsimp only
  by_cases htype : type = .FNMA
  · rw [if_pos htype, htype, signed_neg]
    congr 1
    generalize (left.negative != right.negative) = negative
    cases negative <;> rfl
  · have hne : (type != InstructionType.FNMA) = true := bne_iff_ne.mpr htype
    rw [if_neg htype, hne, beq_true]

theorem addend_exact : (if type = .FMS then -value.toRat else value.toRat) =
    (addendTerm type value).value value.scale := by
  rw [IA64FloatingValue.toRat_eq, SignedWideInteger.value, addendTerm_toNat]
  unfold addendTerm
  dsimp only
  by_cases htype : type = .FMS
  · rw [if_pos htype, htype, signed_neg]
    congr 1
    generalize value.negative = negative
    cases negative <;> rfl
  · have hne : (type == InstructionType.FMS) = false := beq_eq_false_iff_ne.mpr htype
    rw [if_neg htype, hne, Bool.bne_false]

theorem exactFused_none :
    exactFused type left right none = (productTerm type left right).value (left.scale + right.scale) := by
  unfold exactFused
  rw [product_exact]
  exact add_zero _

theorem exactFused_some : exactFused type left right (some value) =
    (productTerm type left right).value (left.scale + right.scale) + (addendTerm type value).value value.scale := by
  unfold exactFused
  rw [product_exact]
  exact congrArg _ (addend_exact type value)

/-- **The exponents of zero**: the one case where the instructions take another scale. -/
theorem scale_eq : value.scale = value.plainScale + if value.exponent = 0 then 49153 else 0 := by
  unfold IA64FloatingValue.scale IA64FloatingValue.plainScale
  split
  · next hzero =>
    rw [hzero, UInt32.toNat_zero]
    norm_num
  · ring

theorem productTerm_eq_zero_iff :
    (productTerm type left right).magnitude = 0 ↔ ¬(left.significand ≠ 0 ∧ right.significand ≠ 0) := by
  rw [magnitude_eq_zero_iff, productTerm_toNat, Nat.mul_eq_zero, ← UInt64.toNat_zero, UInt64.toNat_inj,
    UInt64.toNat_inj]
  tauto

theorem addendTerm_eq_zero_iff : (addendTerm type value).magnitude = 0 ↔ value.significand = 0 := by
  rw [magnitude_eq_zero_iff, addendTerm_toNat, ← UInt64.toNat_zero, UInt64.toNat_inj]

/-- The product leaves room for one addend more. -/
theorem productTerm_add_le : (productTerm type left right).magnitude.toNat + 2 ^ 64 ≤ 2 ^ 128 := by
  have hleft : left.significand.toNat ≤ 2 ^ 64 - 1 := Nat.le_pred_of_lt left.significand.toNat_lt
  have hright : right.significand.toNat ≤ 2 ^ 64 - 1 := Nat.le_pred_of_lt right.significand.toNat_lt
  rw [productTerm_toNat]
  calc
    left.significand.toNat * right.significand.toNat + 2 ^ 64 ≤ (2 ^ 64 - 1) * (2 ^ 64 - 1) + 2 ^ 64 :=
      Nat.add_le_add_right (Nat.mul_le_mul hleft hright) _
    _ ≤ 2 ^ 128 := by decide

theorem addendTerm_lt : (addendTerm type value).magnitude.toNat < 2 ^ 64 := by
  rw [addendTerm_toNat]
  exact value.significand.toNat_lt

end Terms

/-- **Where the exact sum is what is rounded**: no exponent zero is used, and product and addend are no more than 256
binary places apart. -/
structure FusesExactly (left right : IA64FloatingValue) (addend : Option IA64FloatingValue) : Prop where
  factors : left.significand ≠ 0 ∧ right.significand ≠ 0 → left.exponent ≠ 0 ∧ right.exponent ≠ 0
  term : ∀ value ∈ addend, value.significand ≠ 0 → value.exponent ≠ 0
  close : ∀ value ∈ addend, left.significand ≠ 0 ∧ right.significand ≠ 0 → value.significand ≠ 0 →
    (left.plainScale + right.plainScale - value.plainScale).natAbs ≤ 256

section Fused
variable {type : InstructionType} {left right value : IA64FloatingValue} {addend : Option IA64FloatingValue}

/-- The terms are scaled right where their exponents are not zero. -/
theorem product_value (h : left.significand ≠ 0 ∧ right.significand ≠ 0 → left.exponent ≠ 0 ∧ right.exponent ≠ 0) :
    (productTerm type left right).value (left.plainScale + right.plainScale) =
      (productTerm type left right).value (left.scale + right.scale) := by
  by_cases hzero : (productTerm type left right).magnitude = 0
  · rw [SignedWideInteger.value_eq_zero hzero, SignedWideInteger.value_eq_zero hzero]
  · obtain ⟨hleft, hright⟩ := h (not_not.mp (mt (productTerm_eq_zero_iff type left right).mpr hzero))
    rw [scale_eq left, scale_eq right, if_neg hleft, if_neg hright, add_zero, add_zero]

theorem addend_value (h : value.significand ≠ 0 → value.exponent ≠ 0) :
    (addendTerm type value).value value.plainScale = (addendTerm type value).value value.scale := by
  by_cases hzero : (addendTerm type value).magnitude = 0
  · rw [SignedWideInteger.value_eq_zero hzero, SignedWideInteger.value_eq_zero hzero]
  · rw [scale_eq value, if_neg (h (mt (addendTerm_eq_zero_iff type value).mpr hzero)), add_zero]

/-- **The aligned sum.** No bit is shifted out of the limbs. -/
theorem value_aligned {p a : SignedWideInteger} {e f : ℤ} (hp : p.magnitude.toNat + 2 ^ 64 ≤ 2 ^ 128)
    (ha : a.magnitude.toNat < 2 ^ 64) (hnear : (e - f).natAbs ≤ 256) :
    (addSignedWide { p with magnitude := p.magnitude <<< (e - min e f).toNat }
      { a with magnitude := a.magnitude <<< (f - min e f).toNat }).value (min e f) = p.value e + a.value f := by
  have hsum : p.magnitude.toNat * 2 ^ (e - min e f).toNat + a.magnitude.toNat * 2 ^ (f - min e f).toNat < 2 ^ 384 := by
    rcases le_total f e with hle | hle
    · -- the product is shifted
      have hk : 2 ^ (e - f).toNat ≤ 2 ^ 256 := Nat.pow_le_pow_right (by decide) (by omega)
      rw [min_eq_right hle, sub_self, Int.toNat_zero, pow_zero, Nat.mul_one]
      calc
        p.magnitude.toNat * 2 ^ (e - f).toNat + a.magnitude.toNat
            ≤ p.magnitude.toNat * 2 ^ 256 + a.magnitude.toNat := Nat.add_le_add_right (Nat.mul_le_mul_left _ hk) _
        _ < p.magnitude.toNat * 2 ^ 256 + 2 ^ 64 * 2 ^ 256 := by omega
        _ = (p.magnitude.toNat + 2 ^ 64) * 2 ^ 256 := (Nat.add_mul ..).symm
        _ ≤ 2 ^ 128 * 2 ^ 256 := Nat.mul_le_mul_right _ hp
        _ = 2 ^ 384 := (pow_add 2 128 256).symm
    · -- the addend is shifted
      have hk : 2 ^ (f - e).toNat ≤ 2 ^ 256 := Nat.pow_le_pow_right (by decide) (by omega)
      rw [min_eq_left hle, sub_self, Int.toNat_zero, pow_zero, Nat.mul_one]
      calc
        p.magnitude.toNat + a.magnitude.toNat * 2 ^ (f - e).toNat ≤ 2 ^ 128 + 2 ^ 64 * 2 ^ 256 :=
          Nat.add_le_add (by omega) (Nat.mul_le_mul ha.le hk)
        _ < 2 ^ 384 := by decide
  have hup : ((e - min e f).toNat : ℤ) = e - min e f := Int.toNat_of_nonneg (by omega)
  have hup' : ((f - min e f).toNat : ℤ) = f - min e f := Int.toNat_of_nonneg (by omega)
  rw [value_addSignedWide, value_shifted p hup (by omega), value_shifted a hup' (by omega)]
  dsimp only
  rw [BitVec.toNat_shiftLeft, BitVec.toNat_shiftLeft, Nat.shiftLeft_eq, Nat.shiftLeft_eq, Nat.mod_eq_of_lt (by omega),
    Nat.mod_eq_of_lt (by omega)]
  exact hsum

/-- **The exact sum.** -/
theorem fusedSum_exact (h : FusesExactly left right addend) :
    (fusedSum type left right addend).1.value (fusedSum type left right addend).2 =
      exactFused type left right addend := by
  cases addend with
  | none => rw [exactFused_none, ← product_value h.factors, fusedSum]
  | some value =>
      rw [exactFused_some, ← product_value h.factors, ← addend_value (h.term value rfl)]
      unfold fusedSum
      dsimp only
      by_cases hproduct : (productTerm type left right).magnitude = 0
      · rw [if_pos hproduct, SignedWideInteger.value_eq_zero hproduct, zero_add]
      have hfactors := not_not.mp (mt (productTerm_eq_zero_iff type left right).mpr hproduct)
      rw [if_neg hproduct]
      by_cases hterm : value.significand = 0
      · rw [if_pos hterm, SignedWideInteger.value_eq_zero ((addendTerm_eq_zero_iff type value).mpr hterm), add_zero]
      rw [if_neg hterm, if_pos (h.close value rfl hfactors hterm)]
      exact value_aligned (productTerm_add_le type left right) (addendTerm_lt type value)
        (h.close value rfl hfactors hterm)

/-! ## The wrong sum -/

/-- A scale that is too small by two places or more. -/
theorem four_mul_abs_value_le (x : SignedWideInteger) {e f : ℤ} (h : e + 2 ≤ f) :
    4 * |x.value e| ≤ |x.value f| := by
  have hpow : (4 : ℚ) * 2 ^ e ≤ 2 ^ f := by
    have hfour : (4 : ℚ) * 2 ^ e = 2 ^ (e + 2) := by
      rw [zpow_add₀ (by norm_num)]
      norm_num
      ring
    rw [hfour]
    exact zpow_le_zpow_right₀ (by norm_num) h
  unfold SignedWideInteger.value
  rw [abs_signed, abs_signed, abs_scaled, abs_scaled]
  calc
    4 * ((x.magnitude.toNat : ℚ) * 2 ^ e) = x.magnitude.toNat * (4 * 2 ^ e) := by ring
    _ ≤ x.magnitude.toNat * 2 ^ f := mul_le_mul_of_nonneg_left hpow (Nat.cast_nonneg _)

theorem abs_value_lt {x : SignedWideInteger} {k : ℕ} (hx : x.magnitude.toNat < 2 ^ k) {e t : ℤ} (h : e + k ≤ t) :
    |x.value e| < 2 ^ t := by
  rw [SignedWideInteger.value, abs_signed, abs_scaled]
  exact (scaled_lt hx e).trans_le (zpow_le_zpow_right₀ (by norm_num) h)

/-- Four times a number below a power of two. -/
theorem four_mul_le {q : ℚ} {s t : ℤ} (hq : q < 2 ^ s) (h : s + 2 ≤ t) : 4 * q ≤ 2 ^ t := by
  have hpow : (2 : ℚ) ^ (s + 2) ≤ 2 ^ t := zpow_le_zpow_right₀ (by norm_num) h
  have hfour : (2 : ℚ) ^ (s + 2) = 2 ^ s * 4 := by
    rw [zpow_add₀ (by norm_num)]
    norm_num
  rw [hfour] at hpow
  linarith

/-- **Where both terms are there**, and the exact sum is not what is rounded, what is rounded is smaller. -/
theorem fusedSum_small (hfactors : left.significand ≠ 0 ∧ right.significand ≠ 0) (hterm : value.significand ≠ 0)
    (hne : exactFused type left right (some value) ≠ 0) (h : ¬ FusesExactly left right (some value)) :
    4 * |(fusedSum type left right (some value)).1.value (fusedSum type left right (some value)).2| ≤
      |exactFused type left right (some value)| := by
  have hproduct : (productTerm type left right).magnitude ≠ 0 :=
    mt (productTerm_eq_zero_iff type left right).mp (not_not.mpr hfactors)
  have haddend : (addendTerm type value).magnitude ≠ 0 := mt (addendTerm_eq_zero_iff type value).mp hterm
  have hproductLt : (productTerm type left right).magnitude.toNat < 2 ^ 128 := by
    have := productTerm_add_le type left right
    omega
  have haddendLt := addendTerm_lt type value
  -- how the scales differ, and where they do
  have hscale := scale_eq left
  have hscale' := scale_eq right
  have hscale'' := scale_eq value
  have hcases : (left.scale + right.scale = left.plainScale + right.plainScale ∨
        left.plainScale + right.plainScale + 49153 ≤ left.scale + right.scale) ∧
      (value.scale = value.plainScale ∨ value.plainScale + 49153 ≤ value.scale) := by
    constructor <;> split_ifs at hscale hscale' hscale'' <;> omega
  have hwrong : left.scale + right.scale ≠ left.plainScale + right.plainScale ∨ value.scale ≠ value.plainScale ∨
      256 < (left.plainScale + right.plainScale - value.plainScale).natAbs := by
    by_contra hall
    push_neg at hall
    obtain ⟨hsame, hsame', hclose⟩ := hall
    refine h ⟨fun _ => ?_, fun v hv _ => ?_, fun v hv _ _ => ?_⟩
    · constructor <;> intro hzero <;> rw [if_pos hzero] at * <;> split_ifs at * <;> omega
    · cases hv
      intro hzero
      rw [if_pos hzero] at hscale''
      omega
    · cases hv
      exact hclose
  have hbelow : ∀ {t : ℤ}, (productTerm type left right).value (left.scale + right.scale) +
        (addendTerm type value).value value.scale ≠ 0 →
      (t ≤ left.scale + right.scale ∧ t ≤ value.scale) ∨
        (t + 1 ≤ left.scale + right.scale ∧ value.scale + 64 ≤ t) ∨
        (t + 1 ≤ value.scale ∧ left.scale + right.scale + 128 ≤ t) →
      2 ^ t ≤ |(productTerm type left right).value (left.scale + right.scale) +
        (addendTerm type value).value value.scale| :=
    fun hsum hsizes => pow_le_abs_sum (mt magnitude_eq_zero_iff.mpr hproduct) (mt magnitude_eq_zero_iff.mpr haddend)
      hproductLt haddendLt hsum hsizes
  rw [exactFused_some] at hne ⊢
  unfold fusedSum
  dsimp only
  rw [if_neg hproduct, if_neg hterm]
  by_cases hclose : (left.plainScale + right.plainScale - value.plainScale).natAbs ≤ 256
  · rw [if_pos hclose]
    dsimp only
    rw [value_aligned (productTerm_add_le type left right) haddendLt hclose]
    have hp := abs_value_lt hproductLt (e := left.plainScale + right.plainScale)
      (t := left.plainScale + right.plainScale + 320) (by omega)
    have ha := abs_value_lt haddendLt (e := value.plainScale) (t := left.plainScale + right.plainScale + 320) (by omega)
    have hsum := abs_add_le ((productTerm type left right).value (left.plainScale + right.plainScale))
      ((addendTerm type value).value value.plainScale)
    have hlt : |(productTerm type left right).value (left.plainScale + right.plainScale) +
        (addendTerm type value).value value.plainScale| < 2 ^ (left.plainScale + right.plainScale + 321) := by
      have htwo : (2 : ℚ) ^ (left.plainScale + right.plainScale + 321) =
          2 ^ (left.plainScale + right.plainScale + 320) * 2 := by
        rw [← zpow_add_one₀ (by norm_num)]
        congr 1
        ring
      linarith
    exact (four_mul_le hlt le_rfl).trans (hbelow (t := left.plainScale + right.plainScale + 321 + 2) hne (by omega))
  rw [if_neg hclose]
  by_cases hless : left.plainScale + right.plainScale < value.plainScale
  · rw [if_pos hless]
    have hlt := abs_value_lt hproductLt (e := left.plainScale + right.plainScale) le_rfl
    exact (four_mul_le hlt le_rfl).trans (hbelow hne (by omega))
  · rw [if_neg hless]
    have hlt := abs_value_lt haddendLt (e := value.plainScale) le_rfl
    exact (four_mul_le hlt le_rfl).trans (hbelow hne (by omega))

/-- **What is rounded is smaller** wherever it is not the exact sum. -/
theorem fusedSum_wrong (hne : exactFused type left right addend ≠ 0) (h : ¬ FusesExactly left right addend) :
    4 * |(fusedSum type left right addend).1.value (fusedSum type left right addend).2| ≤
      |exactFused type left right addend| := by
  -- the product alone, with a factor of exponent zero
  have halone : left.significand ≠ 0 ∧ right.significand ≠ 0 → ¬(left.exponent ≠ 0 ∧ right.exponent ≠ 0) →
      4 * |(productTerm type left right).value (left.plainScale + right.plainScale)| ≤
        |(productTerm type left right).value (left.scale + right.scale)| := by
    intro _ hzero
    have hscale := scale_eq left
    have hscale' := scale_eq right
    refine four_mul_abs_value_le _ ?_
    split_ifs at hscale hscale' <;> first | omega | exact absurd ⟨‹_›, ‹_›⟩ hzero
  cases addend with
  | none =>
      rw [exactFused_none] at hne ⊢
      have hproduct : (productTerm type left right).magnitude ≠ 0 :=
        fun hzero => hne (SignedWideInteger.value_eq_zero hzero _)
      have hfactors := not_not.mp (mt (productTerm_eq_zero_iff type left right).mpr hproduct)
      exact halone hfactors fun hboth => h ⟨fun _ => hboth, (fun v hv => nomatch hv), (fun v hv => nomatch hv)⟩
  | some value =>
      by_cases hproduct : (productTerm type left right).magnitude = 0
      · -- the addend alone
        have hnone := (productTerm_eq_zero_iff type left right).mp hproduct
        rw [exactFused_some, SignedWideInteger.value_eq_zero hproduct, zero_add]
        unfold fusedSum
        dsimp only
        rw [if_pos hproduct]
        refine four_mul_abs_value_le _ ?_
        have hscale := scale_eq value
        split_ifs at hscale with hzero
        · omega
        · refine absurd ⟨fun hboth => absurd hboth hnone, fun v hv _ => ?_, fun v hv hboth _ => absurd hboth hnone⟩ h
          cases hv
          exact hzero
      have hfactors := not_not.mp (mt (productTerm_eq_zero_iff type left right).mpr hproduct)
      by_cases hterm : value.significand = 0
      · rw [exactFused_some, SignedWideInteger.value_eq_zero ((addendTerm_eq_zero_iff type value).mpr hterm), add_zero]
        unfold fusedSum
        dsimp only
        rw [if_neg hproduct, if_pos hterm]
        refine halone hfactors fun hboth => h ⟨fun _ => hboth, fun v hv hsig => ?_, fun v hv _ hsig => ?_⟩
        · cases hv
          exact absurd hterm hsig
        · cases hv
          exact absurd hterm hsig
      · exact fusedSum_small hfactors hterm hne h

end Fused

/-! ## The instructions -/

/-- Nothing is encoded by a zero. -/
theorem not_encodes_zero {y : ℚ} : ¬ Encodes (frBytes 0 0) y := by
  have hzero : frBytes 0 0 = frBytes 0 (signWord false 0) := rfl
  rw [hzero, encodes_signWord_iff 0 (by decide)]
  exact fun h => absurd h.1 (by decide)

/-- **The contents of the registers, rounded.** -/
theorem encodes_fused_iff {p : ℕ} (hp : 2 ≤ p) (hp' : p ≤ 64) {multiplicand multiplier : FRBytes}
    (hleft : (readIA64FloatingValue multiplicand).natVal = false)
    (hright : (readIA64FloatingValue multiplier).natVal = false)
    (haddend : ∀ bytes ∈ addend, (readIA64FloatingValue bytes).natVal = false) {x y : ℚ}
    (hx : exactFused type (readIA64FloatingValue multiplicand) (readIA64FloatingValue multiplier)
      (addend.map readIA64FloatingValue) = x) (hne : x ≠ 0) (hy : Rounds p (roundingDirection roundingControl) x y)
    (hrange : ExponentInRange y) :
    Encodes (fusedArithmetic type p roundingControl multiplicand multiplier addend) y ↔
      FusesExactly (readIA64FloatingValue multiplicand) (readIA64FloatingValue multiplier)
        (addend.map readIA64FloatingValue) ∧ ¬ CarriesOut p x y := by
  subst hx
  rw [fusedArithmetic_eq type p roundingControl hleft hright haddend]
  generalize readIA64FloatingValue multiplicand = left at *
  generalize readIA64FloatingValue multiplier = right at *
  generalize addend.map readIA64FloatingValue = value at *
  by_cases hexact : FusesExactly left right value
  · have hsum : (fusedSum type left right value).1.value (fusedSum type left right value).2 =
        exactFused type left right value := fusedSum_exact hexact
    have hmagnitude : (fusedSum type left right value).1.magnitude ≠ 0 := fun hzero =>
      hne (hsum ▸ SignedWideInteger.value_eq_zero hzero _)
    rw [← hsum] at hy ⊢
    rw [encodes_rounded_iff hmagnitude _ _ hp hp' hy hrange]
    exact (and_iff_right hexact).symm
  · refine iff_of_false (fun h => ?_) fun h => hexact h.1
    have hsmall := fusedSum_wrong hne hexact
    have hhalf := hy.half_lt (by omega) hne
    by_cases hmagnitude : (fusedSum type left right value).1.magnitude = 0
    · rw [roundedIA64Value, if_pos hmagnitude] at h
      exact not_encodes_zero h
    · have hle := abs_le_of_encodes hmagnitude _ _ hp hp' h
      have hpos := abs_pos.mpr hne
      linarith

/-- **NaTVal** in any operand. -/
theorem fusedArithmetic_natVal {p : ℕ} {multiplicand multiplier : FRBytes}
    (h : (readIA64FloatingValue multiplicand).natVal = true ∨ (readIA64FloatingValue multiplier).natVal = true ∨
      ∃ value ∈ addend.map readIA64FloatingValue, value.natVal = true) :
    fusedArithmetic type p roundingControl multiplicand multiplier addend = natValBytes := by
  unfold fusedArithmetic
  dsimp only
  rw [if_pos]
  rw [Bool.or_eq_true, Bool.or_eq_true, Option.any_eq_true, or_assoc]
  refine h.imp_right (Or.imp_right ?_)
  rintro ⟨value, hmem, hnat⟩
  obtain ⟨bytes, hbytes, rfl⟩ := Option.mem_map.mp hmem
  exact ⟨bytes, hbytes, hnat⟩

/-- The precisions. -/
theorem fusedArithmeticPrecisionBits_bounds (fpsr rawBits : UInt64) :
    2 ≤ fusedArithmeticPrecisionBits fpsr rawBits ∧ fusedArithmeticPrecisionBits fpsr rawBits ≤ 64 := by
  unfold fusedArithmeticPrecisionBits
  dsimp only
  split_ifs <;> decide

/-- The third source, if there is one. -/
def fusedAddend (instr : InstructionEx) (cpu : CPUState) : Option FRBytes :=
  if instr.src3 = 0 then none else some (cpu.getFR (registerField instr.src3))

/-- A power of two in a register. -/
theorem toRat_power {e : ℕ} (he : 1 ≤ e) (he' : e ≤ 0x1FFFE) :
    (readIA64FloatingValue (frBytes 0x8000000000000000 (signWord false e))).toRat = 2 ^ ((e : ℤ) - 65535) := by
  have hword : (0x8000000000000000 : UInt64).toNat = 2 ^ 63 := rfl
  have hvalue : (2 : ℚ) ^ ((e : ℤ) - 65535) =
      signed false ((0x8000000000000000 : UInt64).toNat * 2 ^ ((e : ℤ) - 0x1003E)) := by
    have hback := scaled_back 1 (a := 63) (b := (e : ℤ) - 0x1003E) (c := (e : ℤ) - 65535) (by omega)
    rw [Nat.one_mul, Nat.cast_one, one_mul] at hback
    rw [hword]
    exact hback.symm
  exact ((encodes_signWord_iff 0x8000000000000000 (by omega) false _).mpr ⟨le_rfl, he, he', hvalue⟩).2

/-- `1.0` in `FR1`, and a power of two in `FR6`. -/
theorem one_and_power {cpu : CPUState} {e : ℕ} (he : 1 ≤ e) (he' : e ≤ 0x1FFFE)
    (h1 : cpu.getFR 1 = frBytes 0x8000000000000000 (signWord false 0xFFFF))
    (h6 : cpu.getFR 6 = frBytes 0x8000000000000000 (signWord false e)) :
    exactFused .FMA (readIA64FloatingValue (cpu.getFR 1)) (readIA64FloatingValue (cpu.getFR 1))
      (some (readIA64FloatingValue (cpu.getFR 6))) = 2 ^ ((e : ℤ) - 65535) + 1 := by
  have hone := toRat_power (e := 0xFFFF) (by decide) (by decide)
  unfold exactFused
  rw [h1, h6, if_neg (by decide)]
  dsimp only
  rw [if_neg (by decide), toRat_power he he', hone, Nat.cast_ofNat, sub_self, zpow_zero, one_mul, add_comm]

/-- `fma.s f7 = f1, f1, f6`. -/
def fmaExample : InstructionEx := { type := .FMA, rawBits := 0x1000000000, dst := 7, src1 := 1, src2 := 1, src3 := 6 }

theorem exponentInRange_of_le {y : ℚ} {a b : ℤ} (ha : -65534 ≤ a) (hb : b ≤ 65536) (hlow : 2 ^ a ≤ |y|)
    (hhigh : |y| < 2 ^ b) :
    ExponentInRange y :=
  ⟨(zpow_le_zpow_right₀ (by norm_num) ha).trans hlow, hhigh.trans_le (zpow_le_zpow_right₀ (by norm_num) hb)⟩

end GuideXOS.Isa
