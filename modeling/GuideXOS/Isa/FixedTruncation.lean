import GuideXOS.Isa.RegisterFormat
import GuideXOS.Lib.Rounding

/-!
# `FixedTruncation` — `FCVT.FX.TRUNC` and `FCVT.FXU.TRUNC`

A finite register value is its significand times a power of two. The two instructions shift the significand to the
integer exponent, and the signed one folds the sign into the two's complement.

A value whose truncation does not fit 64 bits is shifted all the same: what is left of it is the truncation modulo
`2 ^ 64`, and not the integer indefinite. The unsigned form copies a negative operand and a zero as they are.
`fixedTruncate_iff` says for which values the result is right.
-/

namespace GuideXOS.Isa
open Lib.Words Lib.Truncation GuideXOS.Core GuideXOS.Decoder

/-- The significand shifted from its exponent to the integer exponent, as both truncations do it. -/
def IA64FloatingValue.shifted (value : IA64FloatingValue) : UInt64 :=
  let shift : Int := value.exponent.toNat - 0x1003E
  if shift ≥ 64 then 0
  else if shift ≥ 0 then value.significand <<< UInt64.ofNat shift.toNat
  else if shift > -64 then value.significand >>> UInt64.ofNat (-shift).toNat
  else 0

/-- **`ExecuteUnsignedFixedTruncate`**, on the contents of the source. -/
def unsignedFixedTruncate (source : FRBytes) : FRBytes :=
  let value := readIA64FloatingValue source
  if value.natVal then natValBytes
  else if value.negative ∨ classifyIA64FloatingValue value ≠ .finite then source
  else frBytes value.shifted 0x1003E

/-- **`ExecuteSignedFixedTruncate`**, on the contents of the source. -/
def signedFixedTruncate (source : FRBytes) : FRBytes :=
  let value := readIA64FloatingValue source
  if value.natVal then natValBytes
  else if value.significand = 0 then frBytes 0 0x1003E
  else frBytes (if value.negative then ~~~value.shifted + 1 else value.shifted) 0x1003E

/-- The case **`FCVT_FXU`**. Only the opcode of the truncating form converts. -/
def executeFcvtFxu (view : RegisterView) (instr : InstructionEx) (cpu : CPUState) : CPUState :=
  let conversionOpcode := (instr.rawBits >>> 27) &&& 0x3F
  let source := (view cpu).getFR (registerField instr.src1)
  cpu.setFR (registerField instr.dst) (if conversionOpcode = 0x1B then unsignedFixedTruncate source else source)

/-- The case **`FCVT_FX`**. -/
def executeFcvtFx (view : RegisterView) (instr : InstructionEx) (cpu : CPUState) : CPUState :=
  cpu.setFR (registerField instr.dst) (signedFixedTruncate ((view cpu).getFR (registerField instr.src1)))

/-! ## What the value is -/

namespace IA64FloatingValue
variable {value : IA64FloatingValue}

/-- Neither a `NaTVal` nor an infinity or a `NaN`; normalised or not. -/
def IsFinite (value : IA64FloatingValue) : Prop := value.natVal = false ∧ value.exponent ≠ 0x1FFFF

/-- The exponent of two that scales the significand. Exponent zero has the scale of the double-extended denormals. -/
def scale (value : IA64FloatingValue) : ℤ :=
  if value.exponent = 0 then -16382 - 63 else (value.exponent.toNat : ℤ) - 65535 - 63

/-- The number that a finite value is. -/
def toRat (value : IA64FloatingValue) : ℚ :=
  let magnitude := (value.significand.toNat : ℚ) * 2 ^ value.scale
  if value.negative then -magnitude else magnitude

/-- Truncated toward zero. -/
def truncated (value : IA64FloatingValue) : ℤ := towardZero value.toRat

/-- The magnitude of the truncated value, by shifting. -/
def magnitude (value : IA64FloatingValue) : ℕ :=
  if 0x1003E ≤ value.exponent.toNat then value.significand.toNat * 2 ^ (value.exponent.toNat - 0x1003E)
  else value.significand.toNat / 2 ^ (0x1003E - value.exponent.toNat)

/-- What is shifted out of the word altogether is zero. -/
theorem significand_div_eq_zero (value : IA64FloatingValue) {k : ℕ} (h : 64 ≤ k) :
    value.significand.toNat / 2 ^ k = 0 := by
  have hlt := value.significand.toNat_lt
  have hpow : 2 ^ 64 ≤ 2 ^ k := Nat.pow_le_pow_right (by decide) h
  exact Nat.div_eq_of_lt (hlt.trans_le hpow)

theorem magnitude_eq_zero (h : value.significand = 0) : value.magnitude = 0 := by
  unfold magnitude
  rw [h, UInt64.toNat_zero]
  split
  · exact Nat.zero_mul _
  · exact Nat.zero_div _

theorem floor_magnitude (value : IA64FloatingValue) :
    ⌊(value.significand.toNat : ℚ) * 2 ^ value.scale⌋ = (value.magnitude : ℤ) := by
  unfold scale magnitude
  by_cases hzero : value.exponent = 0
  · -- the smallest values are below one in any case
    have hexponent : value.exponent.toNat = 0 := by rw [hzero, UInt32.toNat_zero]
    have hscale : (-16382 - 63 : ℤ) = -((16445 : ℕ) : ℤ) := rfl
    rw [if_pos hzero, if_neg (by omega), hscale, floor_scaled_down, significand_div_eq_zero _ (by omega),
      significand_div_eq_zero _ (by omega)]
  · rw [if_neg hzero]
    by_cases hup : 0x1003E ≤ value.exponent.toNat
    · have hscale : (value.exponent.toNat : ℤ) - 65535 - 63 = ((value.exponent.toNat - 0x1003E : ℕ) : ℤ) := by omega
      rw [if_pos hup, hscale, floor_scaled_up]
    · have hscale : (value.exponent.toNat : ℤ) - 65535 - 63 = -((0x1003E - value.exponent.toNat : ℕ) : ℤ) := by omega
      rw [if_neg hup, hscale, floor_scaled_down]

/-- The truncated value, with its sign. -/
theorem truncated_eq (value : IA64FloatingValue) :
    value.truncated = if value.negative then -(value.magnitude : ℤ) else value.magnitude := by
  have hnonneg := scaled_nonneg value.significand.toNat value.scale
  unfold truncated toRat
  dsimp only
  split
  · rw [towardZero_neg hnonneg, floor_magnitude]
  · rw [towardZero_of_nonneg hnonneg, floor_magnitude]

/-- **What the shifts leave** is the magnitude modulo the size of a word. -/
theorem shifted_toNat (value : IA64FloatingValue) : value.shifted.toNat = value.magnitude % 2 ^ 64 := by
  have hlt := value.significand.toNat_lt
  unfold shifted magnitude
  dsimp only
  by_cases hup : 0x1003E ≤ value.exponent.toNat
  · -- to the left: bits that leave the word are lost
    rw [if_pos hup]
    by_cases hfar : (value.exponent.toNat : ℤ) - 0x1003E ≥ 64
    · have hdvd : 2 ^ 64 ∣ value.significand.toNat * 2 ^ (value.exponent.toNat - 0x1003E) :=
        Dvd.dvd.mul_left (pow_dvd_pow 2 (by omega)) _
      rw [if_pos hfar, UInt64.toNat_zero, Nat.mod_eq_zero_of_dvd hdvd]
    · have hshift : ((value.exponent.toNat : ℤ) - 0x1003E).toNat = value.exponent.toNat - 0x1003E := by omega
      rw [if_neg hfar, if_pos (by omega), hshift, UInt64.toNat_shiftLeft, Nat.shiftLeft_eq,
        UInt64.toNat_ofNat_of_lt' (by rw [UInt64.size]; omega), Nat.mod_eq_of_lt (b := 64) (by omega)]
  · -- to the right: the fraction is lost
    rw [if_neg hup, if_neg (by omega), if_neg (by omega)]
    have hsmall : value.significand.toNat / 2 ^ (0x1003E - value.exponent.toNat) < 2 ^ 64 :=
      (Nat.div_le_self _ _).trans_lt hlt
    rw [Nat.mod_eq_of_lt hsmall]
    split
    · have hshift : (-((value.exponent.toNat : ℤ) - 0x1003E)).toNat = 0x1003E - value.exponent.toNat := by omega
      rw [hshift, UInt64.toNat_shiftRight, Nat.shiftRight_eq_div_pow,
        UInt64.toNat_ofNat_of_lt' (by rw [UInt64.size]; omega), Nat.mod_eq_of_lt (b := 64) (by omega)]
    · rw [significand_div_eq_zero _ (by omega), UInt64.toNat_zero]

end IA64FloatingValue

/-! ## When the conversions are right -/

/-- An integer in the register format. -/
def integerFormat (n : ℤ) : IA64FloatingValue :=
  { significand := UInt64.ofInt n, exponent := 0x1003E, negative := false, natVal := false }

/-- The integer indefinite, `0x8000000000000000`. -/
def integerIndefinite : IA64FloatingValue := integerFormat (2 ^ 63)

def FitsSigned (n : ℤ) : Prop := -2 ^ 63 ≤ n ∧ n < 2 ^ 63

def FitsUnsigned (n : ℤ) : Prop := 0 ≤ n ∧ n < 2 ^ 64

/-- **The conversion is right**: the truncated value, if it fits, and else the integer indefinite. -/
def Converts (Fits : ℤ → Prop) (value result : IA64FloatingValue) : Prop :=
  (Fits value.truncated → result = integerFormat value.truncated) ∧
    (¬ Fits value.truncated → result = integerIndefinite)

theorem integerFormat_eq_iff (m n : ℤ) : integerFormat m = integerFormat n ↔ m % 2 ^ 64 = n % 2 ^ 64 := by
  unfold integerFormat
  rw [IA64FloatingValue.mk.injEq]
  simp only [and_self, and_true]
  rw [← UInt64.toNat_inj, UInt64.ofInt, UInt64.ofInt, UInt64.toNat_ofNat', UInt64.toNat_ofNat']
  omega

/-- The truncation modulo the size of a word is right if it fits or looks indefinite. -/
theorem converts_integerFormat_iff (Fits : ℤ → Prop) (value : IA64FloatingValue) :
    Converts Fits value (integerFormat value.truncated) ↔
      Fits value.truncated ∨ value.truncated % 2 ^ 64 = 2 ^ 63 := by
  have hindefinite : integerFormat value.truncated = integerIndefinite ↔ value.truncated % 2 ^ 64 = 2 ^ 63 :=
    integerFormat_eq_iff _ (2 ^ 63)
  unfold Converts
  rw [hindefinite]
  constructor
  · rintro ⟨_, hnot⟩
    by_cases hfits : Fits value.truncated
    · exact .inl hfits
    · exact .inr (hnot hfits)
  · rintro (hfits | hlooks)
    · exact ⟨fun _ => rfl, fun hnot => absurd hfits hnot⟩
    · exact ⟨fun _ => rfl, fun _ => hlooks⟩

/-- **The signed conversion** gives the truncation modulo the size of a word. -/
theorem read_signedFixedTruncate {source : FRBytes} (h : (readIA64FloatingValue source).natVal = false) :
    readIA64FloatingValue (signedFixedTruncate source) = integerFormat (readIA64FloatingValue source).truncated := by
  have hnat : ¬ (readIA64FloatingValue source).natVal = true := by simp [h]
  unfold signedFixedTruncate
  generalize readIA64FloatingValue source = value at hnat ⊢
  have hshifted := value.shifted_toNat
  dsimp only
  rw [if_neg hnat, IA64FloatingValue.truncated_eq]
  by_cases hzero : value.significand = 0
  · rw [if_pos hzero, readIA64FloatingValue_frBytes, IA64FloatingValue.magnitude_eq_zero hzero]
    split <;> rfl
  · rw [if_neg hzero, readIA64FloatingValue_frBytes]
    have hword : (if value.negative then ~~~value.shifted + 1 else value.shifted) =
        UInt64.ofInt (if value.negative then -(value.magnitude : ℤ) else value.magnitude) := by
      have hshifted' : value.shifted = UInt64.ofNat value.magnitude := by
        rw [← UInt64.toNat_inj, hshifted, UInt64.toNat_ofNat']
      split
      · rw [UInt64.ofInt_neg, ofInt_natCast, ← hshifted', UInt64.neg_eq_not_add]
      · rw [ofInt_natCast, hshifted']
    rw [hword]
    rfl

/-- **The unsigned conversion** does so for positive values; the others it copies. -/
theorem read_unsignedFixedTruncate {source : FRBytes} (h : (readIA64FloatingValue source).IsFinite) :
    readIA64FloatingValue (unsignedFixedTruncate source) =
      if (readIA64FloatingValue source).negative ∨ (readIA64FloatingValue source).significand = 0
      then readIA64FloatingValue source else integerFormat (readIA64FloatingValue source).truncated := by
  have hnat : ¬ (readIA64FloatingValue source).natVal = true := by simp [h.1]
  unfold unsignedFixedTruncate
  dsimp only
  rw [if_neg hnat]
  by_cases hsign : (readIA64FloatingValue source).negative = true
  · rw [if_pos (.inl hsign), if_pos (.inl hsign)]
  · by_cases hzero : (readIA64FloatingValue source).significand = 0
    · -- a zero is in a class of its own, and is copied
      have hclass : classifyIA64FloatingValue (readIA64FloatingValue source) ≠ .finite := by
        unfold classifyIA64FloatingValue
        rw [if_neg hnat, if_neg h.2, if_pos hzero]
        split <;> decide
      rw [if_pos (.inr hclass), if_pos (.inr hzero)]
    · have hclass : classifyIA64FloatingValue (readIA64FloatingValue source) = .finite := by
        unfold classifyIA64FloatingValue
        rw [if_neg hnat, if_neg h.2, if_neg hzero]
      have hshifted := (readIA64FloatingValue source).shifted_toNat
      rw [if_neg (not_or.mpr ⟨hsign, not_not.mpr hclass⟩), if_neg (not_or.mpr ⟨hsign, hzero⟩),
        readIA64FloatingValue_frBytes, IA64FloatingValue.truncated_eq, if_neg hsign]
      unfold integerFormat
      rw [ofInt_natCast]
      have hword : (readIA64FloatingValue source).shifted = UInt64.ofNat (readIA64FloatingValue source).magnitude := by
        rw [← UInt64.toNat_inj, hshifted, UInt64.toNat_ofNat']
      rw [hword]

/-- A value that is copied is right only if it is zero in the integer format. -/
theorem converts_copied_iff {value : IA64FloatingValue} (hfinite : value.IsFinite)
    (hcopied : value.negative = true ∨ value.significand = 0) :
    Converts FitsUnsigned value value ↔
      value.negative = false ∧ value.significand = 0 ∧ value.exponent = 0x1003E := by
  have hzero : value.significand = 0 → value.truncated = 0 := by
    intro hsig
    rw [IA64FloatingValue.truncated_eq, IA64FloatingValue.magnitude_eq_zero hsig]
    split <;> rfl
  constructor
  · -- neither of the two right results is negative
    rintro ⟨hfits, hnot⟩
    have hpositive : value.negative = false := by
      by_cases h : FitsUnsigned value.truncated
      · exact congrArg IA64FloatingValue.negative (hfits h)
      · exact congrArg IA64FloatingValue.negative (hnot h)
    have hsig : value.significand = 0 := hcopied.resolve_left (by simp [hpositive])
    have hresult := hfits (by rw [hzero hsig]; exact ⟨le_rfl, by decide⟩)
    exact ⟨hpositive, hsig, congrArg IA64FloatingValue.exponent hresult⟩
  · rintro ⟨hpositive, hsig, hexponent⟩
    have htruncated := hzero hsig
    unfold Converts
    rw [htruncated]
    refine ⟨fun _ => ?_, fun hnot => absurd ⟨le_rfl, by decide⟩ hnot⟩
    cases value
    simp only at hpositive hsig hexponent
    have hnat := hfinite.1
    simp only at hnat
    subst hpositive hsig hexponent hnat
    rfl

/-- The values that the unsigned conversion truncates. -/
def ConvertsUnsigned (value : IA64FloatingValue) : Prop :=
  value.negative = false ∧
    if value.significand = 0 then value.exponent = 0x1003E
    else FitsUnsigned value.truncated ∨ value.truncated % 2 ^ 64 = 2 ^ 63

/-- **Floating to fixed truncation is right** for the finite values that fit, and for those that leave the pattern of
    the integer indefinite in the word; the unsigned one not for negative values, nor for a zero that is not in the
    integer format. -/
theorem fixedTruncate_iff : ∀ (instr : InstructionEx) (cpu : CPUState), 2 ≤ (registerField instr.dst).val →
    (readIA64FloatingValue (cpu.getFR (registerField instr.src1))).IsFinite →
    let value := readIA64FloatingValue (cpu.getFR (registerField instr.src1))
    (Converts FitsSigned value
        (readIA64FloatingValue ((executeFcvtFx id instr cpu).getFR (registerField instr.dst))) ↔
      FitsSigned value.truncated ∨ value.truncated % 2 ^ 64 = 2 ^ 63) ∧
    ((instr.rawBits >>> 27) &&& (0x3F : UInt64) = 0x1B →
      (Converts FitsUnsigned value
          (readIA64FloatingValue ((executeFcvtFxu id instr cpu).getFR (registerField instr.dst))) ↔
        ConvertsUnsigned value)) := by
  intro instr cpu hdst hfinite
  dsimp only
  refine ⟨?_, fun hopcode => ?_⟩
  · rw [executeFcvtFx, getFR_setFR _ _ hdst, id, read_signedFixedTruncate hfinite.1]
    exact converts_integerFormat_iff _ _
  · unfold executeFcvtFxu
    dsimp only
    rw [getFR_setFR _ _ hdst, if_pos hopcode, id, read_unsignedFixedTruncate hfinite]
    generalize readIA64FloatingValue (cpu.getFR (registerField instr.src1)) = value at hfinite ⊢
    unfold ConvertsUnsigned
    by_cases hcopied : value.negative = true ∨ value.significand = 0
    · rw [if_pos hcopied, converts_copied_iff hfinite hcopied]
      by_cases hzero : value.significand = 0
      · rw [if_pos hzero]
        exact ⟨fun h => ⟨h.1, h.2.2⟩, fun h => ⟨h.1, hzero, h.2⟩⟩
      · have hsign := hcopied.resolve_right hzero
        exact ⟨fun h => absurd h.2.1 hzero, fun h => absurd (hsign.symm.trans h.1) (by decide)⟩
    · obtain ⟨hsign, hzero⟩ := not_or.mp hcopied
      rw [if_neg hcopied, if_neg hzero, converts_integerFormat_iff]
      exact ⟨fun h => ⟨by simpa using hsign, h⟩, fun h => h.2⟩

/-- `fcvt.fx.trunc f6 = f1` makes the integer 1 of `1.0`. -/
theorem fixedTruncate_iff_one :
    Converts FitsSigned (readIA64FloatingValue (CPUState.reset.getFR 1))
      (readIA64FloatingValue ((executeFcvtFx id { type := .FCVT_FX, dst := 6, src1 := 1 } CPUState.reset).getFR 6)) := by
  have hfinite : (readIA64FloatingValue (CPUState.reset.getFR 1)).IsFinite := ⟨by decide +kernel, by decide +kernel⟩
  have htruncated : (readIA64FloatingValue (CPUState.reset.getFR 1)).truncated = 1 := by
    rw [IA64FloatingValue.truncated_eq]
    decide +kernel
  have h := fixedTruncate_iff { type := .FCVT_FX, dst := 6, src1 := 1 } CPUState.reset (by decide) hfinite
  refine h.1.mpr (.inl ?_)
  show FitsSigned (readIA64FloatingValue (CPUState.reset.getFR 1)).truncated
  rw [htruncated]
  exact ⟨by decide, by decide⟩

/-- `2 ^ 64` is one bit beyond the word, and becomes zero in both conversions. -/
theorem wraps_of_getFR {cpu : CPUState} (h : cpu.getFR 6 = frBytes 0x8000000000000000 0x1003F) :
    (readIA64FloatingValue (cpu.getFR 6)).IsFinite ∧ (readIA64FloatingValue (cpu.getFR 6)).truncated = 2 ^ 64 ∧
      (executeFcvtFx id { type := .FCVT_FX, dst := 7, src1 := 6 } cpu).getFR 7 = frBytes 0 0x1003E ∧
      (executeFcvtFxu id { type := .FCVT_FXU, rawBits := 0xD8000000, dst := 7, src1 := 6 } cpu).getFR 7 =
        frBytes 0 0x1003E := by
  have htruncated : (readIA64FloatingValue (frBytes 0x8000000000000000 0x1003F)).truncated = 2 ^ 64 := by
    rw [IA64FloatingValue.truncated_eq]
    decide +kernel
  have hsigned : signedFixedTruncate (frBytes 0x8000000000000000 0x1003F) = frBytes 0 0x1003E := by decide +kernel
  have hunsigned : unsignedFixedTruncate (frBytes 0x8000000000000000 0x1003F) = frBytes 0 0x1003E := by decide +kernel
  refine ⟨?_, ?_, ?_, ?_⟩
  · rw [h]
    exact ⟨by decide +kernel, by decide +kernel⟩
  · rw [h, htruncated]
  · have hset := getFR_setFR cpu 7 (by decide) (signedFixedTruncate (cpu.getFR 6))
    rw [h, hsigned] at hset
    rw [← hset, ← hsigned, ← h]
    rfl
  · have hset := getFR_setFR cpu 7 (by decide) (unsignedFixedTruncate (cpu.getFR 6))
    rw [h, hunsigned] at hset
    rw [← hset, ← hunsigned, ← h]
    rfl

/-- **A value that is wrapped.** -/
theorem fixedTruncate_wraps :
    let cpu := CPUState.reset.setFR 6 (frBytes 0x8000000000000000 0x1003F)
    (readIA64FloatingValue (cpu.getFR 6)).IsFinite ∧ (readIA64FloatingValue (cpu.getFR 6)).truncated = 2 ^ 64 ∧
      ¬ Converts FitsSigned (readIA64FloatingValue (cpu.getFR 6))
        (readIA64FloatingValue ((executeFcvtFx id { type := .FCVT_FX, dst := 7, src1 := 6 } cpu).getFR 7)) ∧
      ¬ Converts FitsUnsigned (readIA64FloatingValue (cpu.getFR 6))
        (readIA64FloatingValue
          ((executeFcvtFxu id { type := .FCVT_FXU, rawBits := 0xD8000000, dst := 7, src1 := 6 } cpu).getFR 7)) := by
  intro cpu
  have hsource : cpu.getFR 6 = frBytes 0x8000000000000000 0x1003F := getFR_setFR _ _ (by decide) _
  generalize cpu = cpu at hsource
  obtain ⟨hfinite, htruncated, hsigned, hunsigned⟩ := wraps_of_getFR hsource
  have hwrong : integerFormat 0 ≠ integerIndefinite := by decide
  rw [hsigned, hunsigned, readIA64FloatingValue_frBytes]
  refine ⟨hfinite, htruncated, fun h => hwrong (h.2 ?_), fun h => hwrong (h.2 ?_)⟩
  · rw [htruncated]
    exact fun hfits => absurd hfits.2 (by decide)
  · rw [htruncated]
    exact fun hfits => absurd hfits.2 (by decide)

end GuideXOS.Isa
