import GuideXOS.Isa.RegisterFormat

/-!
# `FusedArithmetic` — multiply and add, and the reciprocal approximations

`FMA`, `FMS` and `FNMA` work on the register format and not on numbers of the host: the product of the significands is
exact, the addend is aligned with it, and the sum is rounded once. Integers of twelve limbs of 32 bits hold it.

`FRCPA` and `FRSQRTA` compute in the host's `long double`, whose arithmetic is a parameter. They tell the program in a
predicate whether the approximation is to be refined.
-/

namespace GuideXOS.Isa
open Lib Lib.Words GuideXOS.Core GuideXOS.Decoder

/-! ## Wide integers -/

/-- **`WideInteger`**: its twelve limbs as one number. -/
abbrev WideInteger := BitVec 384

namespace WideInteger

variable (x : WideInteger)

/-- **`BitLength`.** -/
def bitLength : Nat := x.toNat.size

/-- **`AnyBelow`.** -/
def anyBelow (bitCount : Nat) : Bool := x.toNat % 2 ^ bitCount != 0

/-- **`Low64`.** -/
def low64 : UInt64 := UInt64.ofNat x.toNat

/-- **`FromU64`.** -/
def fromU64 (value : UInt64) : WideInteger := BitVec.ofNat 384 value.toNat

/-- **`FromUInt128`.** -/
def fromUInt128 (value : UInt128Parts) : WideInteger := BitVec.ofNat 384 value.toNat

end WideInteger

structure SignedWideInteger where
  negative : Bool
  magnitude : WideInteger

/-- **`AddSignedWide`.** -/
def addSignedWide (left right : SignedWideInteger) : SignedWideInteger :=
  if left.negative = right.negative then ⟨left.negative, left.magnitude + right.magnitude⟩
  else if left.magnitude = right.magnitude then ⟨false, 0⟩
  else if left.magnitude > right.magnitude then ⟨left.negative, left.magnitude - right.magnitude⟩
  else ⟨right.negative, right.magnitude - left.magnitude⟩

/-! ## Rounding -/

/-- **`ShouldRoundUp`.** The low two bits of the control are the rounding mode. -/
def shouldRoundUp (magnitude : WideInteger) (shift : Nat) (retained : UInt64) (negative : Bool)
    (roundingControl : UInt64) : Bool :=
  if shift = 0 then false
  else
    let discarded := magnitude.anyBelow shift
    if roundingControl &&& 3 = 1 then false
    else if roundingControl &&& 3 = 2 then !negative && discarded
    else if roundingControl &&& 3 = 3 then negative && discarded
    else magnitude.getLsbD (shift - 1) && (magnitude.anyBelow (shift - 1) || retained &&& 1 != 0)

/-- **`WriteRoundedIA64Value`.** -/
def roundedIA64Value (exact : SignedWideInteger) (exponentBase : Int) (precisionBits : Nat)
    (roundingControl : UInt64) : FRBytes :=
  if exact.magnitude = 0 then frBytes 0 0
  else
    let originalBitLength := exact.magnitude.bitLength
    let shift := originalBitLength - precisionBits
    let retained := WideInteger.low64 (exact.magnitude >>> shift)
    let retained := if shouldRoundUp exact.magnitude shift retained exact.negative roundingControl then retained + 1
      else retained
    let overflows := precisionBits < 64 ∧ retained = (1 : UInt64) <<< UInt64.ofNat precisionBits
    let resultBitLength := if overflows then originalBitLength + 1 else originalBitLength
    let retained := if overflows then retained >>> 1 else retained
    let retained := if originalBitLength < precisionBits then
        retained <<< UInt64.ofNat (precisionBits - originalBitLength)
      else retained
    let significand := if precisionBits = 64 then retained else retained <<< UInt64.ofNat (64 - precisionBits)
    let exponent : Int := 0x1003E + exponentBase + resultBitLength - 64
    let exponent := max 0 (min 0x1FFFF exponent)
    frBytes significand (UInt64.ofNat exponent.toNat ||| if exact.negative then (1 : UInt64) <<< 17 else 0)

/-! ## `FMA`, `FMS` and `FNMA` -/

/-- The status field of an instruction, of the four in `AR.FPSR`. -/
def statusFieldShift (rawBits : UInt64) : UInt64 := ((rawBits >>> 34) &&& 3) * 7

/-- **`FusedArithmeticPrecisionBits`**, given `AR.FPSR`. -/
def fusedArithmeticPrecisionBits (fpsr rawBits : UInt64) : Nat :=
  let major := majorOpcode rawBits
  let fixedSingle := (rawBits >>> 36) &&& 1 != 0
  if fixedSingle then 24
  else if major = 0x9 ∨ major = 0xB ∨ major = 0xD then 53
  else
    let controls := (fpsr >>> statusFieldShift rawBits) &&& 0x7F
    if (controls >>> 2) &&& 3 = 0 then 24
    else if (controls >>> 2) &&& 3 = 1 then 53
    else 64

/-- **`ExecuteFusedArithmetic`** on the contents of the registers. Without an addend the sum is the product. -/
def fusedArithmetic (type : InstructionType) (precisionBits : Nat) (roundingControl : UInt64)
    (multiplicand multiplier : FRBytes) (addend : Option FRBytes) : FRBytes :=
  let left := readIA64FloatingValue multiplicand
  let right := readIA64FloatingValue multiplier
  if left.natVal || right.natVal || addend.any (fun bytes => (readIA64FloatingValue bytes).natVal) then natValBytes
  else
    let productExponent : Int := left.exponent.toNat - 0x1003E + (right.exponent.toNat - 0x1003E)
    let product : SignedWideInteger :=
      { negative := (left.negative != right.negative) == (type != .FNMA)
        magnitude := .fromUInt128 (multiplyUnsigned64 left.significand right.significand) }
    let write := fun exact exponentBase => roundedIA64Value exact exponentBase precisionBits roundingControl
    match addend with
    | none => write product productExponent
    | some bytes =>
        let value := readIA64FloatingValue bytes
        let addendExponent : Int := value.exponent.toNat - 0x1003E
        let addend : SignedWideInteger := ⟨value.negative != (type == .FMS), .fromU64 value.significand⟩
        if product.magnitude = 0 then write addend addendExponent
        else if value.significand = 0 then write product productExponent
        else if (productExponent - addendExponent).natAbs ≤ 256 then
          let commonExponent := min productExponent addendExponent
          let product := { product with
            magnitude := product.magnitude <<< (productExponent - commonExponent).toNat }
          let addend := { addend with magnitude := addend.magnitude <<< (addendExponent - commonExponent).toNat }
          write (addSignedWide product addend) commonExponent
        -- too far apart to be added: the source keeps the one with the smaller exponent
        else if productExponent < addendExponent then write product productExponent
        else write addend addendExponent

/-- The cases **`FMA`**, `FMS` and `FNMA`. The addend is the third source, and there is none if it is `FR0`. -/
def executeFusedArithmetic (view : RegisterView) (instr : InstructionEx) (cpu : CPUState) : CPUState :=
  let fpsr := (view cpu).getAR 40
  let addend := if instr.src3 = 0 then none else some ((view cpu).getFR (registerField instr.src3))
  cpu.setFR (registerField instr.dst)
    (fusedArithmetic instr.type (fusedArithmeticPrecisionBits fpsr instr.rawBits)
      ((fpsr >>> statusFieldShift instr.rawBits) &&& 3) ((view cpu).getFR (registerField instr.src1))
      ((view cpu).getFR (registerField instr.src2)) addend)

/-! ## `FRCPA` and `FRSQRTA` -/

/-- The host's `long double`, as far as the approximations use it. -/
structure LongDouble (F : Type) where
  ofUInt64 : UInt64 → F
  half : F
  neg : F → F
  fabs : F → F
  add : F → F → F
  sub : F → F → F
  mul : F → F → F
  div : F → F → F
  sqrt : F → F
  floor : F → F
  ldexp : F → Int → F
  frexp : F → F × Int
  toUInt64 : F → UInt64
  isZero : F → Bool
  isFinite : F → Bool

/-- A host whose `long double` is its `double`. -/
def doubleHost : LongDouble Float where
  ofUInt64 := UInt64.toFloat
  half := 0.5
  neg := Float.neg
  fabs := Float.abs
  add := Float.add
  sub := Float.sub
  mul := Float.mul
  div := Float.div
  sqrt := Float.sqrt
  floor := Float.floor
  ldexp := Float.scaleB
  frexp := Float.frExp
  toUInt64 := Float.toUInt64
  isZero := fun x => x == 0
  isFinite := Float.isFinite

/-- **`WriteIA64Zero`.** -/
def zeroBytes (negative : Bool) : FRBytes := frBytes 0 (if negative then (1 : UInt64) <<< 17 else 0)

/-- **`WriteIA64Infinity`.** -/
def infinityBytes (negative : Bool) : FRBytes :=
  frBytes 0x8000000000000000 ((0x1FFFF : UInt64) ||| if negative then (1 : UInt64) <<< 17 else 0)

/-- **`WriteIA64NaN`.** -/
def nanBytes : FRBytes := frBytes 0xC000000000000000 0x1FFFF

section Host
variable {F : Type} (host : LongDouble F)

/-- **`IA64ToLongDouble`.** -/
def toLongDouble (value : IA64FloatingValue) : F :=
  if value.significand = 0 then
    if value.negative then host.neg (host.ofUInt64 0) else host.ofUInt64 0
  else
    let exponent : Int := if value.exponent = 0 then -16382 - 63 else value.exponent.toNat - 65535 - 63
    let magnitude := host.ldexp (host.ofUInt64 value.significand) exponent
    if value.negative then host.neg magnitude else magnitude

/-- **`WriteIA64Approximation`.** The significand is built from two halves of 32 bits, the lower one rounded. -/
def approximationBytes (value : F) (negative : Bool) : FRBytes :=
  if host.isZero value then zeroBytes negative
  else if host.isFinite value = false then infinityBytes negative
  else
    let (fraction, exponent) := host.frexp (host.fabs value)
    let scaled := host.ldexp fraction 64
    let highPart := host.floor (host.div scaled (host.ofUInt64 4294967296))
    let high := host.toUInt64 highPart
    let low := host.toUInt64 (host.floor
      (host.add (host.sub scaled (host.mul highPart (host.ofUInt64 4294967296))) host.half))
    let (high, low) := if low = 0x100000000 then (high + 1, 0) else (high, low)
    let biasedExponent : Int := 65535 + exponent - 1
    let carries := high ≥ 0x100000000
    let (high, low) := if carries then (0x80000000, 0) else (high, low)
    let biasedExponent := if carries then biasedExponent + 1 else biasedExponent
    if biasedExponent ≥ 0x1FFFF then infinityBytes negative
    else if biasedExponent ≤ 0 then zeroBytes negative
    else frBytes ((high <<< 32) ||| low)
      (UInt64.ofNat biasedExponent.toNat ||| if negative then (1 : UInt64) <<< 17 else 0)

/-- **`IsIA64ZeroLike`.** -/
def isZeroLike (c : IA64FloatingClass) : Bool := c = .zero || c = .pseudoZero

/-- **`IsIA64NaNLike`.** -/
def isNaNLike (c : IA64FloatingClass) : Bool := c = .nan || c = .unsupported

def isInfinity (c : IA64FloatingClass) : Bool := c = .positiveInfinity || c = .negativeInfinity

/-- `FRSQRTA`: what is written, and whether it is to be refined. -/
def reciprocalSqrt (first : IA64FloatingValue) : FRBytes × Bool :=
  let c := classifyIA64FloatingValue first
  if first.natVal then (natValBytes, false)
  else if isZeroLike c then (infinityBytes first.negative, false)
  else if c = .positiveInfinity then (zeroBytes false, false)
  else if c = .finite ∧ first.negative = false then
    (approximationBytes host (host.div (host.ofUInt64 1) (host.sqrt (toLongDouble host first))) false, true)
  else (nanBytes, false)

/-- `FRCPA`: what is written, and whether it is to be refined. -/
def reciprocal (first second : IA64FloatingValue) : FRBytes × Bool :=
  let numerator := classifyIA64FloatingValue first
  let denominator := classifyIA64FloatingValue second
  if first.natVal || second.natVal then (natValBytes, false)
  else if isNaNLike numerator || isNaNLike denominator || isInfinity numerator && isInfinity denominator ||
      isZeroLike numerator && isZeroLike denominator then (nanBytes, false)
  else if isInfinity numerator || isZeroLike denominator then
    (infinityBytes (first.negative != second.negative), false)
  else if isInfinity denominator || isZeroLike numerator then (zeroBytes (first.negative != second.negative), false)
  else if numerator = .finite ∧ denominator = .finite then
    (approximationBytes host (host.div (host.ofUInt64 1) (host.fabs (toLongDouble host second))) second.negative, true)
  else (nanBytes, false)

/-- **`ExecuteReciprocalApproximation`.** -/
def executeReciprocalApproximation (view : RegisterView) (instr : InstructionEx) (cpu : CPUState) : CPUState :=
  let first := readIA64FloatingValue ((view cpu).getFR (registerField instr.src1))
  let (bytes, refine) := if instr.type = .FRSQRTA then reciprocalSqrt host first
    else reciprocal host first (readIA64FloatingValue ((view cpu).getFR (registerField instr.src2)))
  (cpu.setPR (predicateField instr.predicate2) refine).setFR (registerField instr.dst) bytes

end Host

end GuideXOS.Isa
