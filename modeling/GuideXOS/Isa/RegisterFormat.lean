import GuideXOS.Core.Rotation
import GuideXOS.Isa.ExecuteInstruction
import GuideXOS.Lib.WideProducts

/-!
# `RegisterFormat` — integers in floating-point registers

A floating-point register holds 16 bytes: a significand of 64 bits with an explicit integer bit, an exponent of 17 bits
and a sign. An integer is kept in the significand, under the exponent `0x1003E`.

`XMA` multiplies two significands and adds a third: `xma_exact`.

What an instruction reads of the registers it reads through a `RegisterView`. The processor's own is the identity.
-/

namespace GuideXOS.Isa
open Lib Lib.Words Lib.WideProducts GuideXOS.Core GuideXOS.Decoder

/-- How an instruction sees the registers, given the processor at the time of the access. -/
abbrev RegisterView := CPUState → CPUState

/-! ## Sixteen bytes -/

/-- The bytes of a floating-point register. -/
abbrev FRBytes := Vector UInt8 16

/-- **`ReadLittleEndian64`** at a byte offset. -/
def readLittleEndian64 (bytes : FRBytes) (offset : Nat) : UInt64 := wordOfBytes ((bytes.toList.drop offset).take 8)

/-- A zeroed register with two words written by **`WriteLittleEndian64`**. -/
def frBytes (significand signAndExponent : UInt64) : FRBytes :=
  ⟨(bytesOfWord 8 significand ++ bytesOfWord 8 signAndExponent).toArray, by simp⟩

variable (significand : UInt64) (signAndExponent : UInt64)

theorem toList_frBytes :
    (frBytes significand signAndExponent).toList = bytesOfWord 8 significand ++ bytesOfWord 8 signAndExponent := rfl

@[simp] theorem readLittleEndian64_frBytes :
    readLittleEndian64 (frBytes significand signAndExponent) 0 = significand := by
  rw [readLittleEndian64, toList_frBytes, List.drop_zero, List.take_left' (length_bytesOfWord 8 _)]
  exact wordOfBytes_bytesOfWord significand

@[simp] theorem readLittleEndian64_frBytes_eight :
    readLittleEndian64 (frBytes significand signAndExponent) 8 = signAndExponent := by
  rw [readLittleEndian64, toList_frBytes, List.drop_left' (length_bytesOfWord 8 _),
    List.take_of_length_le (by rw [length_bytesOfWord])]
  exact wordOfBytes_bytesOfWord signAndExponent

/-- **`IsNatVal`.** -/
def isNatVal (bytes : FRBytes) : Bool :=
  readLittleEndian64 bytes 0 == 0 && (readLittleEndian64 bytes 8 &&& 0x3FFFF) == 0x1FFFE

/-- What **`WriteNatVal`** writes. -/
def natValBytes : FRBytes := frBytes 0 0x1FFFE

/-- A register written reads so; `FR0` and `FR1` cannot be. -/
theorem getFR_setFR (cpu : CPUState) (index : Fin 128) (h : 2 ≤ index.val) (value : FRBytes) :
    (cpu.setFR index value).getFR index = value := by
  have hmap : 2 ≤ (cpu.mapFR index).val := by
    rw [CPUState.mapFR_eq]
    by_cases hlow : index.val < 32
    · rwa [Windows.turned_outside (.inl hlow)]
    · have hlast : index.val < 32 + 96 := index.isLt
      have hmem := (Windows.turned_mem cpu.getRRB_FR.toNat (Nat.le_of_not_lt hlow) hlast).1
      omega
  have hne0 : cpu.mapFR index ≠ 0 := fun heq => by
    rw [heq] at hmap
    exact absurd hmap (by decide)
  have hne1 : cpu.mapFR index ≠ 1 := fun heq => by
    rw [heq] at hmap
    exact absurd hmap (by decide)
  show (cpu.fr.setPhysical (cpu.mapFR index) value).getPhysical (cpu.mapFR index) = value
  rw [FRFile.setPhysical, dif_neg (not_or.mpr ⟨hne0, hne1⟩), FRFile.getPhysical, if_neg hne0, if_neg hne1]
  exact Vector.getElem_set_self _

/-! ## `XMA` -/

structure UInt128Parts where
  lo : UInt64
  hi : UInt64

/-- **`MultiplyUnsigned64`.** -/
def multiplyUnsigned64 (left right : UInt64) : UInt128Parts :=
  let leftLo := left &&& 0xFFFFFFFF
  let leftHi := left >>> 32
  let rightLo := right &&& 0xFFFFFFFF
  let rightHi := right >>> 32
  let p0 := leftLo * rightLo
  let p1 := leftLo * rightHi
  let p2 := leftHi * rightLo
  let p3 := leftHi * rightHi
  let middle := (p0 >>> 32) + (p1 &&& 0xFFFFFFFF) + (p2 &&& 0xFFFFFFFF)
  { lo := (p0 &&& (0xFFFFFFFF : UInt64)) ||| (middle <<< 32)
    hi := p3 + ((p1 >>> 32) + (p2 >>> 32) + (middle >>> 32)) }

/-- **`MultiplySigned64`.** -/
def multiplySigned64 (left right : UInt64) : UInt128Parts :=
  let result := multiplyUnsigned64 left right
  let hi := if left >>> 63 ≠ 0 then result.hi - right else result.hi
  { result with hi := if right >>> 63 ≠ 0 then hi - left else hi }

/-- **`AddUInt128`.** -/
def addUInt128 (left : UInt128Parts) (right : UInt64) : UInt128Parts :=
  let lo := left.lo + right
  { lo, hi := if lo < left.lo then left.hi + 1 else left.hi }

/-- The number that two words are. -/
def UInt128Parts.toNat (parts : UInt128Parts) : Nat := parts.hi.toNat * 2 ^ 64 + parts.lo.toNat

theorem UInt128Parts.toNat_cast (parts : UInt128Parts) :
    (parts.toNat : Int) = parts.hi.toNat * 2 ^ 64 + parts.lo.toNat := by
  unfold UInt128Parts.toNat
  push_cast
  rfl

variable (x : UInt64) (y : UInt64)

theorem toNat_low : (x &&& 0xFFFFFFFF).toNat = x.toNat % 2 ^ 32 := by
  have hmask : (0xFFFFFFFF : UInt64).toNat = 2 ^ 32 - 1 := rfl
  rw [UInt64.toNat_and, hmask, Nat.and_two_pow_sub_one_eq_mod]

theorem toNat_high : (x >>> 32).toNat = x.toNat / 2 ^ 32 := by
  rw [UInt64.toNat_shiftRight]
  exact Nat.shiftRight_eq_div_pow _ 32

/-- Two halves put together. -/
theorem toNat_halves :
    ((x &&& (0xFFFFFFFF : UInt64)) ||| (y <<< 32)).toNat = x.toNat % 2 ^ 32 + y.toNat % 2 ^ 32 * 2 ^ 32 := by
  have hlow : x.toNat % 2 ^ 32 < 2 ^ 32 := Nat.mod_lt _ (by decide)
  have hshift : (y <<< 32).toNat = (y.toNat % 2 ^ 32) <<< 32 := by
    rw [UInt64.toNat_shiftLeft, Nat.shiftLeft_eq, Nat.shiftLeft_eq]
    show y.toNat * 2 ^ 32 % 2 ^ 64 = _
    omega
  rw [UInt64.toNat_or, toNat_low, hshift, Lib.Words.or_shiftLeft hlow]

/-- A product of halves does not overflow. -/
theorem toNat_mul_halves {x y : UInt64} (hx : x.toNat < 2 ^ 32) (hy : y.toNat < 2 ^ 32) :
    (x * y).toNat = x.toNat * y.toNat ∧ x.toNat * y.toNat ≤ (2 ^ 32 - 1) * (2 ^ 32 - 1) := by
  have hle : x.toNat * y.toNat ≤ (2 ^ 32 - 1) * (2 ^ 32 - 1) := Nat.mul_le_mul (by omega) (by omega)
  refine ⟨?_, hle⟩
  rw [UInt64.toNat_mul]
  exact Nat.mod_eq_of_lt (by omega)

/-- **The product is exact.** -/
theorem toNat_multiplyUnsigned64 (left right : UInt64) :
    (multiplyUnsigned64 left right).toNat = left.toNat * right.toNat := by
  have hleft := left.toNat_lt
  have hright := right.toNat_lt
  have hleftLo : (left &&& 0xFFFFFFFF).toNat < 2 ^ 32 := by
    rw [toNat_low]
    omega
  have hrightLo : (right &&& 0xFFFFFFFF).toNat < 2 ^ 32 := by
    rw [toNat_low]
    omega
  have hleftHi : (left >>> 32).toNat < 2 ^ 32 := by
    rw [toNat_high]
    omega
  have hrightHi : (right >>> 32).toNat < 2 ^ 32 := by
    rw [toNat_high]
    omega
  obtain ⟨h0, hle0⟩ := toNat_mul_halves hleftLo hrightLo
  obtain ⟨h1, hle1⟩ := toNat_mul_halves hleftLo hrightHi
  obtain ⟨h2, hle2⟩ := toNat_mul_halves hleftHi hrightLo
  obtain ⟨h3, hle3⟩ := toNat_mul_halves hleftHi hrightHi
  have hdigits := digits_mul (2 ^ 32) left.toNat right.toNat
  rw [← toNat_low, ← toNat_low, ← toNat_high, ← toNat_high, ← h0, ← h1, ← h2, ← h3] at hdigits
  rw [← h0] at hle0
  rw [← h1] at hle1
  rw [← h2] at hle2
  rw [← h3] at hle3
  unfold multiplyUnsigned64 UInt128Parts.toNat
  dsimp only
  generalize (left &&& (0xFFFFFFFF : UInt64)) * (right &&& (0xFFFFFFFF : UInt64)) = p0 at hdigits hle0 ⊢
  generalize (left &&& (0xFFFFFFFF : UInt64)) * (right >>> 32) = p1 at hdigits hle1 ⊢
  generalize (left >>> 32) * (right &&& (0xFFFFFFFF : UInt64)) = p2 at hdigits hle2 ⊢
  generalize (left >>> 32) * (right >>> 32) = p3 at hdigits hle3 ⊢
  -- the middle digit with its carries, then the upper word, which cannot overflow
  have hmiddle : ((p0 >>> 32) + (p1 &&& (0xFFFFFFFF : UInt64)) + (p2 &&& (0xFFFFFFFF : UInt64))).toNat =
      p0.toNat / 2 ^ 32 + p1.toNat % 2 ^ 32 + p2.toNat % 2 ^ 32 := by
    rw [UInt64.toNat_add, UInt64.toNat_add, toNat_high, toNat_low, toNat_low]
    omega
  rw [toNat_halves, hmiddle, UInt64.toNat_add, UInt64.toNat_add, UInt64.toNat_add, toNat_high, toNat_high, toNat_high,
    hmiddle]
  have hcarries := schoolbook (2 ^ 32) p0.toNat p1.toNat p2.toNat p3.toNat
  dsimp only at hcarries
  omega

/-- **`static_cast<int64_t>`** of a word. -/
theorem toInt_toInt64 : x.toInt64.toInt = signedOf (2 ^ 63) x.toNat := by
  have hlt := x.toNat_lt
  show x.toBitVec.toInt = _
  rw [BitVec.toInt_eq_toNat_cond, signedOf]
  show (if 2 * x.toNat < 2 ^ 64 then (x.toNat : Int) else (x.toNat : Int) - ((2 ^ 64 : Nat) : Int)) = _
  split
  · rw [if_pos (by omega)]
  · rw [if_neg (by omega)]
    push_cast
    ring

theorem toNat_sub_modEq : ((x - y).toNat : Int) ≡ x.toNat - y.toNat [ZMOD 2 ^ 64] := by
  have hlt := y.toNat_lt
  rw [UInt64.toNat_sub, Int.modEq_iff_dvd]
  omega

theorem toNat_add_modEq : ((x + y).toNat : Int) ≡ x.toNat + y.toNat [ZMOD 2 ^ 64] := by
  rw [UInt64.toNat_add, Int.modEq_iff_dvd]
  omega

/-- The upper word counts modulo two words. -/
theorem upper_modEq {hi hi' : Int} (h : hi ≡ hi' [ZMOD 2 ^ 64]) (lo : Int) :
    hi * 2 ^ 64 + lo ≡ hi' * 2 ^ 64 + lo [ZMOD 2 * 2 ^ 63 * (2 * 2 ^ 63)] :=
  (h.mul_right' (c := 2 ^ 64)).add_right lo

/-- A word has its top bit set when it is negative. -/
theorem topBit_iff : x >>> 63 ≠ 0 ↔ ¬ x.toNat < 2 ^ 63 := by
  have hlt := x.toNat_lt
  have hshift : (x >>> 63).toNat = x.toNat / 2 ^ 63 := by
    rw [UInt64.toNat_shiftRight]
    exact Nat.shiftRight_eq_div_pow _ 63
  rw [← not_iff_not, not_not, not_not, ← UInt64.toNat_inj, hshift, UInt64.toNat_zero]
  omega

/-- **The signed product is exact**, modulo two words. -/
theorem multiplySigned64_modEq (left right : UInt64) :
    ((multiplySigned64 left right).toNat : Int) ≡ left.toInt64.toInt * right.toInt64.toInt
      [ZMOD 2 * 2 ^ 63 * (2 * 2 ^ 63)] := by
  have hunsigned := toNat_multiplyUnsigned64 left right
  have hsigned := (signed_mul (2 ^ 63) left.toNat right.toNat).symm
  rw [toInt_toInt64, toInt_toInt64]
  refine Int.ModEq.trans ?_ hsigned
  unfold multiplySigned64
  rw [UInt128Parts.toNat_cast]
  generalize multiplyUnsigned64 left right = product at hunsigned ⊢
  dsimp only
  have hvalue : (product.hi.toNat : Int) * 2 ^ 64 + product.lo.toNat = left.toNat * right.toNat := by
    rw [← UInt128Parts.toNat_cast, hunsigned, Nat.cast_mul]
  have hhi : ((if right >>> 63 ≠ 0 then (if left >>> 63 ≠ 0 then product.hi - right else product.hi) - left
      else if left >>> 63 ≠ 0 then product.hi - right else product.hi).toNat : Int) ≡
      product.hi.toNat - ((if left.toNat < 2 ^ 63 then 0 else (right.toNat : Int)) +
        (if right.toNat < 2 ^ 63 then 0 else (left.toNat : Int))) [ZMOD 2 ^ 64] := by
    by_cases hl : left.toNat < 2 ^ 63
    · by_cases hr : right.toNat < 2 ^ 63
      · rw [if_neg (mt (topBit_iff right).mp (not_not.mpr hr)), if_neg (mt (topBit_iff left).mp (not_not.mpr hl)),
          if_pos hl, if_pos hr, add_zero, sub_zero]
      · rw [if_pos ((topBit_iff right).mpr hr), if_neg (mt (topBit_iff left).mp (not_not.mpr hl)), if_pos hl, if_neg hr,
          zero_add]
        exact toNat_sub_modEq _ _
    · by_cases hr : right.toNat < 2 ^ 63
      · rw [if_neg (mt (topBit_iff right).mp (not_not.mpr hr)), if_pos ((topBit_iff left).mpr hl), if_neg hl, if_pos hr,
          add_zero]
        exact toNat_sub_modEq _ _
      · rw [if_pos ((topBit_iff right).mpr hr), if_pos ((topBit_iff left).mpr hl), if_neg hl, if_neg hr, ← sub_sub]
        exact (toNat_sub_modEq _ _).trans ((toNat_sub_modEq _ _).sub_right _)
  have hupper := upper_modEq hhi product.lo.toNat
  rw [← hvalue]
  ring_nf at hupper ⊢
  exact hupper

/-- **The addition carries**, modulo two words. -/
theorem addUInt128_modEq (left : UInt128Parts) (right : UInt64) :
    ((addUInt128 left right).toNat : Int) ≡ left.toNat + right.toNat [ZMOD 2 * 2 ^ 63 * (2 * 2 ^ 63)] := by
  have hlo := left.lo.toNat_lt
  have hright := right.toNat_lt
  have hcarry : left.lo + right < left.lo ↔ 2 ^ 64 ≤ left.lo.toNat + right.toNat := by
    rw [UInt64.lt_iff_toNat_lt, UInt64.toNat_add]
    omega
  unfold addUInt128
  rw [UInt128Parts.toNat_cast, UInt128Parts.toNat_cast]
  dsimp only
  by_cases hover : 2 ^ 64 ≤ left.lo.toNat + right.toNat
  · rw [if_pos (hcarry.mpr hover)]
    have hsum : ((left.lo + right).toNat : Int) = left.lo.toNat + right.toNat - 2 ^ 64 := by
      rw [UInt64.toNat_add]
      omega
    have hvalue : ((left.hi.toNat : Int) + (1 : UInt64).toNat) * 2 ^ 64 + (left.lo + right).toNat =
        left.hi.toNat * 2 ^ 64 + left.lo.toNat + right.toNat := by
      rw [hsum, UInt64.toNat_one]
      push_cast
      ring
    rw [← hvalue]
    exact upper_modEq (toNat_add_modEq _ _) _
  · rw [if_neg (mt hcarry.mp hover)]
    have hsum : ((left.lo + right).toNat : Int) = left.lo.toNat + right.toNat := by
      rw [UInt64.toNat_add]
      omega
    rw [hsum, add_assoc]

/-- **`XMA`**, `XMA_H` and `XMA_HU` on the contents of the registers. -/
def xma (type : InstructionType) (fr2 fr3 fr4 : FRBytes) : FRBytes :=
  if isNatVal fr2 || isNatVal fr3 || isNatVal fr4 then natValBytes
  else
    let addend := readLittleEndian64 fr2 0
    let left := readLittleEndian64 fr3 0
    let right := readLittleEndian64 fr4 0
    let product := if type = .XMA_HU then multiplyUnsigned64 left right else multiplySigned64 left right
    let product := addUInt128 product addend
    frBytes (if type ≠ .XMA then product.hi else product.lo) 0x1003E

/-- The case **`XMA`**. The addend is the third source. -/
def executeXma (view : RegisterView) (instr : InstructionEx) (cpu : CPUState) : CPUState :=
  cpu.setFR (registerField instr.dst) (xma instr.type ((view cpu).getFR (registerField instr.src3))
    ((view cpu).getFR (registerField instr.src1)) ((view cpu).getFR (registerField instr.src2)))

/-- The word that the exact `a * b + c` gives: the lower one, or the upper one of the signed or unsigned product. -/
def exactXma (type : InstructionType) (a b c : UInt64) : UInt64 :=
  match type with
  | .XMA_HU => UInt64.ofNat ((a.toNat * b.toNat + c.toNat) / 2 ^ 64)
  | .XMA_H => UInt64.ofInt ((a.toInt64.toInt * b.toInt64.toInt + c.toNat) / 2 ^ 64)
  | _ => UInt64.ofInt (a.toInt64.toInt * b.toInt64.toInt + c.toNat)

/-- Two words that are a number modulo two words are its upper and its lower word. -/
theorem parts_of_modEq {parts : UInt128Parts} {n : Int} (h : (parts.toNat : Int) ≡ n [ZMOD 2 * 2 ^ 63 * (2 * 2 ^ 63)]) :
    parts.hi = UInt64.ofInt (n / 2 ^ 64) ∧ parts.lo = UInt64.ofInt n := by
  have hhi := parts.hi.toNat_lt
  have hlo := parts.lo.toNat_lt
  obtain ⟨k, hk⟩ := (Int.modEq_iff_dvd).mp h
  rw [UInt128Parts.toNat_cast] at hk
  constructor
  · refine UInt64.toNat_inj.mp ?_
    rw [UInt64.ofInt, UInt64.toNat_ofNat']
    omega
  · refine UInt64.toNat_inj.mp ?_
    rw [UInt64.ofInt, UInt64.toNat_ofNat']
    omega

theorem UInt128Parts.toNat_lt (parts : UInt128Parts) : parts.toNat < 2 ^ 128 := by
  have hhi := parts.hi.toNat_lt
  have hlo := parts.lo.toNat_lt
  unfold UInt128Parts.toNat
  omega

theorem multiplyAdd_unsigned (a b c : UInt64) :
    ((addUInt128 (multiplyUnsigned64 a b) c).toNat : Int) ≡ a.toNat * b.toNat + c.toNat
      [ZMOD 2 * 2 ^ 63 * (2 * 2 ^ 63)] := by
  have hsum := addUInt128_modEq (multiplyUnsigned64 a b) c
  rwa [toNat_multiplyUnsigned64, Nat.cast_mul] at hsum

theorem multiplyAdd_signed (a b c : UInt64) :
    ((addUInt128 (multiplySigned64 a b) c).toNat : Int) ≡ a.toInt64.toInt * b.toInt64.toInt + c.toNat
      [ZMOD 2 * 2 ^ 63 * (2 * 2 ^ 63)] :=
  (addUInt128_modEq _ c).trans ((multiplySigned64_modEq a b).add_right _)

/-- What the three types write, if no operand is a `NaTVal`. -/
theorem xma_eq {type : InstructionType} (htype : type ∈ [InstructionType.XMA, .XMA_H, .XMA_HU]) {fr2 fr3 fr4 : FRBytes}
    (h2 : isNatVal fr2 = false) (h3 : isNatVal fr3 = false) (h4 : isNatVal fr4 = false) :
    xma type fr2 fr3 fr4 = frBytes (exactXma type (readLittleEndian64 fr3 0) (readLittleEndian64 fr4 0)
      (readLittleEndian64 fr2 0)) 0x1003E := by
  have hnat : ¬ (isNatVal fr2 || isNatVal fr3 || isNatVal fr4) = true := by simp [h2, h3, h4]
  unfold xma
  rw [if_neg hnat]
  dsimp only
  generalize readLittleEndian64 fr2 0 = c
  generalize readLittleEndian64 fr3 0 = a
  generalize readLittleEndian64 fr4 0 = b
  obtain ⟨hhi, hlo⟩ := parts_of_modEq (multiplyAdd_signed a b c)
  obtain ⟨hhi', _⟩ := parts_of_modEq (multiplyAdd_unsigned a b c)
  simp only [List.mem_cons, List.not_mem_nil, or_false] at htype
  rcases htype with rfl | rfl | rfl
  · rw [if_neg (show ¬ InstructionType.XMA ≠ .XMA by decide), if_neg (show InstructionType.XMA ≠ .XMA_HU by decide), hlo]
    rfl
  · rw [if_pos (show InstructionType.XMA_H ≠ .XMA by decide), if_neg (show InstructionType.XMA_H ≠ .XMA_HU by decide), hhi]
    rfl
  · rw [if_pos (show InstructionType.XMA_HU ≠ .XMA by decide), if_pos rfl, hhi']
    have hdiv : ((a.toNat : Int) * b.toNat + c.toNat) / 2 ^ 64 = ((a.toNat * b.toNat + c.toNat) / 2 ^ 64 : Nat) := by
      push_cast
      rfl
    rw [hdiv, ofInt_natCast]
    rfl

/-- **`XMA` is exact**: two words of the product and the sum are the exact value, modulo two words where it is signed,
    and the register that an instruction writes holds the word that the exact value gives. -/
theorem xma_exact :
    (∀ a b c : UInt64, (addUInt128 (multiplyUnsigned64 a b) c).toNat = a.toNat * b.toNat + c.toNat ∧
      ((addUInt128 (multiplySigned64 a b) c).toNat : Int) =
        (a.toInt64.toInt * b.toInt64.toInt + c.toNat) % 2 ^ 128) ∧
    ∀ (instr : InstructionEx) (cpu : CPUState), instr.type ∈ [InstructionType.XMA, .XMA_H, .XMA_HU] →
      2 ≤ (registerField instr.dst).val → isNatVal (cpu.getFR (registerField instr.src1)) = false →
      isNatVal (cpu.getFR (registerField instr.src2)) = false →
      isNatVal (cpu.getFR (registerField instr.src3)) = false →
      (executeXma id instr cpu).getFR (registerField instr.dst) =
        frBytes (exactXma instr.type (readLittleEndian64 (cpu.getFR (registerField instr.src1)) 0)
          (readLittleEndian64 (cpu.getFR (registerField instr.src2)) 0)
          (readLittleEndian64 (cpu.getFR (registerField instr.src3)) 0)) 0x1003E := by
  refine ⟨fun a b c => ⟨?_, ?_⟩, fun instr cpu htype hdst h1 h2 h3 => ?_⟩
  · have hlt := (addUInt128 (multiplyUnsigned64 a b) c).toNat_lt
    have ha := a.toNat_lt
    have hb := b.toNat_lt
    have hc := c.toNat_lt
    have hproduct : a.toNat * b.toNat ≤ (2 ^ 64 - 1) * (2 ^ 64 - 1) := Nat.mul_le_mul (by omega) (by omega)
    have hmod := multiplyAdd_unsigned a b c
    unfold Int.ModEq at hmod
    rw [← Nat.cast_mul] at hmod
    omega
  · have hlt := (addUInt128 (multiplySigned64 a b) c).toNat_lt
    have hmod := multiplyAdd_signed a b c
    unfold Int.ModEq at hmod
    rw [Int.emod_eq_of_lt (Int.natCast_nonneg _) (by omega)] at hmod
    exact hmod
  · rw [executeXma, getFR_setFR _ _ hdst]
    exact xma_eq htype h3 h1 h2

/-- `xma.hu f6 = f1, f1, f1`: the significand of `FR1` is `2 ^ 63`. -/
theorem xma_exact_one :
    (executeXma id { type := .XMA_HU, dst := 6, src1 := 1, src2 := 1, src3 := 1 } CPUState.reset).getFR 6 =
      frBytes 0x4000000000000000 0x1003E := by
  have hnat : isNatVal (CPUState.reset.getFR 1) = false := by decide +kernel
  have h := xma_exact.2 { type := .XMA_HU, dst := 6, src1 := 1, src2 := 1, src3 := 1 } CPUState.reset (by decide)
    (by decide) hnat hnat hnat
  have hword : exactXma .XMA_HU (readLittleEndian64 (CPUState.reset.getFR 1) 0)
      (readLittleEndian64 (CPUState.reset.getFR 1) 0) (readLittleEndian64 (CPUState.reset.getFR 1) 0) =
        0x4000000000000000 := by
    decide +kernel
  rw [← hword]
  exact h

/-! ## Floating-point values -/

structure IA64FloatingValue where
  significand : UInt64
  exponent : UInt32
  negative : Bool
  natVal : Bool
  deriving DecidableEq

/-- **`ReadIA64FloatingValue`.** -/
def readIA64FloatingValue (bytes : FRBytes) : IA64FloatingValue :=
  let signAndExponent := readLittleEndian64 bytes 8
  { significand := readLittleEndian64 bytes 0
    exponent := (signAndExponent &&& 0x1FFFF).toUInt32
    negative := (signAndExponent &&& ((1 : UInt64) <<< 17)) != 0
    natVal := isNatVal bytes }

inductive IA64FloatingClass
  | zero | finite | positiveInfinity | negativeInfinity | nan | unsupported | pseudoZero
  deriving DecidableEq

/-- **`ClassifyIA64FloatingValue`.** -/
def classifyIA64FloatingValue (value : IA64FloatingValue) : IA64FloatingClass :=
  if value.natVal then .unsupported
  else if value.exponent = 0x1FFFF then
    if value.significand = 0x8000000000000000 then
      if value.negative then .negativeInfinity else .positiveInfinity
    else if value.significand &&& 0x8000000000000000 ≠ 0 then .nan
    else .unsupported
  else if value.significand = 0 then
    if value.exponent = 0 then .zero else .pseudoZero
  else .finite

/-- An integer in a register. -/
theorem readIA64FloatingValue_frBytes : readIA64FloatingValue (frBytes significand 0x1003E) =
    { significand, exponent := 0x1003E, negative := false, natVal := false } := by
  have hnat : isNatVal (frBytes significand 0x1003E) = false := by
    rw [isNatVal, readLittleEndian64_frBytes_eight, Bool.and_eq_false_iff]
    exact .inr (by decide)
  unfold readIA64FloatingValue
  rw [hnat, readLittleEndian64_frBytes, readLittleEndian64_frBytes_eight]
  rfl

end GuideXOS.Isa
