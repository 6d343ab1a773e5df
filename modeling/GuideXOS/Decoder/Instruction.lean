import GuideXOS.Lib.BitFields

/-!
# `Instruction` — a decoded instruction

What the decoder makes of a 41-bit slot word: the operation, its qualifying predicate, up to four register operands,
an immediate or a branch target, and the completers some operations have. The word itself is kept in `rawBits`.

Fields are cut out of the word with `extractBits`, as the formats of the architecture name them.
-/

namespace GuideXOS.Decoder

inductive UnitType
  | M_UNIT | I_UNIT | F_UNIT | B_UNIT | L_UNIT | X_UNIT | INVALID
  deriving DecidableEq

/-- The operations the emulator tells apart. -/
inductive InstructionType
  | NOP | MOV_GR | MOV_FROM_BR | MOV_TO_BR | MOV_FROM_AR | MOV_FROM_PSR | MOV_TO_PSR | MOV_FROM_CPUID
  | MOV_TO_PMC | MOV_FROM_PMC | MOV_TO_AR | MOV_FROM_RR | MOV_TO_RR | MOV_FROM_CR | MOV_TO_CR | ITR_I | ITR_D
  | ITC_I | ITC_D | THASH | PTC_L | MOV_FROM_PR | MOV_FROM_IP | MOV_TO_PR | MOV_TO_PR_ROT | MOV_IMM | MOVL
  | GETF_SIG | GETF_EXP | SETF_SIG | ADD | ADD_P1 | ADD_IMM | ADDL | SUB | SUB_M1 | SUB_IMM | ADDP4 | AND
  | AND_IMM | OR | OR_IMM | XOR | XOR_IMM | ANDCM | ANDCM_IMM | SHL | SHR | SHRA | SHRP | SHLADD | POPCNT
  | MUX1 | CZX1_R | EXTR | DEP | DEP_Z | ZXT1 | ZXT2 | ZXT4 | SXT1 | SXT2 | SXT4 | CMP_EQ | CMP_NE | CMP_LT
  | CMP_LE | CMP_GT | CMP_GE | CMP_LTU | CMP_LEU | CMP_GTU | CMP_GEU | CMP4_EQ | CMP4_NE | CMP4_LT | CMP4_LE
  | CMP4_GT | CMP4_GE | CMP4_LTU | CMP4_LEU | CMP4_GTU | CMP4_GEU | LD1 | LD2 | LD4 | LD8 | CMPXCHG4_ACQ
  | CMPXCHG8_ACQ | CMPXCHG4_REL | CMPXCHG8_REL | XCHG4 | FETCHADD4_ACQ | FETCHADD4_REL | ST1 | ST2 | ST4
  | ST8 | LD1_S | LD2_S | LD4_S | LD8_S | LFETCH | CHK_A_NC | CHK_A_CLR | INVALA | FC | TPA | SYNC_I | SRLZ_I
  | SRLZ_D | MF | MF_A | SSM | RSM | RFI | FLUSHRS | LOADRS | BR_COND | BR_CALL | BR_RET | BR_IA | BR_CLOOP
  | BR_CTOP | BR_CEXIT | BR_WTOP | BR_WEXIT | BRP | ALLOC | TBIT_Z | TBIT_NZ | TNAT_Z | TNAT_NZ | FMA | FMS
  | FNMA | XMA | XMA_H | XMA_HU | FSELECT | FCMP | FCLASS | FRCPA | FRSQRTA | FPRCPA | FPRSQRTA | FMIN | FMAX
  | FAMIN | FAMAX | FMERGE | FABS | FNEG | FNEGABS | FPABS | FPNEG | FCVT_FX | FCVT_FXU | FCVT_XF | FCVT_XUF
  | FPCVT_FX | FPCVT_FXU | FPCVT_XF | LDF_FILL | STF8 | STF_SPILL | BREAK | BSW | COVER | CLRRB | UNKNOWN
  deriving DecidableEq

inductive CompareCompleter
  | NORMAL | UNC | AND | OR | OR_ANDCM
  deriving DecidableEq

structure InstructionEx where
  type : InstructionType := .NOP
  unit : UnitType := .I_UNIT
  rawBits : UInt64 := 0
  predicate : UInt8 := 0
  predicate2 : UInt8 := 0
  dst : UInt8 := 0
  src1 : UInt8 := 0
  src2 : UInt8 := 0
  src3 : UInt8 := 0
  immediate : UInt64 := 0
  hasImmediate : Bool := false
  branchTarget : UInt64 := 0
  hasBranchTarget : Bool := false
  compareCompleter : CompareCompleter := .NORMAL
  lfetchFault : Bool := false
  lfetchExclusive : Bool := false
  lfetchHint : UInt8 := 0
  registerUpdate : Bool := false
  deriving DecidableEq

namespace InstructionEx

variable (i : InstructionEx)

def setOperands (dst src1 src2 : UInt8) : InstructionEx :=
  { i with dst := dst, src1 := src1, src2 := src2 }

def setOperands4 (dst src1 src2 src3 : UInt8) : InstructionEx :=
  { i with dst := dst, src1 := src1, src2 := src2, src3 := src3 }

def setPredicate (pred : UInt8) : InstructionEx := { i with predicate := pred }

def setImmediate (imm : UInt64) : InstructionEx := { i with immediate := imm, hasImmediate := true }

def setBranchTarget (target : UInt64) : InstructionEx :=
  { i with branchTarget := target, hasBranchTarget := true }

def setRawBits (bits : UInt64) : InstructionEx := { i with rawBits := bits }

end InstructionEx

/-! ## Fields -/

/-- **`extractBits`.** -/
def extractBits (instruction : UInt64) (start length : Nat) : UInt64 :=
  (instruction >>> UInt64.ofNat start) &&& ((1 <<< UInt64.ofNat length) - 1)

/-- A field of at most eight bits. -/
def field (instruction : UInt64) (start length : Nat) : UInt8 := (extractBits instruction start length).toUInt8

/-- **`signExtend`**, as a two's complement word. -/
def signExtend (value : UInt64) (bits : Nat) : UInt64 :=
  if value &&& (1 <<< UInt64.ofNat (bits - 1)) ≠ 0 then value ||| ~~~((1 <<< UInt64.ofNat bits) - 1) else value

/-- **`extractImm22`**, the dispersed immediate of `addl`. -/
def extractImm22 (instruction : UInt64) : UInt64 :=
  let s := extractBits instruction 36 1
  let imm5c := extractBits instruction 22 5
  let imm9d := extractBits instruction 27 9
  let imm7b := extractBits instruction 13 7
  signExtend ((s <<< 21) ||| (imm5c <<< 16) ||| (imm9d <<< 7) ||| imm7b) 22

/-- The major opcode, bits 37 to 40. -/
def majorOpcode (slotBits : UInt64) : UInt8 := field slotBits 37 4

/-- The qualifying predicate field, bits 0 to 5. -/
def qualifyingPredicate (slotBits : UInt64) : UInt8 := field slotBits 0 6

end GuideXOS.Decoder

/-!
## The fields of a slot word as slices of its bits

`extractBits` takes a slice, `signExtend` extends one by its sign. Fields that are put side by side are the slices one
after the other.
-/

namespace GuideXOS.Decoder
open Lib.Words

theorem oneShifted_toNat {n : Nat} (h : n < 64) : ((1 : UInt64) <<< UInt64.ofNat n).toNat = 2 ^ n := by
  have hn : (UInt64.ofNat n).toNat = n := UInt64.toNat_ofNat_of_lt' (by simp [UInt64.size]; omega)
  rw [one_shiftLeft_toNat (by rw [hn]; exact h), hn]

theorem maskOf_toNat {n : Nat} (h : n < 64) : ((1 : UInt64) <<< UInt64.ofNat n - 1).toNat = 2 ^ n - 1 := by
  have hone := oneShifted_toNat h
  have hle : (1 : UInt64) ≤ 1 <<< UInt64.ofNat n := UInt64.le_iff_toNat_le.mpr (by
    rw [hone]
    exact Nat.two_pow_pos n)
  rw [UInt64.toNat_sub_of_le _ _ hle, hone]
  rfl

variable (raw : UInt64)

section
variable {start length : Nat} (hs : start < 64)
include hs

/-- **A field is a slice of the word.** -/
theorem extractBits_toNat (hl : length < 64) :
    (extractBits raw start length).toNat = (raw.toBitVec.extractLsb' start length).toNat := by
  have hstart : (UInt64.ofNat start).toNat = start := UInt64.toNat_ofNat_of_lt' (by simp [UInt64.size]; omega)
  rw [extractBits, shiftRight_and_toNat raw (by rw [hstart]; exact hs) (maskOf_toNat hl), hstart]

/-- A field in a byte. -/
theorem field_eq (hl : length ≤ 8) :
    field raw start length = UInt8.ofNat (raw.toBitVec.extractLsb' start length).toNat := by
  rw [field, ← UInt8.toNat_inj, UInt64.toNat_toUInt8, extractBits_toNat raw hs (by omega), UInt8.toNat_ofNat']

theorem field_toNat (hl : length ≤ 8) :
    (field raw start length).toNat = (raw.toBitVec.extractLsb' start length).toNat := by
  rw [field_eq raw hs hl, UInt8.toNat_ofNat']
  exact Nat.mod_eq_of_lt ((BitVec.isLt _).trans_le (Nat.pow_le_pow_right (by decide) hl))

/-- What a field is, by the slice. -/
theorem field_eq_iff (hl : length ≤ 8) (v : BitVec length) :
    field raw start length = UInt8.ofNat v.toNat ↔ raw.toBitVec.extractLsb' start length = v := by
  have hv : (UInt8.ofNat v.toNat).toNat = v.toNat := by
    rw [UInt8.toNat_ofNat']
    exact Nat.mod_eq_of_lt (v.isLt.trans_le (Nat.pow_le_pow_right (by decide) hl))
  rw [← UInt8.toNat_inj, field_toNat raw hs hl, hv, BitVec.toNat_inj]

end

/-- Two fields side by side. -/
theorem shiftLeft_or_toNat {a b : UInt64} {m n : Nat} (x : BitVec m) (y : BitVec n) (ha : a.toNat = x.toNat)
    (hb : b.toNat = y.toNat) (h : m + n < 64) : ((a <<< UInt64.ofNat n) ||| b).toNat = (x ++ y).toNat := by
  have hn : (UInt64.ofNat n).toNat = n := UInt64.toNat_ofNat_of_lt' (by simp [UInt64.size]; omega)
  have hfits : x.toNat <<< n < 2 ^ 64 := by
    rw [Nat.shiftLeft_eq]
    calc x.toNat * 2 ^ n < 2 ^ m * 2 ^ n := Nat.mul_lt_mul_of_pos_right x.isLt (Nat.two_pow_pos n)
      _ = 2 ^ (m + n) := (Nat.pow_add 2 m n).symm
      _ ≤ 2 ^ 64 := Nat.pow_le_pow_right (by decide) (by omega)
  rw [UInt64.toNat_or, UInt64.toNat_shiftLeft, hn, ha, hb, Nat.mod_eq_of_lt (by omega : n < 64),
    Nat.mod_eq_of_lt hfits, BitVec.toNat_append]

/-- **`signExtend` extends a slice by its sign.** -/
theorem signExtend_toBitVec {value : UInt64} {n : Nat} (x : BitVec n) (hvalue : value.toNat = x.toNat) (hpos : 0 < n)
    (hn : n < 64) : (signExtend value n).toBitVec = x.signExtend 64 := by
  have hx : value.toBitVec.setWidth n = x := by
    rw [← BitVec.toNat_inj, BitVec.toNat_setWidth]
    show value.toNat % 2 ^ n = _
    rw [hvalue, Nat.mod_eq_of_lt x.isLt]
  have hmask : value &&& ((1 : UInt64) <<< UInt64.ofNat n - 1) = value := by
    rw [← UInt64.toNat_inj, UInt64.toNat_and, maskOf_toNat hn, Nat.and_two_pow_sub_one_eq_mod, hvalue,
      Nat.mod_eq_of_lt x.isLt]
  have hextended := signExtended_toBitVec value hpos (oneShifted_toNat (by omega : n - 1 < 64)) (maskOf_toNat hn)
  rwa [hmask, hx] at hextended

end GuideXOS.Decoder
