import GuideXOS.Decoder.Instruction

/-!
# `MType` — loads, stores and system operations

`decode` names a memory operation and an access size, and `toInstruction` chooses by those two. There is no tag here.
-/

namespace GuideXOS.Decoder

inductive MemOp
  | LOAD | STORE | LDF_FILL | STF8 | STF_SPILL | ALLOC | EXCHANGE | XCHG | FETCHADD | LFETCH | SETF | GETF | INVALA
  | FC | SYNC_I | SRLZ_I | SRLZ_D | MF | MF_A | SSM | RSM | RFI | FLUSHRS | LOADRS | TPA | MOV_FROM_RR | MOV_TO_RR
  | MOV_FROM_CR | MOV_TO_CR | ITR_I | ITR_D | ITC_I | ITC_D | THASH | PTC_L | MOV_FROM_PSR | MOV_TO_PSR
  | MOV_FROM_CPUID | MOV_TO_PMC | MOV_FROM_PMC
  deriving DecidableEq

/-- The width of an access, in bytes. -/
inductive AccessSize
  | SIZE_1 | SIZE_2 | SIZE_4 | SIZE_8 | SIZE_10 | SIZE_16
  deriving DecidableEq

structure MFormat where
  qp : UInt8 := 0
  r1 : UInt8 := 0
  r2 : UInt8 := 0
  r3 : UInt8 := 0
  opcode : UInt8 := 0
  m : UInt8 := 0
  x : UInt8 := 0
  hint : UInt8 := 0
  operation : MemOp := .LOAD
  size : AccessSize := .SIZE_8
  speculative : Bool := false
  advanced : Bool := false
  acquire : Bool := false
  release : Bool := false
  lfetchFault : Bool := false
  lfetchExclusive : Bool := false
  /-- The nine-bit displacement, sign-extended. -/
  imm9 : UInt64 := 0
  hasImm : Bool := false
  regUpdate : Bool := false
  getfExponent : Bool := false
  imm24 : UInt64 := 0

namespace MTypeDecoder

/-- **`setAccessSize`.** -/
def accessSize (x6 : UInt8) : AccessSize :=
  match x6 &&& 0x3 with
  | 0x0 => .SIZE_1
  | 0x1 => .SIZE_2
  | 0x2 => .SIZE_4
  | _ => .SIZE_8

def decodeLoad (x6 m : UInt8) (result : MFormat) : MFormat :=
  { result with
    operation := .LOAD
    size := accessSize x6
    speculative := x6 &&& 0x10 != 0
    advanced := x6 &&& 0x20 != 0
    acquire := m == 1 }

def decodeStore (x6 m : UInt8) (result : MFormat) : MFormat :=
  { result with operation := .STORE, size := accessSize x6, release := m == 1 }

/-- The displacement of the immediate-update forms; its low seven bits start at `low`. -/
def imm9 (raw : UInt64) (low : Nat) : UInt64 :=
  signExtend ((extractBits raw 36 1 <<< 8) ||| (extractBits raw 27 1 <<< 7) ||| extractBits raw low 7) 9

/-- The mask of `ssm` and `rsm`. -/
def imm24 (raw : UInt64) : UInt64 :=
  extractBits raw 6 21 ||| (extractBits raw 31 2 <<< 21) ||| (extractBits raw 36 1 <<< 23)

/-- The increment of `fetchadd`. -/
def inc3 (raw : UInt64) : UInt64 :=
  let i2b := field raw 13 2
  let magnitude : UInt64 := if i2b = 3 then 1 else 1 <<< (4 - i2b.toUInt64)
  if field raw 15 1 ≠ 0 then 0 - magnitude else magnitude

/-- Major opcode 1 with `x3` and `m` zero, by the `x6` of bits 27 to 32. -/
def registerMove (x6 : UInt8) : Option MemOp :=
  match x6 with
  | 0x00 => some .MOV_TO_RR
  | 0x10 => some .MOV_FROM_RR
  | 0x2C => some .MOV_TO_CR
  | 0x24 => some .MOV_FROM_CR
  | 0x25 => some .MOV_FROM_PSR
  | 0x2D => some .MOV_TO_PSR
  | 0x17 => some .MOV_FROM_CPUID
  | 0x04 | 0x05 => some .MOV_TO_PMC
  | 0x14 | 0x15 => some .MOV_FROM_PMC
  | 0x0F => some .ITR_I
  | 0x0E => some .ITR_D
  | 0x2F => some .ITC_I
  | 0x2E => some .ITC_D
  | 0x30 => some .FC
  | 0x1E => some .TPA
  | 0x1A => some .THASH
  | 0x09 => some .PTC_L
  | _ => none

/-- Major opcode 0 with `x3` and `m` zero, by the `x6` of bits 27 to 32. `srlz.d` is the row `x4 = 0`, `x2 = 3`. -/
def ordering (x6 : UInt8) : Option MemOp :=
  match x6 with
  | 0x22 => some .MF
  | 0x23 => some .MF_A
  | 0x33 => some .SYNC_I
  | 0x31 => some .SRLZ_I
  | 0x30 => some .SRLZ_D
  | _ => none

/-- Major opcode 0 with `x3` zero. -/
def decodeSystem (raw : UInt64) (result : MFormat) : Option MFormat :=
  let x4 := field raw 27 4
  let x2 := field raw 31 2
  let x6 := field raw 27 6
  if result.m = 0 ∧ (ordering x6).isSome then some { result with operation := (ordering x6).getD .LOAD }
  else if x4 = 0x6 ∨ x4 = 0x7 then
    some { result with operation := if x4 = 0x6 then .SSM else .RSM, hasImm := true, imm24 := imm24 raw }
  else if result.m = 0 ∧ x4 = 0x0 ∧ x2 = 0x1 then some { result with operation := .INVALA }
  -- the two that may not be predicated
  else if result.m = 0 ∧ x4 = 0xC ∧ x2 = 0x0 ∧ result.qp = 0 then some { result with operation := .FLUSHRS }
  else if result.m = 0 ∧ x4 = 0xA ∧ x2 = 0x0 ∧ result.qp = 0 then some { result with operation := .LOADRS }
  else none

def decodeAlloc (raw : UInt64) (result : MFormat) : Option MFormat :=
  if field raw 33 3 ≠ 0x6 then none
  else some { result with
    operation := .ALLOC
    r1 := field raw 6 7
    hasImm := true
    imm9 := signExtend ((extractBits raw 13 7 ||| (extractBits raw 20 7 <<< 7) ||| (extractBits raw 27 4 <<< 14)) &&&
      0xFFFF) 16 }

/-- Major opcode 4: `x` tells the semaphores and moves from the loads and stores. -/
def decodeMajor4 (raw : UInt64) (x x6 m : UInt8) (result : MFormat) : Option MFormat :=
  let x6row := x6 >>> 2
  if x = 1 ∧ m = 0 ∧ (x6 = 0x1C ∨ x6 = 0x1D) then
    some { result with operation := .GETF, getfExponent := x6 == 0x1D }
  else if x = 1 ∧ m = 0 ∧ (x6 = 0x02 ∨ x6 = 0x03 ∨ x6 = 0x06 ∨ x6 = 0x07) then
    some { result with
      operation := .EXCHANGE
      release := x6 == 0x06 || x6 == 0x07
      size := if x6 &&& 0x01 ≠ 0 then .SIZE_8 else .SIZE_4 }
  else if x = 1 ∧ m = 0 ∧ (x6 = 0x08 ∨ x6 = 0x09 ∨ x6 = 0x0A ∨ x6 = 0x0B) then
    some { result with operation := .XCHG, size := accessSize x6 }
  else if x = 1 ∧ m = 0 ∧ (x6 = 0x12 ∨ x6 = 0x16) then
    some { result with
      operation := .FETCHADD, size := .SIZE_4, hasImm := true, release := x6 == 0x16, imm9 := inc3 raw }
  else if x = 0 ∧ m = 0 ∧ x6row ≤ 0xA then some (decodeLoad x6 m result)
  else if x = 0 ∧ m = 0 ∧ 0xC ≤ x6row ∧ x6row ≤ 0xE then
    some { decodeStore x6 m result with r1 := result.r2 }
  else if x = 0 ∧ m = 1 ∧ x6row ≤ 0xA then some { decodeLoad x6 m result with regUpdate := true }
  else none

def decodeMajor5 (raw : UInt64) (x6 m : UInt8) (result : MFormat) : Option MFormat :=
  let x6row := x6 >>> 2
  if x6row ≤ 0xA then some { decodeLoad x6 m result with hasImm := true, imm9 := imm9 raw 13 }
  else if 0xC ≤ x6row ∧ x6row ≤ 0xE then
    some { decodeStore x6 m result with hasImm := true, r1 := result.r2, imm9 := imm9 raw 6 }
  else none

/-- A line prefetch: the low two bits of `x6` are its completers. -/
def decodeLfetch (x6 : UInt8) (result : MFormat) : MFormat :=
  { result with operation := .LFETCH, lfetchFault := x6 &&& 0x2 != 0, lfetchExclusive := x6 &&& 0x1 != 0 }

def decodeMajor6 (x x6 m : UInt8) (result : MFormat) : MFormat :=
  if m = 0 ∧ 0x2C ≤ x6 ∧ x6 ≤ 0x2F then { decodeLfetch x6 result with regUpdate := x == 1 }
  else if x = 1 ∧ m = 0 ∧ x6 = 0x1C then { result with operation := .SETF }
  -- the floating-point loads are read as integer loads
  else decodeLoad x6 m result

def decodeMajor7 (raw : UInt64) (x6 : UInt8) (result : MFormat) : Option MFormat :=
  if 0x2C ≤ x6 ∧ x6 ≤ 0x2F then
    some { decodeLfetch x6 result with regUpdate := true, hasImm := true, imm9 := imm9 raw 13 }
  else if x6 = 0x1B then
    some { result with operation := .LDF_FILL, size := .SIZE_16, hasImm := true, imm9 := imm9 raw 13 }
  else if x6 ≠ 0x31 ∧ x6 ≠ 0x3B then none
  else
    some { result with
      operation := if x6 = 0x3B then .STF_SPILL else .STF8
      size := if x6 = 0x3B then .SIZE_16 else .SIZE_8
      r1 := result.r2
      hasImm := true
      imm9 := imm9 raw 6 }

/-- **`MTypeDecoder::decode`.** -/
def decode (raw : UInt64) : Option MFormat :=
  let major := majorOpcode raw
  let x3 := field raw 33 3
  let m := field raw 36 1
  let x := field raw 27 1
  let x6 := field raw 30 6
  let result : MFormat :=
    { qp := qualifyingPredicate raw
      r1 := field raw 6 7
      r2 := field raw 13 7
      r3 := field raw 20 7
      opcode := (major <<< 4) ||| (x6 &&& 0xF)
      m := m
      x := x6
      hint := field raw 28 2 }
  if major = 0x1 ∧ x3 = 0x0 ∧ m = 0 ∧ (registerMove (field raw 27 6)).isSome then
    some { result with operation := (registerMove (field raw 27 6)).getD .LOAD }
  else if major = 0x0 ∧ x3 = 0x0 then decodeSystem raw result
  else if major = 0x1 then decodeAlloc raw result
  else if major = 0x4 then decodeMajor4 raw x x6 m result
  else if major = 0x5 then decodeMajor5 raw x6 m result
  else if major = 0x6 then some (decodeMajor6 x x6 m result)
  else if major = 0x7 then decodeMajor7 raw x6 result
  else none

/-! ## The instruction -/

variable (fmt : MFormat)

/-- The frame of every case but two: type and unit, and the qualifying predicate. -/
def instruction (type : InstructionType) : InstructionEx :=
  ({ type := type, unit := .M_UNIT } : InstructionEx).setPredicate fmt.qp

def loadType : Option InstructionType :=
  match fmt.size with
  | .SIZE_1 => some (if fmt.speculative then .LD1_S else .LD1)
  | .SIZE_2 => some (if fmt.speculative then .LD2_S else .LD2)
  | .SIZE_4 => some (if fmt.speculative then .LD4_S else .LD4)
  | .SIZE_8 => some (if fmt.speculative then .LD8_S else .LD8)
  | _ => none

def storeType : Option InstructionType :=
  match fmt.size with
  | .SIZE_1 => some .ST1
  | .SIZE_2 => some .ST2
  | .SIZE_4 => some .ST4
  | .SIZE_8 => some .ST8
  | _ => none

def exchangeType : Option InstructionType :=
  match fmt.size with
  | .SIZE_4 => some (if fmt.release then .CMPXCHG4_REL else .CMPXCHG4_ACQ)
  | .SIZE_8 => some (if fmt.release then .CMPXCHG8_REL else .CMPXCHG8_ACQ)
  | _ => none

/-- The displacement, where the format has one. -/
def withImm9 (instr : InstructionEx) : InstructionEx :=
  if fmt.hasImm then instr.setImmediate fmt.imm9 else instr

/-- **`MTypeDecoder::toInstruction`.** -/
def toInstruction : Option InstructionEx :=
  match fmt.operation with
  | .LOAD => (loadType fmt).map fun type =>
      withImm9 fmt ((instruction fmt type).setOperands fmt.r1 fmt.r3 (if fmt.regUpdate then fmt.r2 else 0))
  | .STORE => (storeType fmt).map fun type => withImm9 fmt ((instruction fmt type).setOperands fmt.r3 fmt.r1 0)
  | .LDF_FILL =>
      if fmt.size ≠ .SIZE_16 ∨ ¬ fmt.hasImm then none
      else some (((instruction fmt .LDF_FILL).setOperands fmt.r1 fmt.r3 0).setImmediate fmt.imm9)
  | .STF8 =>
      if fmt.size ≠ .SIZE_8 ∨ ¬ fmt.hasImm then none
      else some (((instruction fmt .STF8).setOperands fmt.r3 fmt.r2 0).setImmediate fmt.imm9)
  | .STF_SPILL =>
      if fmt.size ≠ .SIZE_16 ∨ ¬ fmt.hasImm then none
      else some (((instruction fmt .STF_SPILL).setOperands fmt.r3 fmt.r2 0).setImmediate fmt.imm9)
  | .FETCHADD =>
      if fmt.size ≠ .SIZE_4 ∨ ¬ fmt.hasImm then none
      else some (((instruction fmt (if fmt.release then .FETCHADD4_REL else .FETCHADD4_ACQ)).setOperands fmt.r1 fmt.r3
        0).setImmediate fmt.imm9)
  | .LFETCH => some
      { withImm9 fmt ((instruction fmt .LFETCH).setOperands 0 fmt.r3 (if fmt.regUpdate then fmt.r2 else 0)) with
        lfetchFault := fmt.lfetchFault
        lfetchExclusive := fmt.lfetchExclusive
        lfetchHint := fmt.hint
        registerUpdate := fmt.regUpdate }
  | .EXCHANGE => (exchangeType fmt).map fun type => (instruction fmt type).setOperands fmt.r1 fmt.r3 fmt.r2
  | .XCHG =>
      if fmt.size ≠ .SIZE_4 then none else some ((instruction fmt .XCHG4).setOperands fmt.r1 fmt.r3 fmt.r2)
  | .GETF => some ((instruction fmt (if fmt.getfExponent then .GETF_EXP else .GETF_SIG)).setOperands fmt.r1 fmt.r2 0)
  | .SETF => some ((instruction fmt .SETF_SIG).setOperands fmt.r1 fmt.r2 0)
  | .INVALA => some (instruction fmt .INVALA)
  | .FC => some ((instruction fmt .FC).setOperands 0 fmt.r3 0)
  | .TPA => some ((instruction fmt .TPA).setOperands fmt.r1 fmt.r3 0)
  | .SYNC_I => some (instruction fmt .SYNC_I)
  | .SRLZ_I => some (instruction fmt .SRLZ_I)
  | .SRLZ_D => some (instruction fmt .SRLZ_D)
  | .MF => some (instruction fmt .MF)
  | .MF_A => some (instruction fmt .MF_A)
  | .SSM => some ((instruction fmt .SSM).setImmediate fmt.imm24)
  | .RSM => some ((instruction fmt .RSM).setImmediate fmt.imm24)
  | .MOV_FROM_RR => some ((instruction fmt .MOV_FROM_RR).setOperands fmt.r1 fmt.r3 0)
  | .MOV_TO_RR => some ((instruction fmt .MOV_TO_RR).setOperands fmt.r3 fmt.r2 0)
  | .MOV_FROM_CR => some ((instruction fmt .MOV_FROM_CR).setOperands fmt.r1 fmt.r3 0)
  | .MOV_FROM_PSR => some ((instruction fmt .MOV_FROM_PSR).setOperands fmt.r1 0 0)
  | .MOV_TO_PSR => some ((instruction fmt .MOV_TO_PSR).setOperands 0 fmt.r2 0)
  | .MOV_FROM_CPUID => some ((instruction fmt .MOV_FROM_CPUID).setOperands fmt.r1 fmt.r3 0)
  | .MOV_TO_CR => some ((instruction fmt .MOV_TO_CR).setOperands fmt.r3 fmt.r2 0)
  | .MOV_TO_PMC => some ((instruction fmt .MOV_TO_PMC).setOperands fmt.r3 fmt.r2 0)
  | .MOV_FROM_PMC => some ((instruction fmt .MOV_FROM_PMC).setOperands fmt.r1 fmt.r3 0)
  | .ITR_I => some ((instruction fmt .ITR_I).setOperands fmt.r3 fmt.r2 0)
  | .ITR_D => some ((instruction fmt .ITR_D).setOperands fmt.r3 fmt.r2 0)
  | .ITC_I => some ((instruction fmt .ITC_I).setOperands 0 fmt.r2 0)
  | .ITC_D => some ((instruction fmt .ITC_D).setOperands 0 fmt.r2 0)
  | .THASH => some ((instruction fmt .THASH).setOperands fmt.r1 fmt.r3 0)
  | .PTC_L => some ((instruction fmt .PTC_L).setOperands 0 fmt.r3 fmt.r2)
  | .FLUSHRS => some { type := .FLUSHRS, unit := .M_UNIT }
  | .LOADRS => some { type := .LOADRS, unit := .M_UNIT }
  | .ALLOC | .RFI => none

end MTypeDecoder

end GuideXOS.Decoder
