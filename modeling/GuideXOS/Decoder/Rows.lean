import GuideXOS.Decoder.DecodeSlot

/-!
# `Rows` — what the decoder recognises

The rows of each unit, as the tests of the decoder have them, in its order. A row stands for the operations of its
family. A `default` case and what is left when every test has failed are no rows, and neither is the tag a word happens
to carry.

The rows of the X unit are those its decoder describes: `break.x`, the no-op of major opcode 1 and the upper part of
`movl`.
-/

namespace GuideXOS.Decoder

/-- The operations of one row, or no row. -/
abbrev Family := Option (List InstructionType)

namespace ATypeDecoder

def integerALURow (x2a x2b x4 ve : UInt8) : Family :=
  if x2a = 0 ∧ ve = 0 ∧ x4 = 0x0 ∧ x2b ≤ 1 then some [.ADD, .ADD_P1]
  else if x2a = 0 ∧ ve = 0 ∧ x4 = 0x1 ∧ x2b ≤ 1 then some [.SUB, .SUB_M1]
  else if x2a = 0 ∧ ve = 0 ∧ x4 = 0x9 ∧ x2b = 1 then some [.SUB_IMM]
  else if x2a = 0 ∧ ve = 0 ∧ x4 = 0x3 then some [.AND, .ANDCM, .OR, .XOR]
  else if x2a = 0 ∧ ve = 0 ∧ x4 = 0x4 then some [.SHLADD]
  else if x2a = 0 ∧ ve = 0 ∧ x4 = 0xB then some [.AND_IMM, .ANDCM_IMM, .OR_IMM, .XOR_IMM]
  else if x2a = 2 ∧ ve = 0 then some [.ADD_IMM]
  else if x2a = 3 ∧ ve = 0 then some [.ADDP4]
  -- the register form of `addp4` has no test of its own: its tag is the one it came with
  else if x2a = 0 ∧ ve = 0 ∧ x4 = 0x2 ∧ x2b = 0 then some [.ADDP4]
  else none

def compareTypes : List InstructionType :=
  [.CMP_EQ, .CMP_NE, .CMP_LT, .CMP_LE, .CMP_GT, .CMP_GE, .CMP_LTU, .CMP4_EQ, .CMP4_NE, .CMP4_LT, .CMP4_LE, .CMP4_GT,
    .CMP4_GE, .CMP4_LTU]

def row (raw : UInt64) : Family :=
  let major := majorOpcode raw
  if major = 0x8 then integerALURow (field raw 34 2) (field raw 27 2) (field raw 29 4) (field raw 33 1)
  else if major = 0x9 then some [.ADDL]
  else if major = 0xA then if field raw 29 4 = 0x0 then some [.SHLADD] else none
  else if major = 0xC ∨ major = 0xD ∨ major = 0xE then some compareTypes
  else none

end ATypeDecoder

namespace ITypeDecoder

def mixedIRow (x3 x6 : UInt8) : Family :=
  if x3 = 0 then
    match x6 with
    | 0x10 => some [.ZXT1]
    | 0x11 => some [.ZXT2]
    | 0x12 => some [.ZXT4]
    | 0x14 => some [.SXT1]
    | 0x15 => some [.SXT2]
    | 0x16 => some [.SXT4]
    | 0x1C => some [.CZX1_R]
    | _ => none
  else none

/-- The tests the table lists. -/
def testRow (tableIndex : UInt8) : Family :=
  match tableIndex with
  | 0x00 | 0x10 | 0x02 | 0x12 | 0x0C => some [.TBIT_Z]
  | 0x01 => some [.TNAT_Z]
  | 0x07 => some [.TNAT_NZ]
  | _ => none

def major5Row (raw : UInt64) : Family :=
  let x := field raw 33 1
  let x2 := field raw 34 2
  if x = 1 ∧ x2 = 1 ∧ field raw 26 1 = 0 then
    if field raw 27 6 = field raw 20 6 then some [.SHL] else some [.DEP_Z]
  else if x2 = 0 then testRow (tableIndex raw)
  else if x2 = 0x3 ∧ x = 0x0 then some [.SHRP]
  else if x2 = 0x1 then some [.EXTR]
  else if x2 = 0x3 ∧ x = 0x1 then some [.DEP]
  else none

def shiftRow (raw : UInt64) : Family :=
  if ShiftForm raw 0 0 0 3 2 2 then some [.MUX1]
  else if field raw 27 6 = 0x14 then some [.SHL]
  else if ShiftForm raw 0 1 0 1 1 2 then some [.POPCNT]
  else if ShiftForm raw 1 1 0 0 0 1 then some [.SHL]
  else if ShiftForm raw 1 1 0 0 0 0 ∨ ShiftForm raw 1 1 0 0 2 0 then some [.SHR]
  else none

def row (raw : UInt64) : Family :=
  let major := majorOpcode raw
  if major = 0x0 then mixedIRow (field raw 33 3) (field raw 27 6)
  else if major = 0x4 then some [.DEP]
  else if major = 0x5 then major5Row raw
  else if major = 0x7 then shiftRow raw
  else none

end ITypeDecoder

namespace MTypeDecoder

def loadTypes : List InstructionType := [.LD1, .LD2, .LD4, .LD8, .LD1_S, .LD2_S, .LD4_S, .LD8_S]

def storeTypes : List InstructionType := [.ST1, .ST2, .ST4, .ST8]

/-- The operation of a row that has only one. -/
def operationType (operation : MemOp) : InstructionType :=
  match operation with
  | .MOV_TO_RR => .MOV_TO_RR
  | .MOV_FROM_RR => .MOV_FROM_RR
  | .MOV_TO_CR => .MOV_TO_CR
  | .MOV_FROM_CR => .MOV_FROM_CR
  | .MOV_FROM_PSR => .MOV_FROM_PSR
  | .MOV_TO_PSR => .MOV_TO_PSR
  | .MOV_FROM_CPUID => .MOV_FROM_CPUID
  | .MOV_TO_PMC => .MOV_TO_PMC
  | .MOV_FROM_PMC => .MOV_FROM_PMC
  | .ITR_I => .ITR_I
  | .ITR_D => .ITR_D
  | .ITC_I => .ITC_I
  | .ITC_D => .ITC_D
  | .FC => .FC
  | .TPA => .TPA
  | .THASH => .THASH
  | .PTC_L => .PTC_L
  | .MF => .MF
  | .MF_A => .MF_A
  | .SYNC_I => .SYNC_I
  | .SRLZ_I => .SRLZ_I
  | .SRLZ_D => .SRLZ_D
  | _ => .UNKNOWN

def systemRow (raw : UInt64) : Family :=
  let m := field raw 36 1
  let x4 := field raw 27 4
  let x2 := field raw 31 2
  if m = 0 ∧ (ordering (field raw 27 6)).isSome then (ordering (field raw 27 6)).map fun op => [operationType op]
  else if x4 = 0x6 ∨ x4 = 0x7 then some [if x4 = 0x6 then .SSM else .RSM]
  else if m = 0 ∧ x4 = 0x0 ∧ x2 = 0x1 then some [.INVALA]
  else if m = 0 ∧ x4 = 0xC ∧ x2 = 0x0 ∧ qualifyingPredicate raw = 0 then some [.FLUSHRS]
  else if m = 0 ∧ x4 = 0xA ∧ x2 = 0x0 ∧ qualifyingPredicate raw = 0 then some [.LOADRS]
  else none

def major4Row (x x6 m : UInt8) : Family :=
  let x6row := x6 >>> 2
  if x = 1 ∧ m = 0 ∧ (x6 = 0x1C ∨ x6 = 0x1D) then some [.GETF_SIG, .GETF_EXP]
  else if x = 1 ∧ m = 0 ∧ (x6 = 0x02 ∨ x6 = 0x03 ∨ x6 = 0x06 ∨ x6 = 0x07) then
    some [.CMPXCHG4_ACQ, .CMPXCHG4_REL, .CMPXCHG8_ACQ, .CMPXCHG8_REL]
  -- only the four-byte `xchg` is carried through
  else if x = 1 ∧ m = 0 ∧ (x6 = 0x08 ∨ x6 = 0x09 ∨ x6 = 0x0A ∨ x6 = 0x0B) then
    if x6 = 0x0A then some [.XCHG4] else none
  else if x = 1 ∧ m = 0 ∧ (x6 = 0x12 ∨ x6 = 0x16) then some [.FETCHADD4_ACQ, .FETCHADD4_REL]
  else if x = 0 ∧ m = 0 ∧ x6row ≤ 0xA then some loadTypes
  else if x = 0 ∧ m = 0 ∧ 0xC ≤ x6row ∧ x6row ≤ 0xE then some storeTypes
  else if x = 0 ∧ m = 1 ∧ x6row ≤ 0xA then some loadTypes
  else none

def major5Row (x6 : UInt8) : Family :=
  let x6row := x6 >>> 2
  if x6row ≤ 0xA then some loadTypes
  else if 0xC ≤ x6row ∧ x6row ≤ 0xE then some storeTypes
  else none

def major6Row (x x6 m : UInt8) : Family :=
  if m = 0 ∧ 0x2C ≤ x6 ∧ x6 ≤ 0x2F then some [.LFETCH]
  else if x = 1 ∧ m = 0 ∧ x6 = 0x1C then some [.SETF_SIG]
  else none

def major7Row (x6 : UInt8) : Family :=
  if 0x2C ≤ x6 ∧ x6 ≤ 0x2F then some [.LFETCH]
  else if x6 = 0x1B then some [.LDF_FILL]
  else if x6 ≠ 0x31 ∧ x6 ≠ 0x3B then none
  else some [if x6 = 0x3B then .STF_SPILL else .STF8]

def row (raw : UInt64) : Family :=
  let major := majorOpcode raw
  let x3 := field raw 33 3
  let m := field raw 36 1
  let x := field raw 27 1
  let x6 := field raw 30 6
  if major = 0x1 ∧ x3 = 0x0 ∧ m = 0 ∧ (registerMove (field raw 27 6)).isSome then
    (registerMove (field raw 27 6)).map fun op => [operationType op]
  else if major = 0x0 ∧ x3 = 0x0 then systemRow raw
  else if major = 0x1 then none
  else if major = 0x4 then major4Row x x6 m
  else if major = 0x5 then major5Row x6
  else if major = 0x6 then major6Row x x6 m
  else if major = 0x7 then major7Row x6
  else none

end MTypeDecoder

namespace BTypeDecoder

/-- The indirect branches that have a case. -/
def indirectRow (x6 : UInt8) : Family :=
  match x6 &&& 0x1F with
  | 0x00 | 0x01 => some [.BR_CALL]
  | 0x04 => some [.BR_RET]
  | 0x05 => some [.BR_IA]
  | _ => none

/-- The loop branches that have a case. -/
def loopRow (x6 : UInt8) : Family :=
  if x6 &&& 0x30 = 0x20 then
    match x6 &&& 0x0F with
    | 0x0 => some [.BR_CLOOP]
    | 0x1 => some [.BR_CEXIT]
    | 0x2 => some [.BR_CTOP]
    | 0x3 => some [.BR_WTOP]
    | 0x4 => some [.BR_WEXIT]
    | _ => none
  else none

def major0Row (btype x6 : UInt8) : Family :=
  if x6 = 0x20 then some [.BR_COND]
  else if btype = 0x4 ∧ x6 ≠ 0x21 then indirectRow x6
  else
    match btype with
    | 0x0 => some [.BR_COND]
    | 0x1 => some [.BR_CALL]
    | 0x4 => some [.BR_RET]
    | 0x5 => some [.BR_CALL]
    | _ => loopRow x6

def major4Row (btype x6 : UInt8) : Family :=
  match btype with
  | 0x0 => some [.BR_COND]
  | 0x1 => some [.BR_CALL]
  | 0x2 => some [.BR_WEXIT]
  | 0x3 => some [.BR_WTOP]
  | 0x4 => indirectRow x6
  | 0x5 => some [.BR_CLOOP]
  | 0x6 => some [.BR_CEXIT]
  | _ => some [.BR_CTOP]

def row (raw : UInt64) : Family :=
  let major := majorOpcode raw
  let btype := field raw 6 3
  let x6 := field raw 27 6
  if major = 0x0 ∧ (specialType x6).isSome then (specialType x6).map fun type => [instructionType type]
  else if major = 0x2 ∧ (x6 = 0x00 ∨ x6 = 0x01) then some [.NOP]
  else if major = 0x0 then major0Row btype x6
  else if major = 0x4 then major4Row btype x6
  else if major = 0x5 then some [if btype = 0x5 then .BR_CLOOP else .BR_CALL]
  else if major = 0x1 then indirectRow x6
  else none

end BTypeDecoder

namespace FTypeDecoder

def major0Row (slot : UInt64) : Family :=
  let conversionOpcode := field slot 27 6
  if field slot 36 1 = 0 ∧ (conversionOpcode = 0x1B ∨ conversionOpcode = 0x1A) then
    some [if conversionOpcode = 0x1B then .FCVT_FXU else .FCVT_FX]
  else if field slot 33 1 ≠ 1 then none
  else if field slot 36 1 = 0 then some [.FRCPA]
  else some [.FRSQRTA]

def fixedPointRow (slot : UInt64) : Family :=
  if field slot 36 1 ≠ 1 then none
  else
    match field slot 34 2 with
    | 0 => some [.XMA]
    | 2 => some [.XMA_HU]
    | 3 => some [.XMA_H]
    | _ => none

def row (slot : UInt64) : Family :=
  let opcode := majorOpcode slot
  if 0x8 ≤ opcode ∧ opcode ≤ 0xD then
    if field slot 36 1 ≠ 0 ∧ (opcode = 0x9 ∨ opcode = 0xB ∨ opcode = 0xD) then none
    else some [if opcode = 0x8 ∨ opcode = 0x9 then .FMA else if opcode = 0xA ∨ opcode = 0xB then .FMS else .FNMA]
  else if opcode = 0x4 then some [.FCMP]
  else if opcode = 0x5 then some [.FCLASS]
  else if opcode = 0x0 then major0Row slot
  else if opcode = 0x1 then some [.FMIN, .FMAX]
  else if opcode = 0x2 then some [.FMERGE]
  else if opcode = 0xE then fixedPointRow slot
  else none

end FTypeDecoder

def XTypeDecoder.row (slot : UInt64) : Family :=
  let opcode := majorOpcode slot
  if opcode = 0x0 then if field slot 33 3 = 0 ∧ field slot 27 6 = 0 then some [.BREAK] else none
  else if opcode = 0x1 then some [.NOP]
  else if opcode = 0x6 then some [.MOVL]
  else none

namespace DecodeSlot

def rowM (raw : UInt64) : Family :=
  let major := majorOpcode raw
  if major = 0x1 ∧ x3 raw = 0x6 then some [.ALLOC]
  else if major = 0x0 ∧ x3 raw = 0x0 ∧ field raw 27 4 = 0x8 ∧ field raw 31 2 = 0x2 then some [.MOV_TO_AR]
  else if Row raw 0x0 0x0 0x00 ∨ Row raw 0x0 0x0 0x01 then some [.NOP]
  else if Row raw 0x0 0x0 0x2A then some [.MOV_TO_AR]
  else if Row raw 0x0 0x0 0x32 then some [.MOV_FROM_AR]
  else if major = 0x0 ∧ x3 raw = 0x4 then some [.CHK_A_NC]
  else if major = 0x0 ∧ x3 raw = 0x5 then some [.CHK_A_CLR]
  else if Row raw 0x1 0x0 0x2A then some [.MOV_TO_AR]
  else if Row raw 0x1 0x0 0x22 then some [.MOV_FROM_AR]
  else if major ≤ 0x7 then MTypeDecoder.row raw
  else ATypeDecoder.row raw

def rowI (raw : UInt64) : Family :=
  let major := majorOpcode raw
  if major = 0x1 ∧ x3 raw = 0x6 then some [.ALLOC]
  else if Row raw 0x0 0x0 0x00 ∨ Row raw 0x0 0x0 0x01 then some [.NOP]
  else if ZeroNop raw then some [.NOP]
  else if major = 0x0 ∧ x3 raw = 0x3 then some [.MOV_TO_PR]
  else if Row raw 0x0 0x2 0x00 then some [.MOV_TO_PR_ROT]
  else if Row raw 0x0 0x0 0x31 then some [.MOV_FROM_BR]
  else if Row raw 0x0 0x0 0x30 then some [.MOV_FROM_IP]
  else if Row raw 0x0 0x0 0x33 then some [.MOV_FROM_PR]
  else if Row raw 0x0 0x7 0x00 then some [.MOV_TO_BR]
  else if Row raw 0x0 0x0 0x0A then some [.MOV_TO_AR]
  else if Row raw 0x0 0x0 0x32 then some [.MOV_FROM_AR]
  else if Row raw 0x0 0x0 0x2A then some [.MOV_TO_AR]
  else if Row raw 0x0 0x2 0x38 then some [.MOV_FROM_AR]
  else if major ≤ 0x7 then ITypeDecoder.row raw
  else ATypeDecoder.row raw

def rowB (raw : UInt64) : Family :=
  if ZeroNop raw then some [.NOP]
  else if majorOpcode raw = 0x7 then some [.BRP]
  else if majorOpcode raw ≤ 0x5 then BTypeDecoder.row raw
  else none

def rowF (raw : UInt64) : Family :=
  if Row raw 0x0 0x0 0x00 ∨ Row raw 0x0 0x0 0x01 then some [.NOP] else FTypeDecoder.row raw

/-- The row of a word. An L slot has no opcode, so every word there is its one row. -/
def row (unit : UnitType) (raw : UInt64) : Family :=
  match unit with
  | .M_UNIT => rowM raw
  | .I_UNIT => rowI raw
  | .B_UNIT => rowB raw
  | .F_UNIT => rowF raw
  | .L_UNIT => some [.NOP]
  | .X_UNIT => XTypeDecoder.row raw
  | .INVALID => none

end DecodeSlot

end GuideXOS.Decoder
