import GuideXOS.Decoder.Instruction

/-!
# `IType` — shifts, deposits, tests and extensions

As for the A-type, `decode` leaves a tag in `opcode` and `toInstruction` reads nothing else to choose the operation.
The tag starts as the major opcode over the low four bits of `x6`. What sets no tag keeps that one.
-/

namespace GuideXOS.Decoder

structure IFormat where
  qp : UInt8 := 0
  r1 : UInt8 := 0
  r2 : UInt8 := 0
  r3 : UInt8 := 0
  opcode : UInt8 := 0
  pos : UInt8 := 0
  len : UInt8 := 0
  count : UInt8 := 0
  sof : UInt8 := 0
  sol : UInt8 := 0
  sor : UInt8 := 0
  imm : UInt64 := 0
  hasImm : Bool := false

namespace ITypeDecoder

/-- The index of a test in the table of bit and NaT tests. -/
def tableIndex (raw : UInt64) : UInt8 :=
  (field raw 19 1 <<< 4) ||| (field raw 33 1 <<< 3) ||| (field raw 36 1 <<< 2) ||| (field raw 12 1 <<< 1) |||
    field raw 13 1

/-- The tag of a test. An index that is not listed gets `0x5E`. -/
def testTag (tableIndex : UInt8) : UInt8 :=
  if tableIndex = 0x00 ∨ tableIndex = 0x10 then 0x52
  else if tableIndex = 0x02 ∨ tableIndex = 0x12 then 0x58
  else if tableIndex = 0x01 then 0x54
  else if tableIndex = 0x0C then 0x5D
  else if tableIndex = 0x07 then 0x57
  else 0x5E

def decodeTest (raw : UInt64) (result : IFormat) : Option IFormat :=
  if field raw 34 2 ≠ 0 then none
  else some { result with
    r1 := field raw 6 6
    r2 := field raw 27 6
    r3 := field raw 20 7
    pos := field raw 14 6
    opcode := testTag (tableIndex raw) }

def decodeMixedI (raw : UInt64) (x3 x6 : UInt8) (result : IFormat) : IFormat :=
  if x3 = 0 ∧ x6 = 0x10 then { result with pos := field raw 20 6, opcode := 0x10 }
  else if x3 = 0 ∧ x6 = 0x11 then { result with opcode := 0x11 }
  else if x3 = 0 ∧ 0x10 ≤ x6 ∧ x6 ≤ 0x16 then { result with opcode := x6 }
  else if x3 = 0 ∧ x6 = 0x1C then { result with opcode := x6 }
  else if x3 = 0 ∧ x6 = 0x06 then
    { result with sof := field raw 13 7, sol := field raw 20 7, sor := field raw 27 4 }
  -- the moves of application registers and every other word: no tag is set
  else result

def decodeDepositExtract (raw : UInt64) (x x2 : UInt8) (result : IFormat) : IFormat :=
  if x2 = 0x3 ∧ x = 0x0 then { result with count := field raw 27 6, opcode := 0x56 }
  else
    let result := { result with pos := field raw 14 6, len := field raw 27 6 }
    if x2 = 0x1 then { result with opcode := 0x51 }
    else if x2 = 0x3 ∧ x = 0x1 then
      { result with pos := 0x3F - result.pos, hasImm := true, imm := extractBits raw 36 1, opcode := 0x5F }
    else result

/-- Major opcode 5: the aliases of `dep.z` first, then the tests, then deposit and extract. -/
def decodeMajor5 (raw : UInt64) (result : IFormat) : IFormat :=
  let x := field raw 33 1
  let x2 := field raw 34 2
  let cpos := field raw 20 6
  let encodedLen := field raw 27 6
  if x = 1 ∧ x2 = 1 ∧ field raw 26 1 = 0 ∧ encodedLen = cpos then
    { result with opcode := 0x70, hasImm := true, count := 0x3F - cpos }
  else if x = 1 ∧ x2 = 1 ∧ field raw 26 1 = 0 ∧ encodedLen ≠ cpos then
    { result with opcode := 0x5E, pos := 0x3F - cpos, len := encodedLen }
  else (decodeTest raw result).getD (decodeDepositExtract raw x x2 result)

/-- The dispersed extension of major opcode 7: `z_a`, `z_b`, `v_e`, `x2a`, `x2b`, `x2c`. -/
def ShiftForm (raw : UInt64) (za zb ve x2a x2b x2c : UInt8) : Prop :=
  field raw 36 1 = za ∧ field raw 33 1 = zb ∧ field raw 32 1 = ve ∧ field raw 34 2 = x2a ∧ field raw 28 2 = x2b ∧
    field raw 30 2 = x2c

instance (raw : UInt64) (za zb ve x2a x2b x2c : UInt8) : Decidable (ShiftForm raw za zb ve x2a x2b x2c) :=
  inferInstanceAs (Decidable (_ ∧ _))

def decodeShift (raw : UInt64) (x2 x6 : UInt8) (result : IFormat) : IFormat :=
  if ShiftForm raw 0 0 0 3 2 2 then
    { result with opcode := 0x74, hasImm := true, imm := extractBits raw 20 4 }
  else if x6 = 0x14 then { result with opcode := 0x70, hasImm := true, count := field raw 20 6 }
  else if ShiftForm raw 0 1 0 1 1 2 then { result with opcode := 0x73, hasImm := false }
  else if ShiftForm raw 1 1 0 0 0 1 then { result with opcode := 0x70, hasImm := false }
  else if ShiftForm raw 1 1 0 0 0 0 ∨ ShiftForm raw 1 1 0 0 2 0 then { result with opcode := 0x71, hasImm := false }
  -- a count may be cut out here, but no tag is set
  else if x2 = 0x3 then { result with hasImm := true, count := field raw 20 6 }
  else result

/-- **`ITypeDecoder::decode`.** -/
def decode (raw : UInt64) : Option IFormat :=
  let major := majorOpcode raw
  let x6 := field raw 27 6
  let result : IFormat :=
    { qp := qualifyingPredicate raw
      r1 := field raw 6 7
      r2 := field raw 13 7
      r3 := field raw 20 7
      opcode := (major <<< 4) ||| (x6 &&& 0xF) }
  if major = 0x0 then some (decodeMixedI raw (field raw 33 3) x6 result)
  else if major = 0x4 then
    some { result with opcode := 0x50, pos := 0x3F - field raw 31 6, len := field raw 27 4 }
  else if major = 0x5 then some (decodeMajor5 raw result)
  else if major = 0x7 then some (decodeShift raw (field raw 28 2) x6 result)
  else none

/-! ## The instruction -/

variable (fmt : IFormat)

/-- The frame of every case but one: type and unit, and the qualifying predicate. -/
def instruction (type : InstructionType) : InstructionEx :=
  ({ type := type, unit := .I_UNIT } : InstructionEx).setPredicate fmt.qp

/-- A shift by a constant or by a register. -/
def shift (instr : InstructionEx) (source count : UInt8) : InstructionEx :=
  if fmt.hasImm then (instr.setOperands fmt.r1 fmt.r2 0).setImmediate fmt.count.toUInt64
  else instr.setOperands fmt.r1 source count

def shiftInstruction : Option InstructionEx :=
  match fmt.opcode &&& 0x0F with
  | 0x0 => some (shift fmt (instruction fmt .SHL) fmt.r2 fmt.r3)
  | 0x1 => some (shift fmt (instruction fmt .SHR) fmt.r3 fmt.r2)
  -- the one case that does not set the predicate
  | 0x2 => some (shift fmt { type := .SHRA, unit := .I_UNIT } fmt.r2 fmt.r3)
  | 0x3 => some ((instruction fmt .POPCNT).setOperands fmt.r1 fmt.r3 0)
  | 0x4 => some (((instruction fmt .MUX1).setOperands fmt.r1 fmt.r2 0).setImmediate fmt.imm)
  | _ => none

/-- A test of a bit or a NaT: two target predicates, in `dst` and `src3`. -/
def test (type : InstructionType) : InstructionEx :=
  (instruction fmt type).setOperands4 fmt.r1 fmt.r3 0 fmt.r2

/-- Position and length, as the deposits and extracts carry them. -/
def posLen : UInt64 := (fmt.len.toUInt64 <<< 6) ||| fmt.pos.toUInt64

def deposit : InstructionEx :=
  if fmt.hasImm then
    ((instruction fmt .DEP).setOperands fmt.r1 0 fmt.r3).setImmediate
      (posLen fmt ||| ((1 : UInt64) <<< 12) ||| ((fmt.imm &&& 0x1) <<< 13))
  else ((instruction fmt .DEP).setOperands fmt.r1 fmt.r2 fmt.r3).setImmediate (posLen fmt)

def depositInstruction : Option InstructionEx :=
  match fmt.opcode &&& 0x0F with
  | 0x6 => some (((instruction fmt .SHRP).setOperands fmt.r1 fmt.r2 fmt.r3).setImmediate fmt.count.toUInt64)
  | 0x2 => some ((test fmt .TBIT_Z).setImmediate fmt.pos.toUInt64)
  | 0x8 => some { (test fmt .TBIT_Z).setImmediate fmt.pos.toUInt64 with compareCompleter := .UNC }
  | 0x3 => some ((test fmt .TBIT_NZ).setImmediate fmt.pos.toUInt64)
  | 0x4 => some (test fmt .TNAT_Z)
  | 0x5 => some (test fmt .TNAT_NZ)
  | 0x7 => some { test fmt .TNAT_NZ with compareCompleter := .AND }
  | 0xD => some ({ test fmt .TBIT_Z with compareCompleter := .OR_ANDCM : InstructionEx }.setImmediate fmt.pos.toUInt64)
  | 0xE => some (((instruction fmt .DEP_Z).setOperands fmt.r1 fmt.r2 0).setImmediate (posLen fmt))
  | 0x0 | 0xF => some (deposit fmt)
  | 0x1 => some (((instruction fmt .EXTR).setOperands fmt.r1 fmt.r3 0).setImmediate (posLen fmt))
  | _ => none

/-- An extension, or the search for a zero byte. -/
def extension (type : InstructionType) : InstructionEx :=
  (instruction fmt type).setOperands fmt.r1 fmt.r3 0

/-- The sizes of the frame that `alloc` asks for. -/
def allocImm : UInt64 :=
  fmt.sof.toUInt64 ||| (fmt.sol.toUInt64 <<< 7) ||| (fmt.sor.toUInt64 <<< 14)

def extensionInstruction : Option InstructionEx :=
  match fmt.opcode with
  | 0x10 => some (extension fmt .ZXT1)
  | 0x11 => some (extension fmt .ZXT2)
  | 0x12 => some (extension fmt .ZXT4)
  | 0x14 => some (extension fmt .SXT1)
  | 0x15 => some (extension fmt .SXT2)
  | 0x16 => some (extension fmt .SXT4)
  | 0x1C => some (extension fmt .CZX1_R)
  | 0x0C => some ((({ type := .ALLOC, unit := .I_UNIT } : InstructionEx).setOperands fmt.r1 0 0).setImmediate
      (allocImm fmt))
  | _ => none

/-- **`ITypeDecoder::toInstruction`.** -/
def toInstruction : Option InstructionEx :=
  if fmt.opcode &&& 0xF0 = 0x70 then shiftInstruction fmt
  else if fmt.opcode &&& 0xF0 = 0x50 then depositInstruction fmt
  else extensionInstruction fmt

end ITypeDecoder

end GuideXOS.Decoder
