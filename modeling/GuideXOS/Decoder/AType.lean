import GuideXOS.Decoder.Instruction

/-!
# `AType` — integer ALU operations and compares

`decode` cuts the fields of an A-type word and gives it a tag, `opcode`: the major opcode with four more bits, or what
the helper for the major opcode puts there. `toInstruction` looks at the tag only.
-/

namespace GuideXOS.Decoder

structure AFormat where
  qp : UInt8 := 0
  r1 : UInt8 := 0
  r2 : UInt8 := 0
  r3 : UInt8 := 0
  opcode : UInt8 := 0
  imm : UInt64 := 0
  hasImm : Bool := false
  addOne : Bool := false
  subOne : Bool := false
  p1 : UInt8 := 0
  p2 : UInt8 := 0
  x2 : UInt8 := 0
  ta : UInt8 := 0
  tb : UInt8 := 0
  c : UInt8 := 0

namespace ATypeDecoder

/-- An 8-bit immediate: bits 13 to 19, and the sign in bit 36. -/
def imm8 (raw : UInt64) : UInt64 := signExtend ((extractBits raw 36 1 <<< 7) ||| extractBits raw 13 7) 8

/-- A 14-bit immediate: bits 13 to 19, bits 27 to 32, and the sign in bit 36. -/
def imm14 (raw : UInt64) : UInt64 :=
  signExtend ((extractBits raw 36 1 <<< 13) ||| (extractBits raw 27 6 <<< 7) ||| extractBits raw 13 7) 14

/-- The tag of a logical operation, by a field of two bits. -/
def logicalTag (x2b : UInt8) : UInt8 :=
  match x2b with
  | 0 => 0x83
  | 1 => 0x84
  | 2 => 0x85
  | _ => 0x86

/-- **`decodeIntegerALU`.** What no test recognises keeps the tag it came with. -/
def decodeIntegerALU (raw : UInt64) (x2a x2b x4 ve : UInt8) (result : AFormat) : AFormat :=
  if x2a = 0 ∧ ve = 0 ∧ x4 = 0x0 ∧ x2b ≤ 1 then { result with opcode := 0x80, addOne := x2b == 1 }
  else if x2a = 0 ∧ ve = 0 ∧ x4 = 0x1 ∧ x2b ≤ 1 then { result with opcode := 0x81, subOne := x2b == 0 }
  else if x2a = 0 ∧ ve = 0 ∧ x4 = 0x9 ∧ x2b = 1 then
    { result with hasImm := true, imm := imm8 raw, opcode := 0x89 }
  else if x2a = 0 ∧ ve = 0 ∧ x4 = 0x3 then { result with opcode := logicalTag x2b }
  else if x2a = 0 ∧ ve = 0 ∧ x4 = 0x4 then
    { result with hasImm := true, imm := x2b.toUInt64 + 1, opcode := 0xA0 }
  else if x2a = 0 ∧ ve = 0 ∧ x4 = 0xB then
    { result with hasImm := true, imm := imm8 raw, r2 := result.r3, opcode := logicalTag x2b }
  else if x2a = 2 ∧ ve = 0 then
    { result with hasImm := true, imm := imm14 raw, r2 := result.r3, opcode := 0x80 }
  else if x2a = 3 ∧ ve = 0 then { result with hasImm := true, imm := imm14 raw, opcode := 0x82 }
  -- no tag is set from here on
  else if x2a = 2 then { result with hasImm := true, imm := imm8 raw }
  else if x2a = 3 then { result with hasImm := true, imm := imm14 raw }
  else result

def decodeAddlImm22 (raw : UInt64) (result : AFormat) : AFormat :=
  { result with hasImm := true, r3 := field raw 20 2, imm := extractImm22 raw }

def decodeShiftAdd (x2a : UInt8) (result : AFormat) : AFormat :=
  { result with hasImm := true, imm := x2a.toUInt64 + 1 }

def decodeCompare (raw : UInt64) (major x2a : UInt8) (result : AFormat) : AFormat :=
  let result := { result with
    p1 := field raw 6 6
    p2 := field raw 27 6
    opcode := major <<< 4
    x2 := x2a
    c := field raw 12 1
    ta := field raw 33 1
    tb := field raw 36 1 }
  if x2a ≥ 2 then { result with hasImm := true, imm := imm8 raw } else result

/-- **`ATypeDecoder::decode`.** -/
def decode (raw : UInt64) : Option AFormat :=
  let major := majorOpcode raw
  let x2a := field raw 34 2
  let x4 := field raw 29 4
  let result : AFormat :=
    { qp := qualifyingPredicate raw
      r1 := field raw 6 7
      r2 := field raw 13 7
      r3 := field raw 20 7
      opcode := (major <<< 4) ||| x4 }
  if major = 0x8 then some (decodeIntegerALU raw x2a (field raw 27 2) x4 (field raw 33 1) result)
  else if major = 0x9 then some (decodeAddlImm22 raw result)
  else if major = 0xA then some (decodeShiftAdd x2a result)
  else if major = 0xC ∨ major = 0xD ∨ major = 0xE then some (decodeCompare raw major x2a result)
  else none

/-! ## The instruction -/

def mapNormalCompareType (major : UInt8) (is32 : Bool) : InstructionType :=
  match major with
  | 0xC => if is32 then .CMP4_LT else .CMP_LT
  | 0xD => if is32 then .CMP4_LTU else .CMP_LTU
  | 0xE => if is32 then .CMP4_EQ else .CMP_EQ
  | _ => .CMP_EQ

def mapEqCompareType (is32 notEqual : Bool) : InstructionType :=
  if is32 then if notEqual then .CMP4_NE else .CMP4_EQ
  else if notEqual then .CMP_NE else .CMP_EQ

def mapZeroCompareType (ta c : UInt8) (is32 : Bool) : InstructionType :=
  if ta = 0 ∧ c = 0 then if is32 then .CMP4_GT else .CMP_GT
  else if ta = 0 ∧ c ≠ 0 then if is32 then .CMP4_LE else .CMP_LE
  else if ta ≠ 0 ∧ c = 0 then if is32 then .CMP4_GE else .CMP_GE
  else if is32 then .CMP4_LT else .CMP_LT

def mapParallelCompareCompleter (major : UInt8) : CompareCompleter :=
  match major with
  | 0xC => .AND
  | 0xD => .OR
  | 0xE => .OR_ANDCM
  | _ => .NORMAL

variable (fmt : AFormat)

/-- The relation and the completer of a compare. -/
def compareKind : InstructionType × CompareCompleter :=
  let major := (fmt.opcode >>> 4) &&& 0x0F
  let is32 := fmt.x2 &&& 1 != 0
  let immediateForm := fmt.x2 ≥ 2
  if ¬ immediateForm ∧ fmt.tb ≠ 0 ∧ fmt.r2 = 0 then
    (mapZeroCompareType fmt.ta fmt.c is32, mapParallelCompareCompleter major)
  else if fmt.ta ≠ 0 then (mapEqCompareType is32 (fmt.c != 0), mapParallelCompareCompleter major)
  else
    let completer : CompareCompleter := if fmt.c ≠ 0 then .UNC else .NORMAL
    -- `r != 0` is written as `0 < r`, unsigned
    if fmt.hasImm ∧ major = 0xD ∧ fmt.imm = 0 then (if is32 then .CMP4_NE else .CMP_NE, completer)
    else (mapNormalCompareType major is32, completer)

def compareInstruction : InstructionEx :=
  let kind := compareKind fmt
  let instr := (({ type := kind.1, unit := .I_UNIT } : InstructionEx).setPredicate fmt.qp).setOperands4 fmt.p1 fmt.r2
    fmt.r3 fmt.p2
  let instr := { instr with compareCompleter := kind.2 }
  if fmt.hasImm then instr.setImmediate fmt.imm else instr

/-- The frame of every case: type and unit, and the qualifying predicate. -/
def instruction (type : InstructionType) : InstructionEx :=
  ({ type := type, unit := .I_UNIT } : InstructionEx).setPredicate fmt.qp

/-- A logical operation. Its immediate form is written `r1 = imm8, r3`, with the register in `r2`. -/
def logical (register immediate : InstructionType) : InstructionEx :=
  if fmt.hasImm then ((instruction fmt immediate).setOperands fmt.r1 0 fmt.r2).setImmediate fmt.imm
  else (instruction fmt register).setOperands fmt.r1 fmt.r2 fmt.r3

def integerALU : Option InstructionEx :=
  match fmt.opcode &&& 0x0F with
  | 0x0 => some <|
      if fmt.hasImm then ((instruction fmt .ADD_IMM).setOperands fmt.r1 fmt.r2 0).setImmediate fmt.imm
      else (instruction fmt (if fmt.addOne then .ADD_P1 else .ADD)).setOperands fmt.r1 fmt.r2 fmt.r3
  | 0x1 => some <|
      if fmt.hasImm then ((instruction fmt .SUB_IMM).setOperands fmt.r1 0 fmt.r3).setImmediate fmt.imm
      else (instruction fmt (if fmt.subOne then .SUB_M1 else .SUB)).setOperands fmt.r1 fmt.r2 fmt.r3
  | 0x9 =>
      if fmt.hasImm then some (((instruction fmt .SUB_IMM).setOperands fmt.r1 0 fmt.r3).setImmediate fmt.imm)
      else none
  | 0x2 => some <|
      if fmt.hasImm then ((instruction fmt .ADDP4).setOperands fmt.r1 fmt.r3 0).setImmediate fmt.imm
      else (instruction fmt .ADDP4).setOperands fmt.r1 fmt.r2 fmt.r3
  | 0x3 => some (logical fmt .AND .AND_IMM)
  | 0x4 => some (logical fmt .ANDCM .ANDCM_IMM)
  | 0x5 => some (logical fmt .OR .OR_IMM)
  | 0x6 => some (logical fmt .XOR .XOR_IMM)
  | _ => none

/-- **`ATypeDecoder::toInstruction`.** -/
def toInstruction : Option InstructionEx :=
  if fmt.opcode = 0xA0 then
    some (((instruction fmt .SHLADD).setOperands fmt.r1 fmt.r2 fmt.r3).setImmediate fmt.imm)
  else if fmt.opcode &&& 0xF0 = 0x80 then integerALU fmt
  else if fmt.opcode &&& 0xF0 = 0x90 then
    some (((instruction fmt .ADDL).setOperands fmt.r1 fmt.r3 0).setImmediate fmt.imm)
  else if fmt.opcode &&& 0xF0 = 0xC0 ∨ fmt.opcode &&& 0xF0 = 0xD0 ∨ fmt.opcode &&& 0xF0 = 0xE0 then
    some (compareInstruction fmt)
  else none

end ATypeDecoder

end GuideXOS.Decoder
