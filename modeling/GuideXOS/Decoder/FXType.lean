import GuideXOS.Decoder.Instruction

/-!
# `FXType` — floating-point and extended instructions

These two decoders answer with an instruction whatever the word: it starts as a no-op of the unit, and is one still
where nothing names another type.
-/

namespace GuideXOS.Decoder

namespace FTypeDecoder

/-- The no-op every word starts as. -/
def start (slot : UInt64) : InstructionEx :=
  ({ type := .NOP, unit := .F_UNIT } : InstructionEx).setPredicate (qualifyingPredicate slot)

/-- The four-register operands of `F1`, `F2` and `F3`: `f1 = f3, f4, f2`. -/
def setMultiplyAdd (inst : InstructionEx) (slot : UInt64) : InstructionEx :=
  inst.setOperands4 (field slot 6 7) (field slot 20 7) (field slot 27 7) (field slot 13 7)

/-- The three-register operands of `F6`, `F8` and `F9`. -/
def setTwoSources (inst : InstructionEx) (slot : UInt64) : InstructionEx :=
  inst.setOperands (field slot 6 7) (field slot 13 7) (field slot 20 7)

def multiplyAdd (slot : UInt64) (opcode : UInt8) : InstructionEx :=
  let parallelForm := field slot 36 1 ≠ 0 ∧ (opcode = 0x9 ∨ opcode = 0xB ∨ opcode = 0xD)
  if parallelForm then start slot
  else
    let type : InstructionType :=
      if opcode = 0x8 ∨ opcode = 0x9 then .FMA else if opcode = 0xA ∨ opcode = 0xB then .FMS else .FNMA
    setMultiplyAdd { start slot with type := type } slot

/-- Major opcode 0: conversions and reciprocal approximations. -/
def decodeMajor0 (slot : UInt64) : InstructionEx :=
  let conversionOpcode := field slot 27 6
  if field slot 36 1 = 0 ∧ (conversionOpcode = 0x1B ∨ conversionOpcode = 0x1A) then
    { start slot with type := if conversionOpcode = 0x1B then .FCVT_FXU else .FCVT_FX }.setOperands (field slot 6 7)
      (field slot 13 7) 0
  else if field slot 33 1 ≠ 1 then start slot
  else if field slot 36 1 = 0 then
    { setTwoSources { start slot with type := .FRCPA } slot with predicate2 := field slot 27 6 }
  else
    { { start slot with type := .FRSQRTA }.setOperands (field slot 6 7) (field slot 20 7) 0 with
      predicate2 := field slot 27 6 }

/-- Major opcode 14: fixed-point multiply-add, and the select that nothing reads. -/
def fixedPoint (slot : UInt64) : InstructionEx :=
  if field slot 36 1 ≠ 1 then start slot
  else
    let type : InstructionType :=
      match field slot 34 2 with
      | 0 => .XMA
      | 2 => .XMA_HU
      | 3 => .XMA_H
      | _ => .UNKNOWN
    setMultiplyAdd { start slot with type := type } slot

/-- The switch of `decode` on the major opcode. -/
def decodeMajor (slot : UInt64) : InstructionEx :=
  let opcode := majorOpcode slot
  if 0x8 ≤ opcode ∧ opcode ≤ 0xD then multiplyAdd slot opcode
  else if opcode = 0x4 then
    ({ start slot with type := .FCMP }.setOperands (field slot 6 6) (field slot 12 7) (field slot 19 7)).setImmediate
      (extractBits slot 26 6)
  else if opcode = 0x5 then
    ({ start slot with type := .FCLASS }.setOperands (field slot 6 6) (field slot 12 7) 0).setImmediate
      (extractBits slot 19 9)
  else if opcode = 0x0 then decodeMajor0 slot
  else if opcode = 0x1 then
    setTwoSources { start slot with type := if field slot 33 1 = 0 then .FMIN else .FMAX } slot
  else if opcode = 0x2 then setTwoSources { start slot with type := .FMERGE } slot
  else if opcode = 0xE then fixedPoint slot
  else { start slot with type := .UNKNOWN }

/-- **`FTypeDecoder::decode`.** -/
def decode (slot : UInt64) : InstructionEx := (decodeMajor slot).setRawBits slot

end FTypeDecoder

namespace XTypeDecoder

def start (slot : UInt64) : InstructionEx :=
  ({ type := .NOP, unit := .X_UNIT } : InstructionEx).setPredicate (qualifyingPredicate slot)

/-- The immediate of `break`, from bits 6 to 25 and bit 36. -/
def imm21 (slot : UInt64) : UInt64 := (extractBits slot 36 1 <<< 20) ||| extractBits slot 6 20

/-- The upper part of a `movl`. -/
def movlImm (slot : UInt64) : UInt64 :=
  (extractBits slot 36 1 <<< 63) ||| (extractBits slot 21 1 <<< 21) ||| (extractBits slot 22 5 <<< 16) |||
    (extractBits slot 27 9 <<< 7) ||| extractBits slot 13 7

/-- The switch of `decode` on the major opcode. -/
def decodeMajor (slot : UInt64) : InstructionEx :=
  let opcode := majorOpcode slot
  if opcode = 0x0 then { start slot with type := .BREAK }.setImmediate (imm21 slot)
  else if opcode = 0x1 then
    let imm27 := extractBits slot 6 27
    if imm27 ≠ 0 then (start slot).setImmediate imm27 else start slot
  else if opcode = 0x6 then { start slot with type := .MOVL }.setImmediate (movlImm slot)
  else if 0xC ≤ opcode ∧ opcode ≤ 0xF then start slot
  else { start slot with type := .UNKNOWN }

/-- **`XTypeDecoder::decode`.** -/
def decode (slot : UInt64) : InstructionEx := (decodeMajor slot).setRawBits slot

end XTypeDecoder

end GuideXOS.Decoder
