import GuideXOS.Decoder.AType
import GuideXOS.Decoder.IType
import GuideXOS.Decoder.MType
import GuideXOS.Decoder.BType
import GuideXOS.Decoder.FXType

/-!
# `DecodeSlot` — a slot word and its unit

The rows that `DecodeSlot` tests by itself come before the decoders of the formats. A word that none of them takes is
`UNKNOWN`.
-/

namespace GuideXOS.Decoder

namespace DecodeSlot

def x3 (slotBits : UInt64) : UInt8 := field slotBits 33 3

def x6 (slotBits : UInt64) : UInt8 := field slotBits 27 6

/-- The major opcode with its two usual extensions. -/
def Row (slotBits : UInt64) (major x3' x6' : UInt8) : Prop :=
  majorOpcode slotBits = major ∧ x3 slotBits = x3' ∧ x6 slotBits = x6'

instance (slotBits : UInt64) (major x3' x6' : UInt8) : Decidable (Row slotBits major x3' x6') :=
  inferInstanceAs (Decidable (_ ∧ _))

/-- An instruction of the row, predicated by the word. -/
def predicated (slotBits : UInt64) (type : InstructionType) (unit : UnitType) : InstructionEx :=
  ({ type := type, unit := unit } : InstructionEx).setPredicate (qualifyingPredicate slotBits)

def alloc (slotBits : UInt64) (unit : UnitType) : InstructionEx :=
  (({ type := .ALLOC, unit := unit } : InstructionEx).setOperands (field slotBits 6 7) 0 0).setImmediate
    (extractBits slotBits 13 7 ||| (extractBits slotBits 20 7 <<< 7) ||| (extractBits slotBits 27 4 <<< 14))

/-- A signed 8-bit immediate moved to an application register. -/
def movToArImm (slotBits : UInt64) (unit : UnitType) : InstructionEx :=
  ((predicated slotBits .MOV_TO_AR unit).setOperands (field slotBits 20 7) 0 0).setImmediate
    (signExtend (extractBits slotBits 13 7 ||| (extractBits slotBits 36 1 <<< 7)) 8)

def movToAr (slotBits : UInt64) (unit : UnitType) : InstructionEx :=
  (predicated slotBits .MOV_TO_AR unit).setOperands (field slotBits 20 7) (field slotBits 13 7) 0

def movFromAr (slotBits : UInt64) (unit : UnitType) : InstructionEx :=
  (predicated slotBits .MOV_FROM_AR unit).setOperands (field slotBits 6 7) (field slotBits 20 7) 0

/-- A check of the advanced-load table, with the target of its recovery code. -/
def chkA (slotBits ip : UInt64) (type : InstructionType) : InstructionEx :=
  ((predicated slotBits type .M_UNIT).setOperands (field slotBits 6 7) 0 0).setBranchTarget
    (ip + signExtend ((extractBits slotBits 36 1 <<< 20) ||| extractBits slotBits 13 20) 21 * 16)

/-- The mask of `mov pr = r2, mask17`. -/
def mask17 (slotBits : UInt64) : UInt64 :=
  let imm16 := extractBits slotBits 6 7 ||| (extractBits slotBits 24 8 <<< 7) ||| (extractBits slotBits 36 1 <<< 15)
  signExtend (imm16 <<< 1) 17

def movToPr (slotBits : UInt64) : InstructionEx :=
  ((predicated slotBits .MOV_TO_PR .I_UNIT).setOperands 0 (field slotBits 13 7) 0).setImmediate (mask17 slotBits)

/-- **`DecodeMovPrRotImmediate`.** -/
def decodeMovPrRotImmediate (slotBits : UInt64) : UInt64 :=
  signExtend (extractBits slotBits 6 27 ||| (extractBits slotBits 36 1 <<< 27)) 28 <<< 16

def movToPrRot (slotBits : UInt64) : InstructionEx :=
  (predicated slotBits .MOV_TO_PR_ROT .I_UNIT).setImmediate (decodeMovPrRotImmediate slotBits)

/-- The no-op of major opcode 2, with every operand bit zero. -/
def ZeroNop (slotBits : UInt64) : Prop := Row slotBits 0x2 0x0 0x00 ∧ extractBits slotBits 6 21 = 0

instance (slotBits : UInt64) : Decidable (ZeroNop slotBits) := inferInstanceAs (Decidable (_ ∧ _))

/-- Major opcodes 8 to 15 are integer ALU words in both the M and the I unit. -/
def decodeAType (slotBits : UInt64) : Option InstructionEx :=
  (ATypeDecoder.decode slotBits).bind ATypeDecoder.toInstruction

/-- The M unit. -/
def decodeM (slotBits ip : UInt64) : Option InstructionEx :=
  let major := majorOpcode slotBits
  if major = 0x1 ∧ x3 slotBits = 0x6 then some (alloc slotBits .M_UNIT)
  else if major = 0x0 ∧ x3 slotBits = 0x0 ∧ field slotBits 27 4 = 0x8 ∧ field slotBits 31 2 = 0x2 then
    some (movToArImm slotBits .M_UNIT)
  else if Row slotBits 0x0 0x0 0x00 ∨ Row slotBits 0x0 0x0 0x01 then some (predicated slotBits .NOP .M_UNIT)
  else if Row slotBits 0x0 0x0 0x2A then some (movToAr slotBits .M_UNIT)
  else if Row slotBits 0x0 0x0 0x32 then some (movFromAr slotBits .M_UNIT)
  else if major = 0x0 ∧ x3 slotBits = 0x4 then some (chkA slotBits ip .CHK_A_NC)
  else if major = 0x0 ∧ x3 slotBits = 0x5 then some (chkA slotBits ip .CHK_A_CLR)
  else if Row slotBits 0x1 0x0 0x2A then some (movToAr slotBits .M_UNIT)
  else if Row slotBits 0x1 0x0 0x22 then some (movFromAr slotBits .M_UNIT)
  else if major ≤ 0x7 then (MTypeDecoder.decode slotBits).bind MTypeDecoder.toInstruction
  else decodeAType slotBits

/-- The I unit. -/
def decodeI (slotBits : UInt64) : Option InstructionEx :=
  let major := majorOpcode slotBits
  if major = 0x1 ∧ x3 slotBits = 0x6 then some (alloc slotBits .I_UNIT)
  else if Row slotBits 0x0 0x0 0x00 ∨ Row slotBits 0x0 0x0 0x01 then some (predicated slotBits .NOP .I_UNIT)
  else if ZeroNop slotBits then some { type := .NOP, unit := .I_UNIT }
  else if major = 0x0 ∧ x3 slotBits = 0x3 then some (movToPr slotBits)
  else if Row slotBits 0x0 0x2 0x00 then some (movToPrRot slotBits)
  -- the next four set no predicate
  else if Row slotBits 0x0 0x0 0x31 then
    some (({ type := .MOV_FROM_BR, unit := .I_UNIT } : InstructionEx).setOperands (field slotBits 6 7)
      (field slotBits 13 3) 0)
  else if Row slotBits 0x0 0x0 0x30 then
    some (({ type := .MOV_FROM_IP, unit := .I_UNIT } : InstructionEx).setOperands (field slotBits 6 7) 0 0)
  else if Row slotBits 0x0 0x0 0x33 then
    some (({ type := .MOV_FROM_PR, unit := .I_UNIT } : InstructionEx).setOperands (field slotBits 6 7) 0 0)
  else if Row slotBits 0x0 0x7 0x00 then
    some (({ type := .MOV_TO_BR, unit := .I_UNIT } : InstructionEx).setOperands (field slotBits 6 3)
      (field slotBits 13 7) 0)
  else if Row slotBits 0x0 0x0 0x0A then some (movToArImm slotBits .I_UNIT)
  else if Row slotBits 0x0 0x0 0x32 then some (movFromAr slotBits .I_UNIT)
  else if Row slotBits 0x0 0x0 0x2A then some (movToAr slotBits .I_UNIT)
  else if Row slotBits 0x0 0x2 0x38 then some (movFromAr slotBits .I_UNIT)
  else if major ≤ 0x7 then (ITypeDecoder.decode slotBits).bind ITypeDecoder.toInstruction
  else decodeAType slotBits

/-- The B unit. -/
def decodeB (slotBits ip : UInt64) : Option InstructionEx :=
  if ZeroNop slotBits then some { type := .NOP, unit := .B_UNIT }
  else if majorOpcode slotBits = 0x7 then some { type := .BRP, unit := .B_UNIT }
  else if majorOpcode slotBits ≤ 0x5 then (BTypeDecoder.decode slotBits ip).map BTypeDecoder.toInstruction
  else none

/-- The F unit. -/
def decodeF (slotBits : UInt64) : InstructionEx :=
  if Row slotBits 0x0 0x0 0x00 ∨ Row slotBits 0x0 0x0 0x01 then predicated slotBits .NOP .F_UNIT
  else FTypeDecoder.decode slotBits

/-- The switch of `DecodeSlot` on the unit. -/
def decodeUnit (slotBits : UInt64) (unitType : UnitType) (ip : UInt64) : Option InstructionEx :=
  match unitType with
  | .M_UNIT => decodeM slotBits ip
  | .I_UNIT => decodeI slotBits
  | .B_UNIT => decodeB slotBits ip
  | .F_UNIT => some (decodeF slotBits)
  | .L_UNIT => some { type := .NOP, unit := .L_UNIT }
  | .X_UNIT => some (XTypeDecoder.decode slotBits)
  | .INVALID => none

/-! ## The major opcodes without a row of their own -/

section Majors
variable {slotBits : UInt64}

theorem decodeM_of_major (h : majorOpcode slotBits ≠ 0 ∧ majorOpcode slotBits ≠ 1) (ip : UInt64) :
    decodeM slotBits ip =
      if majorOpcode slotBits ≤ 0x7 then (MTypeDecoder.decode slotBits).bind MTypeDecoder.toInstruction
      else decodeAType slotBits := by
  unfold decodeM Row
  simp only [h, false_and, or_self, if_false]

theorem decodeI_of_major (h : majorOpcode slotBits ≠ 0 ∧ majorOpcode slotBits ≠ 1 ∧ majorOpcode slotBits ≠ 2) :
    decodeI slotBits =
      if majorOpcode slotBits ≤ 0x7 then (ITypeDecoder.decode slotBits).bind ITypeDecoder.toInstruction
      else decodeAType slotBits := by
  unfold decodeI ZeroNop Row
  simp only [h, false_and, or_self, if_false]

end Majors

end DecodeSlot

/-- **`InstructionDecoder::DecodeSlot`.** -/
def decodeSlot (slotBits : UInt64) (unitType : UnitType) (ip : UInt64) : InstructionEx :=
  ((DecodeSlot.decodeUnit slotBits unitType ip).getD { type := .UNKNOWN, unit := unitType }).setRawBits slotBits

end GuideXOS.Decoder
