import GuideXOS.Decoder.Instruction

/-!
# `BType` — branches

`decode` names a branch type; the special forms of major opcode 0 come first, and what is left over there is read as a
branch.
-/

namespace GuideXOS.Decoder

inductive BranchType
  | COND | CALL | RET | RFI | IA | CLOOP | CTOP | CEXIT | WTOP | WEXIT | BSW0 | BSW1 | COVER | CLRRB | CLRRB_PR | EPC
  | VMSW0 | VMSW1 | BREAK_B | NOP_B | HINT_B
  deriving DecidableEq

structure BFormat where
  qp : UInt8 := 0
  b1 : UInt8 := 0
  b2 : UInt8 := 0
  opcode : UInt8 := 0
  type : BranchType := .COND
  targetOffset : UInt64 := 0
  hasTarget : Bool := false
  wh : UInt8 := 0
  dh : UInt8 := 0
  ph : UInt8 := 0
  indirect : Bool := false

namespace BTypeDecoder

/-- The forms of major opcode 0 that are not control transfers. -/
def specialType (x6 : UInt8) : Option BranchType :=
  match x6 with
  | 0x00 => some .BREAK_B
  | 0x02 => some .COVER
  | 0x04 => some .CLRRB
  | 0x05 => some .CLRRB_PR
  | 0x08 => some .RFI
  | 0x0C => some .BSW0
  | 0x0D => some .BSW1
  | 0x10 => some .EPC
  | 0x18 => some .VMSW0
  | 0x19 => some .VMSW1
  | _ => none

/-- The target of an IP-relative branch: 21 signed bits, in bundles. -/
def ipRelativeTarget (raw currentIp : UInt64) : UInt64 :=
  currentIp + (signExtend ((extractBits raw 36 1 <<< 20) ||| extractBits raw 13 20) 21 <<< 4)

/-- The loop branches, where `btype` names no other. -/
def loopType (x6 : UInt8) (type : BranchType) : BranchType :=
  if x6 &&& 0x30 = 0x20 then
    match x6 &&& 0x0F with
    | 0x0 => .CLOOP
    | 0x1 => .CEXIT
    | 0x2 => .CTOP
    | 0x3 => .WTOP
    | 0x4 => .WEXIT
    | _ => type
  else .COND

def ipRelativeType (btype x6 : UInt8) (type : BranchType) : BranchType :=
  match btype with
  | 0x0 => .COND
  | 0x1 => .CALL
  | 0x4 => .COND
  | 0x5 => .CALL
  | _ => loopType x6 type

def decodeIPRelative (raw : UInt64) (btype x6 : UInt8) (currentIp : UInt64) (result : BFormat) : BFormat :=
  if btype = 0x4 ∧ x6 = 0x21 then { result with indirect := true, type := .RET, hasTarget := false }
  else { result with
    indirect := false
    type := ipRelativeType btype x6 result.type
    targetOffset := ipRelativeTarget raw currentIp
    hasTarget := true }

/-- The operation of an indirect branch, by the low five bits of `x6`. -/
def indirectType (x6 : UInt8) : BranchType :=
  match x6 &&& 0x1F with
  | 0x00 | 0x01 => .CALL
  | 0x04 => .RET
  | 0x05 => .IA
  | _ => .COND

def decodeIndirect (x6 : UInt8) (result : BFormat) : BFormat :=
  { result with indirect := true, type := indirectType x6, hasTarget := false }

/-- The counted and while branches of major opcode 4. -/
def major4Type (btype : UInt8) (type : BranchType) : BranchType :=
  match btype with
  | 0x2 => .WEXIT
  | 0x3 => .WTOP
  | 0x5 => .CLOOP
  | 0x6 => .CEXIT
  | 0x7 => .CTOP
  | _ => type

/-- Major opcode 0 past the special forms. -/
def decodeMajor0 (raw : UInt64) (btype x6 : UInt8) (currentIp : UInt64) (result : BFormat) : BFormat :=
  if x6 = 0x20 then { decodeIndirect x6 result with type := .COND, indirect := true, hasTarget := false }
  else if btype = 0x4 ∧ x6 ≠ 0x21 then decodeIndirect x6 result
  else decodeIPRelative raw btype x6 currentIp result

def decodeMajor4 (raw : UInt64) (btype x6 : UInt8) (currentIp : UInt64) (result : BFormat) : BFormat :=
  if btype = 0x4 then decodeIndirect x6 result
  else
    let result := decodeIPRelative raw btype x6 currentIp result
    { result with type := major4Type btype result.type }

/-- **`BTypeDecoder::decode`.** -/
def decode (raw currentIp : UInt64) : Option BFormat :=
  let major := majorOpcode raw
  let btype := field raw 6 3
  let x6 := field raw 27 6
  let result : BFormat :=
    { qp := qualifyingPredicate raw
      b1 := field raw 6 3
      b2 := field raw 13 3
      opcode := (major <<< 4) ||| (x6 &&& 0xF)
      wh := field raw 33 2
      dh := field raw 35 1
      ph := field raw 12 1 }
  if major = 0x0 ∧ (specialType x6).isSome then some { result with type := (specialType x6).getD .COND }
  else if major = 0x2 ∧ (x6 = 0x00 ∨ x6 = 0x01) then
    some { result with type := if x6 = 0x00 then .NOP_B else .HINT_B }
  else if major = 0x0 then some (decodeMajor0 raw btype x6 currentIp result)
  else if major = 0x4 then some (decodeMajor4 raw btype x6 currentIp result)
  else if major = 0x5 then
    some { result with
      type := if btype = 0x5 then .CLOOP else .CALL
      targetOffset := ipRelativeTarget raw currentIp
      hasTarget := true }
  else if major = 0x1 then some (decodeIndirect x6 result)
  else none

/-! ## The instruction -/

/-- `epc` and `vmsw` are not modelled by the emulator, and are no-ops there. -/
def instructionType (type : BranchType) : InstructionType :=
  match type with
  | .COND => .BR_COND
  | .CALL => .BR_CALL
  | .RET => .BR_RET
  | .RFI => .RFI
  | .BSW0 | .BSW1 => .BSW
  | .COVER => .COVER
  | .CLRRB | .CLRRB_PR => .CLRRB
  | .EPC | .VMSW0 | .VMSW1 => .NOP
  | .BREAK_B => .BREAK
  | .NOP_B | .HINT_B => .NOP
  | .IA => .BR_IA
  | .CLOOP => .BR_CLOOP
  | .CTOP => .BR_CTOP
  | .CEXIT => .BR_CEXIT
  | .WTOP => .BR_WTOP
  | .WEXIT => .BR_WEXIT

/-- The forms whose predicate bits are not a qualifier. -/
def unpredicated (type : BranchType) : Bool :=
  match type with
  | .COND | .CALL | .RET | .IA | .WTOP | .WEXIT => false
  | _ => true

/-- The immediate tells the two forms of one instruction apart. -/
def formImmediate (type : BranchType) : Option UInt64 :=
  match type with
  | .BSW0 | .CLRRB | .VMSW0 => some 0
  | .BSW1 | .CLRRB_PR | .VMSW1 => some 1
  | _ => none

def withOperands (fmt : BFormat) (instr : InstructionEx) : InstructionEx :=
  if fmt.type = .RET then instr.setOperands 0 fmt.b2 0
  else if fmt.type = .CALL then instr.setOperands fmt.b1 (if fmt.indirect then fmt.b2 else 0) 0
  else if fmt.type = .COND ∧ fmt.indirect then instr.setOperands 0 fmt.b2 0
  else instr

/-- **`BTypeDecoder::toInstruction`.** -/
def toInstruction (fmt : BFormat) : InstructionEx :=
  let instr := ({ type := instructionType fmt.type, unit := .B_UNIT } : InstructionEx).setPredicate
    (if unpredicated fmt.type then 0 else fmt.qp)
  let instr := ((formImmediate fmt.type).map instr.setImmediate).getD instr
  let instr := withOperands fmt instr
  if fmt.hasTarget then instr.setBranchTarget fmt.targetOffset else instr

end BTypeDecoder

end GuideXOS.Decoder
