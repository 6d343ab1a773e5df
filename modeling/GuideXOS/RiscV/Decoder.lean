/-!
# `Decoder` — decoding of RISC-V instructions

`Decode` takes the fields of a 32-bit word, and for each major opcode looks at the minor ones. A word that nothing
recognises is illegal.
-/

namespace GuideXOS.RiscV

/-! ## Instructions -/

inductive InstructionFormat
  | Unknown | R | I | S | B | U | J | System | Compressed
  deriving DecidableEq

inductive Mnemonic
  | Illegal
  | LUI | AUIPC | JAL | JALR
  | BEQ | BNE | BLT | BGE | BLTU | BGEU
  | LB | LH | LW | LD | LBU | LHU | LWU
  | SB | SH | SW | SD
  | ADDI | SLTI | SLTIU | XORI | ORI | ANDI | SLLI | SRLI | SRAI
  | ADD | SUB | SLL | SLT | SLTU | XOR | SRL | SRA | OR | AND
  | ADDIW | SLLIW | SRLIW | SRAIW
  | ADDW | SUBW | SLLW | SRLW | SRAW
  | MUL | MULH | MULHSU | MULHU | DIV | DIVU | REM | REMU
  | MULW | DIVW | DIVUW | REMW | REMUW
  | LR_W | SC_W | AMOSWAP_W | AMOADD_W | AMOXOR_W | AMOAND_W | AMOOR_W | AMOMIN_W | AMOMAX_W | AMOMINU_W | AMOMAXU_W
  | LR_D | SC_D | AMOSWAP_D | AMOADD_D | AMOXOR_D | AMOAND_D | AMOOR_D | AMOMIN_D | AMOMAX_D | AMOMINU_D | AMOMAXU_D
  | CSRRW | CSRRS | CSRRC | CSRRWI | CSRRSI | CSRRCI
  | ECALL | EBREAK | MRET | SRET | WFI | SFENCE_VMA
  | FENCE | FENCE_I
  | C_NOP | C_ADDI | C_LI | C_LUI | C_ADDI16SP | C_ADDI4SPN
  | C_LW | C_LD | C_SW | C_SD
  | C_J | C_JR | C_JALR | C_BEQZ | C_BNEZ
  | C_SLLI | C_SRLI | C_SRAI | C_ANDI | C_MV | C_ADD | C_EBREAK
  deriving DecidableEq

structure DecodedInstruction where
  rawWord : UInt32
  mnemonic : Mnemonic := .Illegal
  format : InstructionFormat := .Unknown
  opcode : UInt8 := 0
  rd : UInt8 := 0
  rs1 : UInt8 := 0
  rs2 : UInt8 := 0
  funct3 : UInt8 := 0
  funct7 : UInt8 := 0
  immediate : Int64 := 0
  aq : Bool := false
  rl : Bool := false
  instructionLength : Nat := 4
  extension : String := "RV64I"
  recognized : Bool := false
  illegal : Bool := true
  deriving DecidableEq

namespace DecodedInstruction

variable (insn : DecodedInstruction)

/-- `markLegal`, with the mnemonic. -/
def legal (mnemonic : Mnemonic) : DecodedInstruction :=
  { insn with mnemonic := mnemonic, recognized := true, illegal := false }

/-- A `switch` that found a mnemonic, or none. -/
def accept : Option Mnemonic → DecodedInstruction
  | some mnemonic => insn.legal mnemonic
  | none => insn

/-- What is done at the end: a word that is not recognised is illegal. -/
def finish : DecodedInstruction :=
  if insn.recognized then insn else { insn with mnemonic := .Illegal, format := .Unknown, illegal := true }

end DecodedInstruction

/-! ## Opcodes -/

@[match_pattern] abbrev kOpcodeLui : UInt8 := 0x37
@[match_pattern] abbrev kOpcodeAuipc : UInt8 := 0x17
@[match_pattern] abbrev kOpcodeJal : UInt8 := 0x6F
@[match_pattern] abbrev kOpcodeJalr : UInt8 := 0x67
@[match_pattern] abbrev kOpcodeBranch : UInt8 := 0x63
@[match_pattern] abbrev kOpcodeLoad : UInt8 := 0x03
@[match_pattern] abbrev kOpcodeStore : UInt8 := 0x23
@[match_pattern] abbrev kOpcodeOpImm : UInt8 := 0x13
@[match_pattern] abbrev kOpcodeOp : UInt8 := 0x33
@[match_pattern] abbrev kOpcodeOpImm32 : UInt8 := 0x1B
@[match_pattern] abbrev kOpcodeOp32 : UInt8 := 0x3B
@[match_pattern] abbrev kOpcodeAtomic : UInt8 := 0x2F
@[match_pattern] abbrev kOpcodeFence : UInt8 := 0x0F
@[match_pattern] abbrev kOpcodeSystem : UInt8 := 0x73
abbrev kFunct7M : UInt8 := 0x01

/-! ## Immediates -/

/-- **`SignExtend`.** -/
def signExtend (value bits : UInt64) : Int64 :=
  let signBit := (1 : UInt64) <<< (bits - 1)
  let mask := if bits = 64 then ~~~(0 : UInt64) else (1 <<< bits) - 1
  if value &&& signBit ≠ 0 then (value ||| ~~~mask).toInt64 else (value &&& mask).toInt64

/-- **`SignExtendUnsigned`.** -/
def signExtendUnsigned (value bits : UInt32) : Int64 :=
  let signBit := (1 : UInt32) <<< (bits - 1)
  let mask := if bits = 32 then 0xFFFFFFFF else ((1 : UInt32) <<< bits) - 1
  if value &&& signBit ≠ 0 then (value ||| ~~~mask).toInt32.toInt64 else (value &&& mask).toUInt64.toInt64

/-- **`DecodeUImmediate`.** -/
def decodeUImmediate (rawWord : UInt32) : Int64 := signExtend (rawWord &&& 0xFFFFF000).toUInt64 32

/-- **`DecodeJImmediate`.** -/
def decodeJImmediate (rawWord : UInt32) : Int64 :=
  let imm := (((rawWord >>> 31) &&& 0x1) <<< 20) ||| (((rawWord >>> 21) &&& 0x3FF) <<< 1) |||
    (((rawWord >>> 20) &&& 0x1) <<< 11) ||| (((rawWord >>> 12) &&& 0xFF) <<< 12)
  signExtend imm.toUInt64 21

/-- **`DecodeBImmediate`.** -/
def decodeBImmediate (rawWord : UInt32) : Int64 :=
  let imm := (((rawWord >>> 31) &&& 0x1) <<< 12) ||| (((rawWord >>> 25) &&& 0x3F) <<< 5) |||
    (((rawWord >>> 8) &&& 0xF) <<< 1) ||| (((rawWord >>> 7) &&& 0x1) <<< 11)
  signExtend imm.toUInt64 13

/-- **`DecodeSImmediate`.** -/
def decodeSImmediate (rawWord : UInt32) : Int64 :=
  let imm := (((rawWord >>> 25) &&& 0x7F) <<< 5) ||| ((rawWord >>> 7) &&& 0x1F)
  signExtend imm.toUInt64 12

/-- The immediate of the I format. -/
def decodeIImmediate (rawWord : UInt32) : Int64 := signExtend ((rawWord >>> 20) &&& 0xFFF).toUInt64 12

/-- A field of the word as an immediate that is not negative. -/
def unsignedImmediate (rawWord shift mask : UInt32) : Int64 := ((rawWord >>> shift) &&& mask).toUInt64.toInt64

/-! ## Minor opcodes -/

def branchMnemonic : UInt8 → Option Mnemonic
  | 0x0 => some .BEQ
  | 0x1 => some .BNE
  | 0x4 => some .BLT
  | 0x5 => some .BGE
  | 0x6 => some .BLTU
  | 0x7 => some .BGEU
  | _ => none

def loadMnemonic : UInt8 → Option Mnemonic
  | 0x0 => some .LB
  | 0x1 => some .LH
  | 0x2 => some .LW
  | 0x3 => some .LD
  | 0x4 => some .LBU
  | 0x5 => some .LHU
  | 0x6 => some .LWU
  | _ => none

def storeMnemonic : UInt8 → Option Mnemonic
  | 0x0 => some .SB
  | 0x1 => some .SH
  | 0x2 => some .SW
  | 0x3 => some .SD
  | _ => none

/-- The choice that `funct7` makes. -/
def byFunct7 (funct7 : UInt8) (base alternate multiply : Option Mnemonic) : Option Mnemonic :=
  if funct7 = 0x00 then base
  else if funct7 = 0x20 then alternate
  else if funct7 = kFunct7M then multiply
  else none

def opMnemonic (funct3 funct7 : UInt8) : Option Mnemonic :=
  match funct3 with
  | 0x0 => byFunct7 funct7 (some .ADD) (some .SUB) (some .MUL)
  | 0x1 => byFunct7 funct7 (some .SLL) none (some .MULH)
  | 0x2 => byFunct7 funct7 (some .SLT) none (some .MULHSU)
  | 0x3 => byFunct7 funct7 (some .SLTU) none (some .MULHU)
  | 0x4 => byFunct7 funct7 (some .XOR) none (some .DIV)
  | 0x5 => byFunct7 funct7 (some .SRL) (some .SRA) (some .DIVU)
  | 0x6 => byFunct7 funct7 (some .OR) none (some .REM)
  | 0x7 => byFunct7 funct7 (some .AND) none (some .REMU)
  | _ => none

def op32Mnemonic (funct3 funct7 : UInt8) : Option Mnemonic :=
  match funct3 with
  | 0x0 => byFunct7 funct7 (some .ADDW) (some .SUBW) (some .MULW)
  | 0x1 => byFunct7 funct7 (some .SLLW) none none
  | 0x5 => byFunct7 funct7 (some .SRLW) (some .SRAW) (some .DIVUW)
  | 0x4 => byFunct7 funct7 none none (some .DIVW)
  | 0x6 => byFunct7 funct7 none none (some .REMW)
  | 0x7 => byFunct7 funct7 none none (some .REMUW)
  | _ => none

/-- The `switch` of `decodeAtomic`. -/
def atomicMnemonic (isDoubleword : Bool) (funct5 : UInt8) : Option Mnemonic :=
  match funct5 with
  | 0x02 => some (if isDoubleword then .LR_D else .LR_W)
  | 0x03 => some (if isDoubleword then .SC_D else .SC_W)
  | 0x01 => some (if isDoubleword then .AMOSWAP_D else .AMOSWAP_W)
  | 0x00 => some (if isDoubleword then .AMOADD_D else .AMOADD_W)
  | 0x04 => some (if isDoubleword then .AMOXOR_D else .AMOXOR_W)
  | 0x0C => some (if isDoubleword then .AMOAND_D else .AMOAND_W)
  | 0x08 => some (if isDoubleword then .AMOOR_D else .AMOOR_W)
  | 0x10 => some (if isDoubleword then .AMOMIN_D else .AMOMIN_W)
  | 0x14 => some (if isDoubleword then .AMOMAX_D else .AMOMAX_W)
  | 0x18 => some (if isDoubleword then .AMOMINU_D else .AMOMINU_W)
  | 0x1C => some (if isDoubleword then .AMOMAXU_D else .AMOMAXU_W)
  | _ => none

/-- The operations without operands, by the twelve bits that are a CSR number elsewhere. -/
def environmentMnemonic (csr : UInt32) : Option Mnemonic :=
  if csr = 0x000 then some .ECALL
  else if csr = 0x001 then some .EBREAK
  else if csr = 0x302 then some .MRET
  else if csr = 0x102 then some .SRET
  else if csr = 0x105 then some .WFI
  else none

/-- Setting and clearing bits is recognised only with a source that is not zero. -/
def csrMnemonic (funct3 : UInt8) (zimm : UInt32) : Option Mnemonic :=
  match funct3 with
  | 0x1 => some .CSRRW
  | 0x2 => if zimm ≠ 0 then some .CSRRS else none
  | 0x3 => if zimm ≠ 0 then some .CSRRC else none
  | 0x5 => some .CSRRWI
  | 0x6 => some .CSRRSI
  | 0x7 => some .CSRRCI
  | _ => none

/-- **`IsShiftImmWLegal`.** -/
def isShiftImmWLegal (funct7 funct3 : UInt8) : Bool :=
  if funct3 = 0x1 then funct7 == 0x00
  else if funct3 = 0x5 then funct7 == 0x00 || funct7 == 0x20
  else false

/-! ## Major opcodes -/

namespace DecodedInstruction

variable (insn : DecodedInstruction)

/-- `kOpcodeOp` and `kOpcodeOp32`: with `markMExtension` where `funct7` says so. -/
def acceptOp : Option Mnemonic → DecodedInstruction
  | some mnemonic => (if insn.funct7 = kFunct7M then { insn with extension := "RV64M" } else insn).legal mnemonic
  | none => insn

def decodeJalr : DecodedInstruction :=
  let insn := { insn with format := .I, immediate := decodeIImmediate insn.rawWord }
  if insn.funct3 = 0x0 then insn.legal .JALR else insn

def decodeSystem : DecodedInstruction :=
  let csr : UInt32 := (insn.rawWord >>> 20) &&& 0xFFF
  let zimm : UInt32 := (insn.rawWord >>> 15) &&& 0x1F
  let insn := { insn with immediate := unsignedImmediate insn.rawWord 20 0xFFF }
  match insn.funct3 with
  | 0x0 =>
      let insn := { insn with format := .System }
      match environmentMnemonic csr with
      | some mnemonic => { insn with extension := "SYSTEM" }.legal mnemonic
      | none => insn
  | 0x4 => insn
  | funct3 =>
      let insn := { insn with format := .I, extension := "Zicsr" }
      let insn := insn.accept (csrMnemonic funct3 zimm)
      if 0x5 ≤ funct3 then { insn with rs1 := zimm.toUInt8 } else insn

def decodeOpImm : DecodedInstruction :=
  let funct6 : UInt32 := (insn.rawWord >>> 26) &&& 0x3F
  let insn := { insn with format := .I, immediate := decodeIImmediate insn.rawWord }
  match insn.funct3 with
  | 0x0 => insn.legal .ADDI
  | 0x2 => insn.legal .SLTI
  | 0x3 => insn.legal .SLTIU
  | 0x4 => insn.legal .XORI
  | 0x6 => insn.legal .ORI
  | 0x7 => insn.legal .ANDI
  | 0x1 =>
      if funct6 = 0x00 then { insn with immediate := unsignedImmediate insn.rawWord 20 0x3F }.legal .SLLI else insn
  | 0x5 =>
      if funct6 = 0x00 ∨ funct6 = 0x10 then
        { insn with immediate := unsignedImmediate insn.rawWord 20 0x3F }.legal
          (if funct6 = 0x10 then .SRAI else .SRLI)
      else insn
  | _ => insn

def decodeOpImm32 : DecodedInstruction :=
  let insn := { insn with format := .I }
  match insn.funct3 with
  | 0x0 => { insn with immediate := decodeIImmediate insn.rawWord }.legal .ADDIW
  | 0x1 =>
      if isShiftImmWLegal insn.funct7 insn.funct3 then
        { insn with immediate := unsignedImmediate insn.rawWord 20 0x1F }.legal .SLLIW
      else insn
  | 0x5 =>
      if isShiftImmWLegal insn.funct7 insn.funct3 then
        { insn with immediate := unsignedImmediate insn.rawWord 20 0x1F }.legal
          (if insn.funct7 = 0x20 then .SRAIW else .SRLIW)
      else insn
  | _ => insn

/-- `decodeAtomic`. -/
def decodeAtomic (isDoubleword : Bool) : DecodedInstruction :=
  let funct5 := ((insn.rawWord >>> 27) &&& 0x1F).toUInt8
  let widthOk := if isDoubleword then insn.funct3 == 0x3 else insn.funct3 == 0x2
  let rs2Ok := if funct5 = 0x02 then insn.rs2 == 0 else true
  let insn := { insn with
    format := .R
    aq := (insn.rawWord >>> 26) &&& 0x1 != 0
    rl := (insn.rawWord >>> 25) &&& 0x1 != 0 }
  if !widthOk || !rs2Ok then insn
  else { insn with extension := "RV64A" }.accept (atomicMnemonic isDoubleword funct5)

def decodeFence : DecodedInstruction :=
  let insn := { insn with format := .System }
  if insn.funct3 = 0x0 then { insn with immediate := unsignedImmediate insn.rawWord 20 0xFFF }.legal .FENCE
  else if insn.funct3 = 0x1 then { insn with immediate := unsignedImmediate insn.rawWord 20 0xFFF }.legal .FENCE_I
  else insn

/-- The `switch` over the opcode. -/
def decodeOpcode : DecodedInstruction :=
  match insn.opcode with
  | kOpcodeLui => { insn with format := .U, immediate := decodeUImmediate insn.rawWord }.legal .LUI
  | kOpcodeAuipc => { insn with format := .U, immediate := decodeUImmediate insn.rawWord }.legal .AUIPC
  | kOpcodeJal => { insn with format := .J, immediate := decodeJImmediate insn.rawWord }.legal .JAL
  | kOpcodeJalr => insn.decodeJalr
  | kOpcodeSystem => insn.decodeSystem
  | kOpcodeBranch =>
      { insn with format := .B, immediate := decodeBImmediate insn.rawWord }.accept (branchMnemonic insn.funct3)
  | kOpcodeLoad =>
      { insn with format := .I, immediate := decodeIImmediate insn.rawWord }.accept (loadMnemonic insn.funct3)
  | kOpcodeStore =>
      { insn with format := .S, immediate := decodeSImmediate insn.rawWord }.accept (storeMnemonic insn.funct3)
  | kOpcodeOpImm => insn.decodeOpImm
  | kOpcodeOp => { insn with format := .R }.acceptOp (opMnemonic insn.funct3 insn.funct7)
  | kOpcodeOpImm32 => insn.decodeOpImm32
  | kOpcodeOp32 => { insn with format := .R }.acceptOp (op32Mnemonic insn.funct3 insn.funct7)
  | kOpcodeAtomic =>
      if insn.funct3 = 0x2 then insn.decodeAtomic false
      else if insn.funct3 = 0x3 then insn.decodeAtomic true
      else insn
  | kOpcodeFence => insn.decodeFence
  | _ => insn

end DecodedInstruction

/-- The fields of a word. -/
def fieldsOf (rawWord : UInt32) : DecodedInstruction where
  rawWord := rawWord
  opcode := (rawWord &&& 0x7F).toUInt8
  rd := ((rawWord >>> 7) &&& 0x1F).toUInt8
  funct3 := ((rawWord >>> 12) &&& 0x7).toUInt8
  rs1 := ((rawWord >>> 15) &&& 0x1F).toUInt8
  rs2 := ((rawWord >>> 20) &&& 0x1F).toUInt8
  funct7 := ((rawWord >>> 25) &&& 0x7F).toUInt8

/-- **`Decode`.** -/
def decode (rawWord : UInt32) : DecodedInstruction := (fieldsOf rawWord).decodeOpcode.finish

end GuideXOS.RiscV
