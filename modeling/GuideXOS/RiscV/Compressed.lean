import GuideXOS.RiscV.Decoder

/-!
# `Compressed` — decoding of the 16-bit forms

`DecodeCompressed` looks at the quadrant and at `funct3`. It keeps the halfword and its length, whatever it finds.
-/

namespace GuideXOS.RiscV

/-- The six bits of most of the immediates. -/
def decodeCImmediate (rawHalfword : UInt32) : Int64 :=
  let bits : UInt32 := ((rawHalfword >>> 2) &&& (0x1F : UInt32)) ||| (((rawHalfword >>> 12) &&& 0x1) <<< 5)
  signExtendUnsigned bits 6

namespace DecodedInstruction

variable (insn : DecodedInstruction)

/-- `kCompressedOpcodeQuadrant1`. -/
def decodeQuadrant1 (rawHalfword : UInt32) (rd rs1Prime : UInt8) : DecodedInstruction :=
  let imm := decodeCImmediate rawHalfword
  match insn.funct3 with
  | 0x0 =>
      let insn := { insn with rd := rd, rs1 := rd, immediate := imm }
      if rd = 0 ∧ imm = 0 then insn.legal .C_NOP
      else if rd ≠ 0 then insn.legal .C_ADDI
      else insn
  | 0x1 =>
      let insn := { insn with rd := rd, rs1 := rd, immediate := (imm <<< 12).toInt32.toInt64 }
      if rd = 0 then insn
      else if rd = 2 then insn.legal .C_ADDI16SP
      else insn.legal .C_LUI
  | 0x2 =>
      let insn := { insn with rd := rd, rs1 := rd, immediate := imm }
      if rd ≠ 0 then insn.legal .C_LI else insn
  | 0x3 =>
      let upper := (((rawHalfword >>> 12) &&& 0x1) <<< 17) ||| (((rawHalfword >>> 2) &&& 0x1F) <<< 12)
      let insn := { insn with rd := rd, rs1 := rd, immediate := upper.toInt32.toInt64 }
      if rd = 2 then insn
      else if rd ≠ 0 then insn.legal .C_LUI
      else insn
  | 0x4 =>
      let kind := (rawHalfword >>> 10) &&& 0x3
      if kind = 0x0 then
        let insn := { insn with immediate := imm }
        if rawHalfword &&& 0x1000 = 0 then (if rd ≠ 0 then insn.legal .C_SRLI else insn)
        else if rd ≠ 0 then insn.legal .C_SRAI
        else insn
      else if kind = 0x1 then
        let insn := { insn with immediate := imm }
        if rd ≠ 0 then insn.legal .C_ANDI else insn
      else insn
  | 0x5 => { insn with rd := 0, immediate := 0 }.legal .C_J
  | 0x6 => { insn with rs1 := rs1Prime, rs2 := 0, immediate := 0 }.legal .C_BEQZ
  | 0x7 => { insn with rs1 := rs1Prime, rs2 := 0, immediate := 0 }.legal .C_BNEZ
  | _ => insn

/-- `kCompressedOpcodeQuadrant2`. -/
def decodeQuadrant2 (rawHalfword : UInt32) (rd rs2 : UInt8) : DecodedInstruction :=
  match insn.funct3 with
  | 0x0 =>
      let insn := { insn with rd := rd, rs1 := rd, immediate := signExtendUnsigned ((rawHalfword >>> 2) &&& 0x1F) 5 }
      if rd = 0 then insn else insn.legal .C_SLLI
  | 0x2 =>
      let insn := { insn with rd := rd, rs1 := rd, rs2 := rs2, immediate := 0 }
      if rd = 0 ∧ rs2 = 0 then insn.legal .C_EBREAK
      else if rd ≠ 0 ∧ rs2 = 0 then insn.legal .C_JR
      else if rd ≠ 0 ∧ rs2 ≠ 0 then insn.legal .C_MV
      else insn
  | 0x4 =>
      if (rawHalfword >>> 12) &&& 0x1 = 0 then
        let insn := { insn with rd := rd, rs1 := rd, rs2 := rs2, immediate := 0 }
        if rd ≠ 0 ∧ rs2 = 0 then insn.legal .C_JR
        else if rd ≠ 0 ∧ rs2 ≠ 0 then insn.legal .C_MV
        else insn
      else if rs2 = 0 then
        let insn := { insn with rd := 1, rs1 := rd, immediate := 0 }
        if rd = 0 then insn.legal .C_EBREAK else insn.legal .C_JALR
      else
        let insn := { insn with rd := rd, rs1 := rd, rs2 := rs2 }
        if rd ≠ 0 ∧ rs2 ≠ 0 then insn.legal .C_ADD else insn
  | _ => insn

/-- `kCompressedOpcodeQuadrant0`. -/
def decodeQuadrant0 (rawHalfword : UInt32) (rdPrime rs1Prime : UInt8) : DecodedInstruction :=
  match insn.funct3 with
  | 0x0 =>
      let imm := signExtendUnsigned ((((rawHalfword >>> 6) &&& 0x1) <<< 2) ||| (((rawHalfword >>> 5) &&& 0x1) <<< 3) |||
        (((rawHalfword >>> 11) &&& 0x3) <<< 4) ||| (((rawHalfword >>> 7) &&& 0xF) <<< 6)) 10
      let insn := { insn with rd := rdPrime, rs1 := 2, immediate := imm }
      if imm = 0 then insn else insn.legal .C_ADDI4SPN
  | 0x2 => { insn with rd := rdPrime, rs1 := rs1Prime, immediate := 0 }.legal .C_LW
  | 0x3 => { insn with rd := rdPrime, rs1 := rs1Prime, immediate := 0 }.legal .C_LD
  | 0x6 => { insn with rs1 := rs1Prime, rs2 := rdPrime, immediate := 0 }.legal .C_SW
  | 0x7 => { insn with rs1 := rs1Prime, rs2 := rdPrime, immediate := 0 }.legal .C_SD
  | _ => insn

end DecodedInstruction

/-- **`DecodeCompressed`.** -/
def decodeCompressed (halfword : UInt16) : DecodedInstruction :=
  let rawHalfword := halfword.toUInt32
  let insn : DecodedInstruction :=
    { rawWord := rawHalfword
      instructionLength := 2
      extension := "RV64C"
      format := .Compressed
      opcode := (rawHalfword &&& 0x3).toUInt8
      funct3 := ((rawHalfword >>> 13) &&& 0x7).toUInt8 }
  let rd := ((rawHalfword >>> 7) &&& 0x1F).toUInt8
  let rs2 := ((rawHalfword >>> 2) &&& 0x1F).toUInt8
  let rdPrime : UInt8 := (8 : UInt8) + ((rawHalfword >>> 2) &&& 0x7).toUInt8
  let rs1Prime : UInt8 := (8 : UInt8) + ((rawHalfword >>> 7) &&& 0x7).toUInt8
  let insn :=
    if insn.opcode = 0x1 then insn.decodeQuadrant1 rawHalfword rd rs1Prime
    else if insn.opcode = 0x2 then insn.decodeQuadrant2 rawHalfword rd rs2
    else if insn.opcode = 0x0 then insn.decodeQuadrant0 rawHalfword rdPrime rs1Prime
    else insn
  insn.finish

/-! ## What decoding keeps -/

/-- The word and the length are not changed. -/
structure DecodedInstruction.SameWord (insn insn' : DecodedInstruction) : Prop where
  rawWord : insn'.rawWord = insn.rawWord
  instructionLength : insn'.instructionLength = insn.instructionLength

namespace DecodedInstruction.SameWord
variable {insn insn' : DecodedInstruction}

theorem refl (insn : DecodedInstruction) : SameWord insn insn := ⟨rfl, rfl⟩

theorem finish (h : SameWord insn insn') : SameWord insn insn'.finish := by
  unfold DecodedInstruction.finish
  split
  · exact h
  · exact ⟨h.rawWord, h.instructionLength⟩

theorem accept (h : SameWord insn insn') (choice : Option Mnemonic) : SameWord insn (insn'.accept choice) := by
  cases choice with
  | none => exact h
  | some m => exact ⟨h.rawWord, h.instructionLength⟩

theorem acceptOp (h : SameWord insn insn') (choice : Option Mnemonic) : SameWord insn (insn'.acceptOp choice) := by
  cases choice with
  | none => exact h
  | some m =>
      show SameWord insn ((if insn'.funct7 = kFunct7M then { insn' with extension := "RV64M" } else insn').legal m)
      split <;> exact ⟨h.rawWord, h.instructionLength⟩

variable (insn : DecodedInstruction)

theorem quadrant1 (rawHalfword : UInt32) (rd rs1Prime : UInt8) :
    SameWord insn (insn.decodeQuadrant1 rawHalfword rd rs1Prime) := by
  unfold decodeQuadrant1
  dsimp only
  repeat' split
  all_goals exact ⟨rfl, rfl⟩

theorem quadrant2 (rawHalfword : UInt32) (rd rs2 : UInt8) :
    SameWord insn (insn.decodeQuadrant2 rawHalfword rd rs2) := by
  unfold decodeQuadrant2
  dsimp only
  repeat' split
  all_goals exact ⟨rfl, rfl⟩

theorem quadrant0 (rawHalfword : UInt32) (rdPrime rs1Prime : UInt8) :
    SameWord insn (insn.decodeQuadrant0 rawHalfword rdPrime rs1Prime) := by
  unfold decodeQuadrant0
  dsimp only
  repeat' split
  all_goals exact ⟨rfl, rfl⟩

theorem atomic (isDoubleword : Bool) : SameWord insn (insn.decodeAtomic isDoubleword) := by
  unfold decodeAtomic
  dsimp only
  generalize (!(if isDoubleword = true then insn.funct3 == 0x3 else insn.funct3 == 0x2) || _) = refused
  cases refused with
  | true => exact ⟨rfl, rfl⟩
  | false =>
      refine SameWord.accept ?_ _
      exact ⟨rfl, rfl⟩

theorem system : SameWord insn insn.decodeSystem := by
  unfold decodeSystem
  dsimp only
  split
  · split <;> exact ⟨rfl, rfl⟩
  · exact ⟨rfl, rfl⟩
  · have hsame : SameWord insn { insn with
        format := .I, extension := "Zicsr", immediate := unsignedImmediate insn.rawWord 20 0xFFF } :=
      ⟨rfl, rfl⟩
    have haccept := hsame.accept (csrMnemonic insn.funct3 ((insn.rawWord >>> 15) &&& 0x1F))
    split
    · exact ⟨haccept.rawWord, haccept.instructionLength⟩
    · exact haccept

theorem opcode : SameWord insn insn.decodeOpcode := by
  unfold decodeOpcode
  split
  case h_4 | h_9 | h_11 | h_14 =>
    simp only [decodeJalr, decodeOpImm, decodeOpImm32, decodeFence]
    repeat' split
    all_goals exact ⟨rfl, rfl⟩
  case h_5 => exact system insn
  case h_6 | h_7 | h_8 =>
    refine SameWord.accept ?_ _
    exact ⟨rfl, rfl⟩
  case h_10 | h_12 =>
    refine SameWord.acceptOp ?_ _
    exact ⟨rfl, rfl⟩
  case h_13 =>
    repeat' split
    · exact atomic insn false
    · exact atomic insn true
    · exact refl insn
  all_goals exact ⟨rfl, rfl⟩

end DecodedInstruction.SameWord

/-- **`Decode` keeps the word.** -/
theorem decode_sameWord (rawWord : UInt32) : (fieldsOf rawWord).SameWord (decode rawWord) :=
  (DecodedInstruction.SameWord.opcode _).finish

/-- **`DecodeCompressed` keeps the halfword.** -/
theorem decodeCompressed_sameWord (halfword : UInt16) :
    (DecodedInstruction.SameWord { rawWord := halfword.toUInt32, instructionLength := 2 }
      (decodeCompressed halfword)) := by
  unfold decodeCompressed
  dsimp only
  refine DecodedInstruction.SameWord.finish ?_
  split
  · exact ⟨(DecodedInstruction.SameWord.quadrant1 _ _ _ _).rawWord,
      (DecodedInstruction.SameWord.quadrant1 _ _ _ _).instructionLength⟩
  · split
    · exact ⟨(DecodedInstruction.SameWord.quadrant2 _ _ _ _).rawWord,
        (DecodedInstruction.SameWord.quadrant2 _ _ _ _).instructionLength⟩
    · split
      · exact ⟨(DecodedInstruction.SameWord.quadrant0 _ _ _ _).rawWord,
          (DecodedInstruction.SameWord.quadrant0 _ _ _ _).instructionLength⟩
      · exact ⟨rfl, rfl⟩

end GuideXOS.RiscV
