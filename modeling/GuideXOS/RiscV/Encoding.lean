import GuideXOS.Lib.BitFields
import GuideXOS.RiscV.Decoder
import Mathlib.Data.List.Basic
import Mathlib.Tactic.IntervalCases

/-!
# `Encoding` — which words are instructions

The encodings of RV64I with M, A, Zicsr and Zifencei, and of the operations of the privileged machine that need no
operands: for each major opcode the minor ones, with the immediate that is read. It is compared with `Decode`, which
differs from it in the system instructions: setting or clearing no bits of a CSR is a way to read it and legal, and an
operation without operands has zeros in its register fields.
-/

namespace GuideXOS.RiscV
open Lib.Words

/-! ## Words -/

abbrev Word := BitVec 32

namespace Word
variable (w : Word)

def opcode : BitVec 7 := w.extractLsb' 0 7
def rd : BitVec 5 := w.extractLsb' 7 5
def funct3 : BitVec 3 := w.extractLsb' 12 3
def rs1 : BitVec 5 := w.extractLsb' 15 5
def rs2 : BitVec 5 := w.extractLsb' 20 5
def funct7 : BitVec 7 := w.extractLsb' 25 7
def funct6 : BitVec 6 := w.extractLsb' 26 6
def funct5 : BitVec 5 := w.extractLsb' 27 5
def funct12 : BitVec 12 := w.extractLsb' 20 12

end Word

/-- The immediates of the formats. -/
inductive Immediate
  | none | i | s | b | u | j | shamt6 | shamt5 | funct12
  deriving DecidableEq

/-- The immediate of a word: the pieces in the order of their significance, with the sign. -/
def Immediate.value (w : Word) : Immediate → ℤ
  | .none => 0
  | .i => (w.extractLsb' 20 12).toInt
  | .s => (w.extractLsb' 25 7 ++ w.extractLsb' 7 5).toInt
  | .b => (w.extractLsb' 31 1 ++ w.extractLsb' 7 1 ++ w.extractLsb' 25 6 ++ w.extractLsb' 8 4 ++ 0#1).toInt
  | .u => (w.extractLsb' 12 20 ++ 0#12).toInt
  | .j => (w.extractLsb' 31 1 ++ w.extractLsb' 12 8 ++ w.extractLsb' 20 1 ++ w.extractLsb' 21 10 ++ 0#1).toInt
  | .shamt6 => (w.extractLsb' 20 6).toNat
  | .shamt5 => (w.extractLsb' 20 5).toNat
  | .funct12 => w.funct12.toNat

/-! ## Encodings -/

/-- The minor opcodes of an instruction. -/
inductive Pattern
  | any
  | funct3 (f3 : BitVec 3)
  | funct7 (f3 : BitVec 3) (f7 : BitVec 7)
  | shift (f3 : BitVec 3) (f6 : BitVec 6)
  | atomic (f3 : BitVec 3) (f5 : BitVec 5)
  | loadReserved (f3 : BitVec 3)
  | environment (f12 : BitVec 12)
  deriving DecidableEq

def Pattern.Matches (w : Word) : Pattern → Prop
  | .any => True
  | .funct3 f3 => w.funct3 = f3
  | .funct7 f3 f7 => w.funct3 = f3 ∧ w.funct7 = f7
  | .shift f3 f6 => w.funct3 = f3 ∧ w.funct6 = f6
  | .atomic f3 f5 => w.funct3 = f3 ∧ w.funct5 = f5
  | .loadReserved f3 => w.funct3 = f3 ∧ w.funct5 = 0b00010#5 ∧ w.rs2 = 0
  | .environment f12 => w.funct3 = 0 ∧ w.funct12 = f12 ∧ w.rd = 0 ∧ w.rs1 = 0

structure Encoding where
  mnemonic : Mnemonic
  pattern : Pattern
  immediate : Immediate
  deriving DecidableEq

/-- The atomic memory operations of one width. -/
def atomics (f3 : BitVec 3) (lr sc swap add xor and or min max minu maxu : Mnemonic) : List Encoding :=
  [⟨lr, .loadReserved f3, .none⟩, ⟨sc, .atomic f3 0b00011#5, .none⟩, ⟨swap, .atomic f3 0b00001#5, .none⟩,
    ⟨add, .atomic f3 0b00000#5, .none⟩, ⟨xor, .atomic f3 0b00100#5, .none⟩, ⟨and, .atomic f3 0b01100#5, .none⟩,
    ⟨or, .atomic f3 0b01000#5, .none⟩, ⟨min, .atomic f3 0b10000#5, .none⟩, ⟨max, .atomic f3 0b10100#5, .none⟩,
    ⟨minu, .atomic f3 0b11000#5, .none⟩, ⟨maxu, .atomic f3 0b11100#5, .none⟩]

/-- The instructions of a major opcode. -/
def encodings (opcode : BitVec 7) : List Encoding :=
  if opcode = 0b0110111#7 then [⟨.LUI, .any, .u⟩]
  else if opcode = 0b0010111#7 then [⟨.AUIPC, .any, .u⟩]
  else if opcode = 0b1101111#7 then [⟨.JAL, .any, .j⟩]
  else if opcode = 0b1100111#7 then [⟨.JALR, .funct3 0b000#3, .i⟩]
  else if opcode = 0b1100011#7 then
    [⟨.BEQ, .funct3 0b000#3, .b⟩, ⟨.BNE, .funct3 0b001#3, .b⟩, ⟨.BLT, .funct3 0b100#3, .b⟩,
      ⟨.BGE, .funct3 0b101#3, .b⟩, ⟨.BLTU, .funct3 0b110#3, .b⟩, ⟨.BGEU, .funct3 0b111#3, .b⟩]
  else if opcode = 0b0000011#7 then
    [⟨.LB, .funct3 0b000#3, .i⟩, ⟨.LH, .funct3 0b001#3, .i⟩, ⟨.LW, .funct3 0b010#3, .i⟩,
      ⟨.LD, .funct3 0b011#3, .i⟩, ⟨.LBU, .funct3 0b100#3, .i⟩, ⟨.LHU, .funct3 0b101#3, .i⟩,
      ⟨.LWU, .funct3 0b110#3, .i⟩]
  else if opcode = 0b0100011#7 then
    [⟨.SB, .funct3 0b000#3, .s⟩, ⟨.SH, .funct3 0b001#3, .s⟩, ⟨.SW, .funct3 0b010#3, .s⟩, ⟨.SD, .funct3 0b011#3, .s⟩]
  else if opcode = 0b0010011#7 then
    [⟨.ADDI, .funct3 0b000#3, .i⟩, ⟨.SLTI, .funct3 0b010#3, .i⟩, ⟨.SLTIU, .funct3 0b011#3, .i⟩,
      ⟨.XORI, .funct3 0b100#3, .i⟩, ⟨.ORI, .funct3 0b110#3, .i⟩, ⟨.ANDI, .funct3 0b111#3, .i⟩,
      ⟨.SLLI, .shift 0b001#3 0b000000#6, .shamt6⟩, ⟨.SRLI, .shift 0b101#3 0b000000#6, .shamt6⟩,
      ⟨.SRAI, .shift 0b101#3 0b010000#6, .shamt6⟩]
  else if opcode = 0b0110011#7 then
    [⟨.ADD, .funct7 0b000#3 0b0000000#7, .none⟩, ⟨.SUB, .funct7 0b000#3 0b0100000#7, .none⟩,
      ⟨.SLL, .funct7 0b001#3 0b0000000#7, .none⟩, ⟨.SLT, .funct7 0b010#3 0b0000000#7, .none⟩,
      ⟨.SLTU, .funct7 0b011#3 0b0000000#7, .none⟩, ⟨.XOR, .funct7 0b100#3 0b0000000#7, .none⟩,
      ⟨.SRL, .funct7 0b101#3 0b0000000#7, .none⟩, ⟨.SRA, .funct7 0b101#3 0b0100000#7, .none⟩,
      ⟨.OR, .funct7 0b110#3 0b0000000#7, .none⟩, ⟨.AND, .funct7 0b111#3 0b0000000#7, .none⟩,
      ⟨.MUL, .funct7 0b000#3 0b0000001#7, .none⟩, ⟨.MULH, .funct7 0b001#3 0b0000001#7, .none⟩,
      ⟨.MULHSU, .funct7 0b010#3 0b0000001#7, .none⟩, ⟨.MULHU, .funct7 0b011#3 0b0000001#7, .none⟩,
      ⟨.DIV, .funct7 0b100#3 0b0000001#7, .none⟩, ⟨.DIVU, .funct7 0b101#3 0b0000001#7, .none⟩,
      ⟨.REM, .funct7 0b110#3 0b0000001#7, .none⟩, ⟨.REMU, .funct7 0b111#3 0b0000001#7, .none⟩]
  else if opcode = 0b0011011#7 then
    [⟨.ADDIW, .funct3 0b000#3, .i⟩, ⟨.SLLIW, .funct7 0b001#3 0b0000000#7, .shamt5⟩,
      ⟨.SRLIW, .funct7 0b101#3 0b0000000#7, .shamt5⟩, ⟨.SRAIW, .funct7 0b101#3 0b0100000#7, .shamt5⟩]
  else if opcode = 0b0111011#7 then
    [⟨.ADDW, .funct7 0b000#3 0b0000000#7, .none⟩, ⟨.SUBW, .funct7 0b000#3 0b0100000#7, .none⟩,
      ⟨.SLLW, .funct7 0b001#3 0b0000000#7, .none⟩, ⟨.SRLW, .funct7 0b101#3 0b0000000#7, .none⟩,
      ⟨.SRAW, .funct7 0b101#3 0b0100000#7, .none⟩, ⟨.MULW, .funct7 0b000#3 0b0000001#7, .none⟩,
      ⟨.DIVW, .funct7 0b100#3 0b0000001#7, .none⟩, ⟨.DIVUW, .funct7 0b101#3 0b0000001#7, .none⟩,
      ⟨.REMW, .funct7 0b110#3 0b0000001#7, .none⟩, ⟨.REMUW, .funct7 0b111#3 0b0000001#7, .none⟩]
  else if opcode = 0b0101111#7 then
    atomics 0b010#3 .LR_W .SC_W .AMOSWAP_W .AMOADD_W .AMOXOR_W .AMOAND_W .AMOOR_W .AMOMIN_W .AMOMAX_W .AMOMINU_W
        .AMOMAXU_W ++
      atomics 0b011#3 .LR_D .SC_D .AMOSWAP_D .AMOADD_D .AMOXOR_D .AMOAND_D .AMOOR_D .AMOMIN_D .AMOMAX_D .AMOMINU_D
        .AMOMAXU_D
  else if opcode = 0b0001111#7 then [⟨.FENCE, .funct3 0b000#3, .funct12⟩, ⟨.FENCE_I, .funct3 0b001#3, .funct12⟩]
  else if opcode = 0b1110011#7 then
    [⟨.CSRRW, .funct3 0b001#3, .funct12⟩, ⟨.CSRRS, .funct3 0b010#3, .funct12⟩, ⟨.CSRRC, .funct3 0b011#3, .funct12⟩,
      ⟨.CSRRWI, .funct3 0b101#3, .funct12⟩, ⟨.CSRRSI, .funct3 0b110#3, .funct12⟩,
      ⟨.CSRRCI, .funct3 0b111#3, .funct12⟩, ⟨.ECALL, .environment 0b000000000000#12, .funct12⟩,
      ⟨.EBREAK, .environment 0b000000000001#12, .funct12⟩, ⟨.MRET, .environment 0b001100000010#12, .funct12⟩,
      ⟨.SRET, .environment 0b000100000010#12, .funct12⟩, ⟨.WFI, .environment 0b000100000101#12, .funct12⟩]
  else []

/-! ## The fields of the source -/

section Fields
variable (rawWord : UInt32)

/-- A field in a byte. -/
theorem field_toUInt8 {s m : UInt32} {k : ℕ} (hs : s.toNat < 32) (hm : m.toNat = 2 ^ k - 1) (hk : k ≤ 8) :
    ((rawWord >>> s) &&& m).toUInt8 = UInt8.ofNat (rawWord.toBitVec.extractLsb' s.toNat k).toNat := by
  rw [← UInt8.toNat_inj, UInt32.toNat_toUInt8, UInt32.toNat_and, UInt32.toNat_shiftRight, hm,
    Nat.and_two_pow_sub_one_eq_mod, Nat.mod_eq_of_lt hs, UInt8.toNat_ofNat', BitVec.extractLsb'_toNat]
  rfl

/-- A field in a word. -/
theorem field_eq {s m : UInt32} {k : ℕ} (hs : s.toNat < 32) (hm : m.toNat = 2 ^ k - 1) (hk : k ≤ 32) :
    (rawWord >>> s) &&& m = UInt32.ofNat (rawWord.toBitVec.extractLsb' s.toNat k).toNat := by
  have hlt : (rawWord.toNat >>> s.toNat) % 2 ^ k < 2 ^ 32 :=
    (Nat.mod_lt _ (Nat.two_pow_pos k)).trans_le (Nat.pow_le_pow_right (by decide) hk)
  rw [← UInt32.toNat_inj, UInt32.toNat_and, UInt32.toNat_shiftRight, hm, Nat.and_two_pow_sub_one_eq_mod,
    Nat.mod_eq_of_lt hs, UInt32.toNat_ofNat', BitVec.extractLsb'_toNat, UInt32.toNat_toBitVec, Nat.mod_eq_of_lt hlt]

theorem opcode_eq : (fieldsOf rawWord).opcode = UInt8.ofNat (Word.opcode rawWord.toBitVec).toNat := by
  have h := field_toUInt8 rawWord (s := 0) (m := 0x7F) (k := 7) (by decide) rfl (by decide)
  rwa [UInt32.shiftRight_zero] at h

theorem rd_eq : (fieldsOf rawWord).rd = UInt8.ofNat (Word.rd rawWord.toBitVec).toNat :=
  field_toUInt8 rawWord (s := 7) (m := 0x1F) (by decide) rfl (by decide)

theorem funct3_eq : (fieldsOf rawWord).funct3 = UInt8.ofNat (Word.funct3 rawWord.toBitVec).toNat :=
  field_toUInt8 rawWord (s := 12) (m := 0x7) (by decide) rfl (by decide)

theorem rs1_eq : (fieldsOf rawWord).rs1 = UInt8.ofNat (Word.rs1 rawWord.toBitVec).toNat :=
  field_toUInt8 rawWord (s := 15) (m := 0x1F) (by decide) rfl (by decide)

theorem rs2_eq : (fieldsOf rawWord).rs2 = UInt8.ofNat (Word.rs2 rawWord.toBitVec).toNat :=
  field_toUInt8 rawWord (s := 20) (m := 0x1F) (by decide) rfl (by decide)

theorem funct7_eq : (fieldsOf rawWord).funct7 = UInt8.ofNat (Word.funct7 rawWord.toBitVec).toNat :=
  field_toUInt8 rawWord (s := 25) (m := 0x7F) (by decide) rfl (by decide)

end Fields

/-! ## The immediates of the source -/

section Immediates

/-- **`SignExtend`** takes the low bits for a signed number. -/
theorem signExtend_toInt (value : UInt64) {bits : UInt64} {n : ℕ} (hbits : bits.toNat = n) (hpos : 0 < n) (hlt : n < 64) :
    (signExtend value bits).toInt = (value.toBitVec.setWidth n).toInt := by
  have hmask : ((1 : UInt64) <<< bits - 1).toNat = 2 ^ n - 1 := hbits ▸ lowMask_toNat (hbits ▸ hlt)
  have hone : ((1 : UInt64) <<< (bits - 1)).toNat = 2 ^ (n - 1) := by
    have hsub : (bits - 1).toNat = n - 1 := by
      rw [UInt64.toNat_sub_of_le _ _ (UInt64.le_iff_toNat_le.mpr (by rw [hbits]; exact hpos)), hbits]
      rfl
    rw [one_shiftLeft_toNat (by omega), hsub]
  have hne : bits ≠ 64 := fun heq => by
    rw [heq] at hbits
    exact absurd hbits (by show ¬ 64 = n; omega)
  have hext : (signExtend value bits).toBitVec = (value.toBitVec.setWidth n).signExtend 64 := by
    unfold signExtend
    dsimp only
    rw [if_neg hne]
    have hextended := signExtended_toBitVec value hpos hone hmask
    split at hextended <;> simp_all
  rw [← BitVec.toInt_signExtend_of_le (Nat.le_of_lt hlt), ← hext]
  rfl

/-- A piece of a word, put in another place. -/
theorem piece_getLsbD (rawWord : UInt32) {s m t : UInt32} {k : ℕ} (hs : s.toNat < 32) (ht : t.toNat < 32)
    (hm : m.toNat = 2 ^ k - 1) (i : ℕ) : (((rawWord >>> s) &&& m) <<< t).toBitVec.getLsbD i =
      (decide (t.toNat ≤ i ∧ i < t.toNat + k ∧ i < 32) && rawWord.toBitVec.getLsbD (s.toNat + (i - t.toNat))) := by
  show (((rawWord >>> s) &&& m) <<< t).toNat.testBit i = (_ && rawWord.toNat.testBit _)
  rw [UInt32.toNat_shiftLeft, Nat.mod_eq_of_lt ht, Nat.testBit_mod_two_pow, Nat.testBit_shiftLeft, UInt32.toNat_and,
    UInt32.toNat_shiftRight, Nat.mod_eq_of_lt hs, hm, Nat.testBit_and, Nat.testBit_shiftRight,
    Nat.testBit_two_pow_sub_one]
  by_cases hle : t.toNat ≤ i <;> by_cases hlt : i < 32 <;> by_cases hk : i < t.toNat + k <;>
    simp [hle, hlt, hk] <;> omega

variable (rawWord : UInt32)

theorem or_getLsbD (x y : UInt32) (i : ℕ) :
    (x ||| y).toBitVec.getLsbD i = (x.toBitVec.getLsbD i || y.toBitVec.getLsbD i) := by
  rw [UInt32.toBitVec_or, BitVec.getLsbD_or]

/-- The low bits of a word that is widened. -/
theorem setWidth_toUInt64 (x : UInt32) {n : ℕ} (hn : n ≤ 32) : x.toUInt64.toBitVec.setWidth n = x.toBitVec.setWidth n := by
  rw [UInt32.toBitVec_toUInt64, BitVec.setWidth_setWidth_of_le _ (by omega)]

theorem decodeBImmediate_toInt : (decodeBImmediate rawWord).toInt = Immediate.b.value rawWord.toBitVec := by
  unfold decodeBImmediate
  dsimp only
  rw [signExtend_toInt _ (n := 13) rfl (by decide) (by decide), setWidth_toUInt64 _ (by decide)]
  unfold Immediate.value
  congr 1
  refine BitVec.eq_of_getLsbD_eq fun i hi => ?_
  rw [BitVec.getLsbD_setWidth, or_getLsbD, or_getLsbD, or_getLsbD,
    piece_getLsbD rawWord (s := 31) (k := 1) (by decide) (by decide) rfl,
    piece_getLsbD rawWord (s := 25) (k := 6) (by decide) (by decide) rfl,
    piece_getLsbD rawWord (s := 8) (k := 4) (by decide) (by decide) rfl,
    piece_getLsbD rawWord (s := 7) (k := 1) (by decide) (by decide) rfl]
  simp only [BitVec.getLsbD_append, BitVec.getLsbD_extractLsb']
  interval_cases i <;> simp

theorem decodeJImmediate_toInt : (decodeJImmediate rawWord).toInt = Immediate.j.value rawWord.toBitVec := by
  unfold decodeJImmediate
  dsimp only
  rw [signExtend_toInt _ (n := 21) rfl (by decide) (by decide), setWidth_toUInt64 _ (by decide)]
  unfold Immediate.value
  congr 1
  refine BitVec.eq_of_getLsbD_eq fun i hi => ?_
  rw [BitVec.getLsbD_setWidth, or_getLsbD, or_getLsbD, or_getLsbD,
    piece_getLsbD rawWord (s := 31) (k := 1) (by decide) (by decide) rfl,
    piece_getLsbD rawWord (s := 21) (k := 10) (by decide) (by decide) rfl,
    piece_getLsbD rawWord (s := 20) (k := 1) (by decide) (by decide) rfl,
    piece_getLsbD rawWord (s := 12) (k := 8) (by decide) (by decide) rfl]
  simp only [BitVec.getLsbD_append, BitVec.getLsbD_extractLsb']
  interval_cases i <;> simp

theorem decodeSImmediate_toInt : (decodeSImmediate rawWord).toInt = Immediate.s.value rawWord.toBitVec := by
  have hlow : (rawWord >>> 7) &&& (0x1F : UInt32) = ((rawWord >>> 7) &&& (0x1F : UInt32)) <<< 0 :=
    UInt32.shiftLeft_zero.symm
  unfold decodeSImmediate
  dsimp only
  rw [signExtend_toInt _ (n := 12) rfl (by decide) (by decide), setWidth_toUInt64 _ (by decide), hlow]
  unfold Immediate.value
  congr 1
  refine BitVec.eq_of_getLsbD_eq fun i hi => ?_
  rw [BitVec.getLsbD_setWidth, or_getLsbD,
    piece_getLsbD rawWord (s := 25) (k := 7) (by decide) (by decide) rfl,
    piece_getLsbD rawWord (s := 7) (k := 5) (by decide) (by decide) rfl]
  simp only [BitVec.getLsbD_append, BitVec.getLsbD_extractLsb']
  interval_cases i <;> simp

theorem decodeIImmediate_toInt : (decodeIImmediate rawWord).toInt = Immediate.i.value rawWord.toBitVec := by
  have hfield := field_eq rawWord (s := 20) (m := 0xFFF) (k := 12) (by decide) rfl (by decide)
  unfold decodeIImmediate
  rw [signExtend_toInt _ (n := 12) rfl (by decide) (by decide), setWidth_toUInt64 _ (by decide), hfield]
  unfold Immediate.value
  congr 1
  rw [← BitVec.toNat_inj, BitVec.toNat_setWidth, UInt32.toNat_toBitVec, UInt32.toNat_ofNat']
  have hlt := (rawWord.toBitVec.extractLsb' (20 : UInt32).toNat 12).isLt
  rw [Nat.mod_eq_of_lt (hlt.trans (by decide)), Nat.mod_eq_of_lt hlt]
  rfl

theorem decodeUImmediate_toInt : (decodeUImmediate rawWord).toInt = Immediate.u.value rawWord.toBitVec := by
  unfold decodeUImmediate
  rw [signExtend_toInt _ (n := 32) rfl (by decide) (by decide), setWidth_toUInt64 _ (by decide)]
  unfold Immediate.value
  congr 1
  refine BitVec.eq_of_getLsbD_eq fun i hi => ?_
  rw [BitVec.getLsbD_setWidth, UInt32.toBitVec_and, BitVec.getLsbD_and]
  simp only [BitVec.getLsbD_append, BitVec.getLsbD_extractLsb']
  interval_cases i <;> simp

/-- A field that is not signed. -/
theorem unsignedImmediate_toInt {s m : UInt32} {k : ℕ} (hs : s.toNat < 32) (hm : m.toNat = 2 ^ k - 1) (hk : k ≤ 32) :
    (unsignedImmediate rawWord s m).toInt = (rawWord.toBitVec.extractLsb' s.toNat k).toNat := by
  have hlt := (rawWord.toBitVec.extractLsb' s.toNat k).isLt
  have hword : (rawWord.toBitVec.extractLsb' s.toNat k).toNat < 2 ^ 32 :=
    hlt.trans_le (Nat.pow_le_pow_right (by decide) hk)
  unfold unsignedImmediate
  rw [field_eq rawWord hs hm hk]
  show (BitVec.toInt _ : ℤ) = _
  rw [BitVec.toInt_eq_toNat_of_lt]
  · show (((UInt32.ofNat _).toUInt64.toNat : ℕ) : ℤ) = _
    rw [UInt32.toNat_toUInt64, UInt32.toNat_ofNat', Nat.mod_eq_of_lt hword]
  · show 2 * (UInt32.ofNat _).toUInt64.toNat < 2 ^ 64
    rw [UInt32.toNat_toUInt64, UInt32.toNat_ofNat', Nat.mod_eq_of_lt hword]
    omega

end Immediates

end GuideXOS.RiscV
