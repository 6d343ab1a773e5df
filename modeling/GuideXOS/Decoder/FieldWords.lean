import GuideXOS.Decoder.DecodeSlot

/-!
# `FieldWords` — shifts, extracts and deposits

The words of the I unit that shift by a register and that move fields of bits, with what they compute. Some fields are
stored as a complement or less one: `FieldOp` has positions, lengths and counts as they are.
-/

namespace GuideXOS.Decoder
open Lib.Words

/-! ## Operations -/

/-- An operation on fields of bits, with the registers it reads. -/
inductive FieldOp
  | shl (source count : Fin 128)
  | shrU (source count : Fin 128)
  | shr (source count : Fin 128)
  | extrU (source : Fin 128) (pos len : Nat)
  | extr (source : Fin 128) (pos len : Nat)
  | dep (source base : Fin 128) (pos len : Nat)
  | depImm (ones : Bool) (base : Fin 128) (pos len : Nat)
  | depZ (source : Fin 128) (pos len : Nat)
  | depZImm (imm8 : BitVec 8) (pos len : Nat)
  | shrp (high low : Fin 128) (count : Nat)
  deriving DecidableEq

/-- **What an operation computes.** -/
def FieldOp.value (gr : Fin 128 → UInt64) : FieldOp → BitVec 64
  | .shl source count => (gr source).toBitVec <<< (gr count).toNat
  | .shrU source count => (gr source).toBitVec >>> (gr count).toNat
  | .shr source count => (gr source).toBitVec.sshiftRight (gr count).toNat
  | .extrU source pos len => unsignedSlice (gr source).toBitVec pos len
  | .extr source pos len => signedSlice (gr source).toBitVec pos len
  | .dep source base pos len => deposited (gr base).toBitVec (gr source).toBitVec pos len
  | .depImm ones base pos len => deposited (gr base).toBitVec (if ones then BitVec.allOnes 64 else 0) pos len
  | .depZ source pos len => deposited 0 (gr source).toBitVec pos len
  | .depZImm imm8 pos len => deposited 0 (imm8.signExtend 64) pos len
  | .shrp high low count => (((gr high).toBitVec ++ (gr low).toBitVec) >>> count).setWidth 64

/-! ## Words -/

namespace IWord
variable (raw : UInt64)

def qp : BitVec 6 := raw.toBitVec.extractLsb' 0 6
def r1 : BitVec 7 := raw.toBitVec.extractLsb' 6 7
def r2 : BitVec 7 := raw.toBitVec.extractLsb' 13 7
def r3 : BitVec 7 := raw.toBitVec.extractLsb' 20 7
def major : BitVec 4 := raw.toBitVec.extractLsb' 37 4
def za : BitVec 1 := raw.toBitVec.extractLsb' 36 1
def zb : BitVec 1 := raw.toBitVec.extractLsb' 33 1
def ve : BitVec 1 := raw.toBitVec.extractLsb' 32 1
def x2a : BitVec 2 := raw.toBitVec.extractLsb' 34 2
def x2b : BitVec 2 := raw.toBitVec.extractLsb' 28 2
def x2c : BitVec 2 := raw.toBitVec.extractLsb' 30 2
def x2 : BitVec 2 := raw.toBitVec.extractLsb' 34 2
def x : BitVec 1 := raw.toBitVec.extractLsb' 33 1
def y13 : BitVec 1 := raw.toBitVec.extractLsb' 13 1
def y26 : BitVec 1 := raw.toBitVec.extractLsb' 26 1
def s : BitVec 1 := raw.toBitVec.extractLsb' 36 1
def imm7b : BitVec 7 := raw.toBitVec.extractLsb' 13 7
def len4d : BitVec 4 := raw.toBitVec.extractLsb' 27 4
def len6d : BitVec 6 := raw.toBitVec.extractLsb' 27 6
def count6d : BitVec 6 := raw.toBitVec.extractLsb' 27 6
def pos6b : BitVec 6 := raw.toBitVec.extractLsb' 14 6
def cpos6b : BitVec 6 := raw.toBitVec.extractLsb' 14 6
def cpos6c : BitVec 6 := raw.toBitVec.extractLsb' 20 6
def cpos6d : BitVec 6 := raw.toBitVec.extractLsb' 31 6

end IWord

section Architecture
open IWord

/-- Major opcode 5: extracts, deposits and the shift of a pair. -/
def architectedMajor5 (raw : UInt64) : Option FieldOp :=
  let len := (len6d raw).toNat + 1
  if x2 raw = 1 ∧ x raw = 0 then
    let pos := (pos6b raw).toNat
    some (if y13 raw = 0 then .extrU (r3 raw).toFin pos len else .extr (r3 raw).toFin pos len)
  else if x2 raw = 1 ∧ x raw = 1 then
    let pos := 63 - (cpos6c raw).toNat
    some (if y26 raw = 0 then .depZ (r2 raw).toFin pos len else .depZImm (s raw ++ imm7b raw) pos len)
  else if x2 raw = 3 ∧ x raw = 0 then some (.shrp (r2 raw).toFin (r3 raw).toFin (count6d raw).toNat)
  else if x2 raw = 3 ∧ x raw = 1 then
    some (.depImm (s raw == 1) (r3 raw).toFin (63 - (cpos6b raw).toNat) len)
  else none

/-- Major opcode 7: the shifts by a register. -/
def architectedMajor7 (raw : UInt64) : Option FieldOp :=
  if za raw = 1 ∧ zb raw = 1 ∧ ve raw = 0 ∧ x2a raw = 0 then
    if x2b raw = 0 ∧ x2c raw = 1 then some (.shl (r2 raw).toFin (r3 raw).toFin)
    else if x2b raw = 0 ∧ x2c raw = 0 then some (.shrU (r3 raw).toFin (r2 raw).toFin)
    else if x2b raw = 2 ∧ x2c raw = 0 then some (.shr (r3 raw).toFin (r2 raw).toFin)
    else none
  else none

/-- **The operation that a word encodes.** -/
def architectedFieldOp (raw : UInt64) : Option FieldOp :=
  if major raw = 4 then
    some (.dep (r2 raw).toFin (r3 raw).toFin (63 - (cpos6d raw).toNat) ((len4d raw).toNat + 1))
  else if major raw = 5 then architectedMajor5 raw
  else if major raw = 7 then architectedMajor7 raw
  else none

end Architecture

/-! ## The decoder -/

namespace ITypeDecoder
open IWord

/-- The fields that every format has. -/
def start (raw : UInt64) : IFormat :=
  { qp := qualifyingPredicate raw
    r1 := field raw 6 7
    r2 := field raw 13 7
    r3 := field raw 20 7
    opcode := (majorOpcode raw <<< 4) ||| (field raw 27 6 &&& 0xF) }

section Fields
variable {raw : UInt64} (ip : UInt64) {instr : InstructionEx} {fmt : IFormat}

theorem majorOpcode_eq_iff (v : BitVec 4) : majorOpcode raw = UInt8.ofNat v.toNat ↔ major raw = v :=
  field_eq_iff raw (by simp) (by simp) v

/-- A slot of one of the three major opcodes goes to the decoder of the format. -/
theorem decodeSlot_of_major (hmajor : majorOpcode raw = 4 ∨ majorOpcode raw = 5 ∨ majorOpcode raw = 7)
    (hfmt : decode raw = some fmt) (hinstr : toInstruction fmt = some instr) :
    decodeSlot raw .I_UNIT ip = instr.setRawBits raw := by
  have hne : (majorOpcode raw ≠ 0 ∧ majorOpcode raw ≠ 1 ∧ majorOpcode raw ≠ 2) ∧ majorOpcode raw ≤ 7 := by
    obtain h | h | h := hmajor <;> rw [h] <;> decide
  have hI : DecodeSlot.decodeI raw = toInstruction fmt := by
    rw [DecodeSlot.decodeI_of_major hne.1, if_pos hne.2, hfmt]
    rfl
  unfold decodeSlot DecodeSlot.decodeUnit
  dsimp only
  rw [hI, hinstr]
  rfl

theorem decode_major4 (h : majorOpcode raw = 4) :
    decode raw = some { start raw with opcode := 0x50, pos := 0x3F - field raw 31 6, len := field raw 27 4 } := by
  unfold decode start
  simp only [h]
  rfl

theorem decode_major5 (h : majorOpcode raw = 5) : decode raw = some (decodeMajor5 raw (start raw)) := by
  unfold decode start
  simp only [h]
  rfl

theorem decode_major7 (h : majorOpcode raw = 7) :
    decode raw = some (decodeShift raw (field raw 28 2) (field raw 27 6) (start raw)) := by
  unfold decode start
  simp only [h]
  rfl

/-! The tags that the words of this module get. -/

section Tags
variable {fmt : IFormat}

theorem toInstruction_dep (h : fmt.opcode = 0x50 ∨ fmt.opcode = 0x5F) : toInstruction fmt = some (deposit fmt) := by
  unfold toInstruction depositInstruction
  obtain h | h := h <;> rw [h] <;> rfl

theorem toInstruction_extr (h : fmt.opcode = 0x51) :
    toInstruction fmt = some (((instruction fmt .EXTR).setOperands fmt.r1 fmt.r3 0).setImmediate (posLen fmt)) := by
  unfold toInstruction depositInstruction
  rw [h]
  rfl

theorem toInstruction_shrp (h : fmt.opcode = 0x56) : toInstruction fmt =
    some (((instruction fmt .SHRP).setOperands fmt.r1 fmt.r2 fmt.r3).setImmediate fmt.count.toUInt64) := by
  unfold toInstruction depositInstruction
  rw [h]
  rfl

theorem toInstruction_depZ (h : fmt.opcode = 0x5E) :
    toInstruction fmt = some (((instruction fmt .DEP_Z).setOperands fmt.r1 fmt.r2 0).setImmediate (posLen fmt)) := by
  unfold toInstruction depositInstruction
  rw [h]
  rfl

theorem toInstruction_shl (h : fmt.opcode = 0x70) :
    toInstruction fmt = some (shift fmt (instruction fmt .SHL) fmt.r2 fmt.r3) := by
  unfold toInstruction shiftInstruction
  rw [h]
  rfl

theorem toInstruction_shr (h : fmt.opcode = 0x71) :
    toInstruction fmt = some (shift fmt (instruction fmt .SHR) fmt.r3 fmt.r2) := by
  unfold toInstruction shiftInstruction
  rw [h]
  rfl

end Tags

/-- An instruction of the unit, with the predicate and the destination of the word. -/
def instructionOf (raw : UInt64) (type : InstructionType) (src1 src2 : UInt8) : InstructionEx :=
  { type := type
    rawBits := raw
    predicate := field raw 0 6
    dst := field raw 6 7
    src1 := src1
    src2 := src2 }

theorem decodeSlot_dep (h : major raw = 4) : decodeSlot raw .I_UNIT ip =
    (instructionOf raw .DEP (field raw 13 7) (field raw 20 7)).setImmediate
      (posLen { pos := 0x3F - field raw 31 6, len := field raw 27 4 }) := by
  have hmajor : majorOpcode raw = 4 := (majorOpcode_eq_iff 4).mpr h
  exact decodeSlot_of_major ip (.inl hmajor) (decode_major4 hmajor) (toInstruction_dep (.inl rfl))

theorem decodeSlot_major5 (h : major raw = 5) (hfmt : decodeMajor5 raw (start raw) = fmt)
    (hinstr : toInstruction fmt = some instr) : decodeSlot raw .I_UNIT ip = instr.setRawBits raw := by
  have hmajor : majorOpcode raw = 5 := (majorOpcode_eq_iff 5).mpr h
  exact decodeSlot_of_major ip (.inr (.inl hmajor)) (by rw [decode_major5 hmajor, hfmt]) hinstr

/-- Past the tests, what is no deposit of zeros goes to deposit and extract. -/
theorem decodeMajor5_eq (hx2 : x2 raw ≠ 0) (hz : ¬ (x2 raw = 1 ∧ x raw = 1 ∧ y26 raw = 0)) :
    decodeMajor5 raw (start raw) = decodeDepositExtract raw (field raw 33 1) (field raw 34 2) (start raw) := by
  have hfx2 : field raw 34 2 ≠ 0 := mt (field_eq_iff raw (by simp) (by simp) 0).mp hx2
  have hfz : ¬ (field raw 33 1 = 1 ∧ field raw 34 2 = 1 ∧ field raw 26 1 = 0) := by
    rintro ⟨h33, h34, h26⟩
    exact hz ⟨(field_eq_iff raw (by simp) (by simp) 1).mp h34, (field_eq_iff raw (by simp) (by simp) 1).mp h33,
      (field_eq_iff raw (by simp) (by simp) 0).mp h26⟩
  unfold decodeMajor5 decodeTest
  dsimp only
  rw [if_neg fun h => hfz ⟨h.1, h.2.1, h.2.2.1⟩, if_neg fun h => hfz ⟨h.1, h.2.1, h.2.2.1⟩, if_pos hfx2]
  rfl

/-- The extracts, signed or not, and with them the deposit of an immediate into zeros. -/
theorem decodeSlot_extr (h : major raw = 5) (hx2 : x2 raw = 1) (hz : ¬ (x raw = 1 ∧ y26 raw = 0)) :
    decodeSlot raw .I_UNIT ip = (instructionOf raw .EXTR (field raw 20 7) 0).setImmediate
      (posLen { pos := field raw 14 6, len := field raw 27 6 }) := by
  have hfx2 : field raw 34 2 = 1 := (field_eq_iff raw (by simp) (by simp) 1).mpr hx2
  have hfmt : decodeMajor5 raw (start raw) =
      { start raw with pos := field raw 14 6, len := field raw 27 6, opcode := 0x51 } := by
    rw [decodeMajor5_eq (by rw [hx2]; decide) fun h => hz h.2, hfx2]
    rfl
  exact decodeSlot_major5 ip h hfmt (toInstruction_extr rfl)

theorem decodeSlot_shrp (h : major raw = 5) (hx2 : x2 raw = 3) (hx : x raw = 0) :
    decodeSlot raw .I_UNIT ip = (instructionOf raw .SHRP (field raw 13 7) (field raw 20 7)).setImmediate
      (field raw 27 6).toUInt64 := by
  have hfx2 : field raw 34 2 = 3 := (field_eq_iff raw (by simp) (by simp) 3).mpr hx2
  have hfx : field raw 33 1 = 0 := (field_eq_iff raw (by simp) (by simp) 0).mpr hx
  have hfmt : decodeMajor5 raw (start raw) = { start raw with count := field raw 27 6, opcode := 0x56 } := by
    rw [decodeMajor5_eq (by rw [hx2]; decide) fun h => absurd (hx2.symm.trans h.1) (by decide), hfx2, hfx]
    rfl
  exact decodeSlot_major5 ip h hfmt (toInstruction_shrp rfl)

theorem decodeSlot_depImm (h : major raw = 5) (hx2 : x2 raw = 3) (hx : x raw = 1) :
    decodeSlot raw .I_UNIT ip = (instructionOf raw .DEP 0 (field raw 20 7)).setImmediate
      (posLen { pos := 0x3F - field raw 14 6, len := field raw 27 6 } ||| ((1 : UInt64) <<< 12) |||
        ((extractBits raw 36 1 &&& 0x1) <<< 13)) := by
  have hfx2 : field raw 34 2 = 3 := (field_eq_iff raw (by simp) (by simp) 3).mpr hx2
  have hfx : field raw 33 1 = 1 := (field_eq_iff raw (by simp) (by simp) 1).mpr hx
  have hfmt : decodeMajor5 raw (start raw) = { start raw with
      pos := 0x3F - field raw 14 6, len := field raw 27 6, hasImm := true, imm := extractBits raw 36 1,
      opcode := 0x5F } := by
    rw [decodeMajor5_eq (by rw [hx2]; decide) fun h => absurd (hx2.symm.trans h.1) (by decide), hfx2, hfx]
    rfl
  exact decodeSlot_major5 ip h hfmt (toInstruction_dep (.inr rfl))

theorem decodeSlot_major7 (h : major raw = 7)
    (hfmt : decodeShift raw (field raw 28 2) (field raw 27 6) (start raw) = fmt)
    (hinstr : toInstruction fmt = some instr) : decodeSlot raw .I_UNIT ip = instr.setRawBits raw := by
  have hmajor : majorOpcode raw = 7 := (majorOpcode_eq_iff 7).mpr h
  exact decodeSlot_of_major ip (.inr (.inr hmajor)) (by rw [decode_major7 hmajor, hfmt]) hinstr

/-- The extension of the shift by a constant has `x2c` too. -/
theorem x2c_of_x6 (h : field raw 27 6 = 0x14) : x2c raw = 2 := by
  have hx6 : raw.toBitVec.extractLsb' 27 6 = 0x14 := (field_eq_iff raw (by simp) (by simp) 0x14).mp h
  have hslice : x2c raw = (raw.toBitVec.extractLsb' 27 6).extractLsb' 3 2 := by
    refine BitVec.eq_of_getLsbD_eq fun i hi => ?_
    have hin : 3 + i < 6 := by omega
    simp only [x2c, BitVec.getLsbD_extractLsb', hi, hin, decide_true, Bool.true_and, ← Nat.add_assoc]
  rw [hslice, hx6]
  rfl

/-- The shifts by a register. -/
theorem decodeShift_eq (hform : za raw = 1 ∧ zb raw = 1 ∧ ve raw = 0 ∧ x2a raw = 0) (hx2c : x2c raw ≠ 2) :
    decodeShift raw (field raw 28 2) (field raw 27 6) (start raw) =
      if x2b raw = 0 ∧ x2c raw = 1 then { start raw with opcode := 0x70, hasImm := false }
      else if (x2b raw = 0 ∨ x2b raw = 2) ∧ x2c raw = 0 then { start raw with opcode := 0x71, hasImm := false }
      else if field raw 28 2 = 0x3 then { start raw with hasImm := true, count := field raw 20 6 }
      else start raw := by
  have h36 : field raw 36 1 = 1 := (field_eq_iff raw (by simp) (by simp) 1).mpr hform.1
  have h33 : field raw 33 1 = 1 := (field_eq_iff raw (by simp) (by simp) 1).mpr hform.2.1
  have h32 : field raw 32 1 = 0 := (field_eq_iff raw (by simp) (by simp) 0).mpr hform.2.2.1
  have h34 : field raw 34 2 = 0 := (field_eq_iff raw (by simp) (by simp) 0).mpr hform.2.2.2
  have hother : ∀ {zb' ve' x2a' x2b' x2c'}, ¬ ShiftForm raw 0 zb' ve' x2a' x2b' x2c' := fun hf =>
    absurd (h36.symm.trans hf.1) (by decide)
  -- the two extensions that are left decide
  have hform' : ∀ b c : BitVec 2, ShiftForm raw 1 1 0 0 (UInt8.ofNat b.toNat) (UInt8.ofNat c.toNat) ↔
      x2b raw = b ∧ x2c raw = c := by
    intro b c
    have h28 : field raw 28 2 = UInt8.ofNat b.toNat ↔ x2b raw = b := field_eq_iff raw (by simp) (by simp) b
    have h30 : field raw 30 2 = UInt8.ofNat c.toNat ↔ x2c raw = c := field_eq_iff raw (by simp) (by simp) c
    simp only [ShiftForm, h36, h33, h32, h34, h28, h30, true_and]
  have hshl : ShiftForm raw 1 1 0 0 0 1 ↔ x2b raw = 0 ∧ x2c raw = 1 := hform' 0 1
  have hshr : ShiftForm raw 1 1 0 0 0 0 ∨ ShiftForm raw 1 1 0 0 2 0 ↔
      (x2b raw = 0 ∨ x2b raw = 2) ∧ x2c raw = 0 := by
    rw [or_and_right]
    exact or_congr (hform' 0 0) (hform' 2 0)
  unfold decodeShift
  rw [if_neg hother, if_neg (mt x2c_of_x6 hx2c), if_neg hother]
  simp only [hshl, hshr]

/-- Shifts to the left. -/
theorem decodeSlot_shl (h : major raw = 7) (hform : za raw = 1 ∧ zb raw = 1 ∧ ve raw = 0 ∧ x2a raw = 0)
    (hx : x2b raw = 0 ∧ x2c raw = 1) :
    decodeSlot raw .I_UNIT ip = instructionOf raw .SHL (field raw 13 7) (field raw 20 7) := by
  have hfmt := decodeShift_eq hform (by rw [hx.2]; decide)
  rw [if_pos hx] at hfmt
  exact decodeSlot_major7 ip h hfmt (toInstruction_shl rfl)

/-- Shifts to the right: one operation for both. -/
theorem decodeSlot_shr (h : major raw = 7) (hform : za raw = 1 ∧ zb raw = 1 ∧ ve raw = 0 ∧ x2a raw = 0)
    (hx : (x2b raw = 0 ∨ x2b raw = 2) ∧ x2c raw = 0) :
    decodeSlot raw .I_UNIT ip = instructionOf raw .SHR (field raw 20 7) (field raw 13 7) := by
  have hfmt := decodeShift_eq hform (by rw [hx.2]; decide)
  rw [if_neg fun hl => absurd (hx.2.symm.trans hl.2) (by decide), if_pos hx] at hfmt
  exact decodeSlot_major7 ip h hfmt (toInstruction_shr rfl)

/-- A deposit into zeros whose slice ends with the word is decoded as a shift. -/
theorem decodeSlot_depZ (h : major raw = 5) (hx2 : x2 raw = 1) (hx : x raw = 1) (hy : y26 raw = 0) :
    decodeSlot raw .I_UNIT ip = if len6d raw = cpos6c raw then
      (instructionOf raw .SHL (field raw 13 7) 0).setImmediate (0x3F - field raw 20 6).toUInt64
    else (instructionOf raw .DEP_Z (field raw 13 7) 0).setImmediate
      (posLen { pos := 0x3F - field raw 20 6, len := field raw 27 6 }) := by
  have hfx2 : field raw 34 2 = 1 := (field_eq_iff raw (by simp) (by simp) 1).mpr hx2
  have hfx : field raw 33 1 = 1 := (field_eq_iff raw (by simp) (by simp) 1).mpr hx
  have hfy : field raw 26 1 = 0 := (field_eq_iff raw (by simp) (by simp) 0).mpr hy
  have halias : field raw 27 6 = field raw 20 6 ↔ len6d raw = cpos6c raw := by
    rw [field_eq raw (by decide : 20 < 64) (by decide)]
    exact field_eq_iff raw (by simp) (by simp) (cpos6c raw)
  split
  · next hsame =>
    have hfmt : decodeMajor5 raw (start raw) =
        { start raw with opcode := 0x70, hasImm := true, count := 0x3F - field raw 20 6 } := by
      unfold decodeMajor5
      dsimp only
      rw [if_pos ⟨hfx, hfx2, hfy, halias.mpr hsame⟩]
    exact decodeSlot_major5 ip h hfmt (toInstruction_shl rfl)
  · next hne =>
    have hfmt : decodeMajor5 raw (start raw) =
        { start raw with opcode := 0x5E, pos := 0x3F - field raw 20 6, len := field raw 27 6 } := by
      unfold decodeMajor5
      dsimp only
      rw [if_neg fun h => hne (halias.mp h.2.2.2), if_pos ⟨hfx, hfx2, hfy, mt halias.mp hne⟩]
    exact decodeSlot_major5 ip h hfmt (toInstruction_depZ rfl)

end Fields

end ITypeDecoder

end GuideXOS.Decoder
