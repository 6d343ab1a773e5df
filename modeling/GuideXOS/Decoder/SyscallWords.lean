import GuideXOS.Decoder.Recognition

/-!
# `SyscallWords` — the words that call the system

`isSyscallInstruction` looks at a word by itself, `decodeSlot` at a word and its unit. The first takes its mask for the
major opcode from other bits and so tests nothing but bits 6 to 26; the second finds the immediate of a `break` in the
X unit only. `syscallWords_agree_iff` says for which words the two agree.
-/

namespace GuideXOS.Decoder

namespace SyscallDispatcher

def SYSCALL_BREAK_IMMEDIATE : UInt64 := 0x100000

/-- Meant for bits 37 to 40. -/
def BREAK_OPCODE_MASK : UInt64 := 0x1E00000000

/-- **`IsSyscallInstruction`.** -/
def isSyscallInstruction (rawInstruction : UInt64) : Bool :=
  let majorOpcode := (rawInstruction &&& BREAK_OPCODE_MASK) >>> 37
  if majorOpcode ≠ 0 then false
  else
    let immediate := (rawInstruction >>> 6) &&& 0x1FFFFF
    immediate == SYSCALL_BREAK_IMMEDIATE

end SyscallDispatcher

/-! ## The formats of `break` and `nop` -/

namespace BreakWord
variable (raw : UInt64)

def major : BitVec 4 := raw.toBitVec.extractLsb' 37 4
def i : BitVec 1 := raw.toBitVec.extractLsb' 36 1
def x3 : BitVec 3 := raw.toBitVec.extractLsb' 33 3
def x : BitVec 1 := raw.toBitVec.extractLsb' 33 1
def x6 : BitVec 6 := raw.toBitVec.extractLsb' 27 6
def y : BitVec 1 := raw.toBitVec.extractLsb' 26 1
def imm20a : BitVec 20 := raw.toBitVec.extractLsb' 6 20

/-- The immediate that the slot of a `break` holds. -/
def imm21 : BitVec 21 := i raw ++ imm20a raw

end BreakWord

section Formats
open BreakWord

/-- A word is `break.m`, `break.i`, `break.b` or `break.x`. -/
def IsBreak (unit : UnitType) (raw : UInt64) : Prop :=
  match unit with
  | .M_UNIT | .I_UNIT | .X_UNIT => major raw = 0 ∧ x3 raw = 0 ∧ x6 raw = 0
  | .B_UNIT => major raw = 0 ∧ x6 raw = 0
  | _ => False

/-- A word is `nop.m`, `nop.i`, `nop.b`, `nop.f` or `nop.x`. -/
def IsNop (unit : UnitType) (raw : UInt64) : Prop :=
  match unit with
  | .M_UNIT | .I_UNIT | .X_UNIT => major raw = 0 ∧ x3 raw = 0 ∧ x6 raw = 1 ∧ y raw = 0
  | .F_UNIT => major raw = 0 ∧ x raw = 0 ∧ x6 raw = 1 ∧ y raw = 0
  | .B_UNIT => major raw = 2 ∧ x6 raw = 0
  | _ => False

end Formats

/-! ## What each side looks at -/

section Bits
open BreakWord SyscallDispatcher
variable {raw : UInt64}

/-- Two fields make up the immediate if and only if the upper is one and the lower zero. -/
theorem append_eq_syscall {hi : BitVec 1} {lo : BitVec 20} :
    (hi ++ lo).toNat = SYSCALL_BREAK_IMMEDIATE.toNat ↔ hi = 1 ∧ lo = 0 := by
  have hhi := hi.isLt
  have hlo := lo.isLt
  rw [BitVec.toNat_append, Nat.shiftLeft_eq, ← BitVec.toNat_inj, ← BitVec.toNat_inj]
  have hor : hi.toNat * 2 ^ 20 ||| lo.toNat = hi.toNat * 2 ^ 20 + lo.toNat := by
    rw [← Nat.shiftLeft_eq, ← Nat.shiftLeft_add_eq_or_of_lt hlo]
  have himm : SYSCALL_BREAK_IMMEDIATE.toNat = 2 ^ 20 := rfl
  have hone : (1 : BitVec 1).toNat = 1 := rfl
  have hzero : (0 : BitVec 20).toNat = 0 := rfl
  rw [hor, himm, hone, hzero]
  omega

/-- The mask has no bit of the major opcode. -/
theorem masked_opcode (raw : UInt64) : (raw &&& BREAK_OPCODE_MASK) >>> 37 = 0 := by
  rw [← UInt64.toNat_inj, UInt64.toNat_shiftRight, UInt64.toNat_and]
  show (raw.toNat &&& 0x1E00000000) >>> 37 = 0
  have hle : raw.toNat &&& 0x1E00000000 ≤ 0x1E00000000 := Nat.and_le_right
  rw [Nat.shiftRight_eq_div_pow]
  omega

/-- **What the recogniser tests**: bit 26 and the twenty bits below it. -/
theorem isSyscallInstruction_iff : isSyscallInstruction raw = true ↔ y raw = 1 ∧ imm20a raw = 0 := by
  have hslice : (raw >>> 6 &&& 0x1FFFFF).toNat = (y raw ++ imm20a raw).toNat := by
    have hfields : (raw >>> 6 &&& 0x1FFFFF).toNat = (raw.toBitVec.extractLsb' 6 21).toNat :=
      extractBits_toNat raw (by decide : 6 < 64) (by decide : 21 < 64)
    rw [hfields, y, imm20a, BitVec.extractLsb'_append_extractLsb'_eq_extractLsb' (by decide)]
  unfold isSyscallInstruction
  dsimp only
  rw [masked_opcode, if_neg (by simp), beq_iff_eq, ← UInt64.toNat_inj, hslice, append_eq_syscall]

/-- What the X unit takes for the immediate. -/
theorem imm21_iff : XTypeDecoder.imm21 raw = SYSCALL_BREAK_IMMEDIATE ↔ i raw = 1 ∧ imm20a raw = 0 := by
  rw [XTypeDecoder.imm21, ← UInt64.toNat_inj]
  have hfields := shiftLeft_or_toNat (i raw) (imm20a raw)
    (extractBits_toNat raw (by decide : 36 < 64) (by decide : 1 < 64))
    (extractBits_toNat raw (by decide : 6 < 64) (by decide : 20 < 64)) (by decide)
  rw [show (20 : UInt64) = UInt64.ofNat 20 from rfl, hfields, append_eq_syscall]

theorem majorOpcode_zero_iff : majorOpcode raw = 0 ↔ major raw = 0 :=
  field_eq_iff raw (by decide) (by decide) 0

end Bits

/-! ## Where a `break` comes from -/

theorem ATypeDecoder.integerALU_ne_break (fmt : AFormat) : typeOf (integerALU fmt) ≠ .BREAK := by
  simp only [integerALU, logical]
  generalize fmt.opcode &&& 0x0F = tag
  split <;> (try split) <;> (try split) <;> simp [instruction]

/-- No ALU word is a `break`. -/
theorem ATypeDecoder.toInstruction_ne_break (fmt : AFormat) : typeOf (toInstruction fmt) ≠ .BREAK := by
  unfold toInstruction
  split
  · simp [instruction]
  split
  · exact integerALU_ne_break fmt
  split
  · simp [instruction]
  split
  · have hmem := type_compareKind_mem fmt
    intro hbreak
    have htype : (compareKind fmt).1 = .BREAK := by
      rw [← hbreak]
      simp only [typeOf_some, compareInstruction]
      split <;> rfl
    rw [htype] at hmem
    exact absurd hmem (by decide)
  · simp

/-- Nor is any shift, deposit, test or extension. -/
theorem ITypeDecoder.toInstruction_ne_break (fmt : IFormat) : typeOf (toInstruction fmt) ≠ .BREAK := by
  simp only [toInstruction, shiftInstruction, depositInstruction, extensionInstruction, shift, deposit]
  split
  · split <;> (try split) <;> simp [instruction]
  split
  · split <;> (try split) <;> simp [test, instruction]
  · split <;> simp [extension, instruction]

/-- Nor any memory or system operation. -/
theorem MTypeDecoder.toInstruction_ne_break (fmt : MFormat) : typeOf (toInstruction fmt) ≠ .BREAK := by
  by_cases hunknown : operationType fmt.operation = .UNKNOWN
  · -- the types that depend on a size or on a flag
    cases hop : fmt.operation <;> simp only [hop, operationType, reduceCtorEq] at hunknown <;>
      cases hsize : fmt.size <;>
      simp [toInstruction, hop, hsize, loadType, storeType, exchangeType, instruction, type_withImm9] <;>
      (try split) <;> (try split) <;> simp
  · rw [typeOf_toInstruction fmt hunknown]
    cases fmt.operation <;> simp [operationType]

/-- A branch word that is a `break` has no immediate. -/
theorem BTypeDecoder.immediate_of_break {fmt : BFormat} (h : (toInstruction fmt).type = .BREAK) :
    (toInstruction fmt).immediate = 0 := by
  rw [type_toInstruction] at h
  have htype : fmt.type = .BREAK_B := by
    cases hkind : fmt.type <;> rw [hkind] at h <;> first | rfl | cases h
  simp only [toInstruction, withOperands, htype, formImmediate]
  split <;> rfl

namespace FTypeDecoder

theorem fixedPoint_ne_break (slot : UInt64) : (fixedPoint slot).type ≠ .BREAK := by
  unfold fixedPoint
  split
  · simp [start]
  · rw [type_setMultiplyAdd]
    dsimp only
    split <;> simp

/-- No word of the F unit is a `break`. -/
theorem decode_ne_break (slot : UInt64) : (decode slot).type ≠ .BREAK := by
  show (decodeMajor slot).type ≠ .BREAK
  unfold decodeMajor
  dsimp only
  split
  · unfold multiplyAdd
    dsimp only
    split
    · simp [start]
    · rw [type_setMultiplyAdd]
      dsimp only
      split
      · simp
      split <;> simp
  split
  · simp [start]
  split
  · simp [start]
  split
  · unfold decodeMajor0
    dsimp only
    split
    · split <;> simp [start]
    split
    · simp [start]
    split <;> simp [start]
  split
  · split <;> simp [start]
  split
  · simp [start]
  split
  · exact fixedPoint_ne_break slot
  · simp [start]

end FTypeDecoder

namespace DecodeSlot
open BreakWord SyscallDispatcher

theorem ne_break_bind {α : Type} {toInstruction : α → Option InstructionEx}
    (h : ∀ fmt, typeOf (toInstruction fmt) ≠ .BREAK) (decoded : Option α) :
    typeOf (decoded.bind toInstruction) ≠ .BREAK := by
  cases decoded with
  | none => simp
  | some fmt => exact h fmt

theorem ne_break_ite {c : Prop} [Decidable c] {a b : Option InstructionEx} (ha : typeOf a ≠ .BREAK)
    (hb : typeOf b ≠ .BREAK) : typeOf (if c then a else b) ≠ .BREAK := by
  split
  · exact ha
  · exact hb

variable (raw : UInt64)

theorem decodeM_ne_break (ip : UInt64) : typeOf (decodeM raw ip) ≠ .BREAK := by
  unfold decodeM
  repeat' apply ne_break_ite
  all_goals first
    | exact ne_break_bind MTypeDecoder.toInstruction_ne_break _
    | exact ne_break_bind ATypeDecoder.toInstruction_ne_break _
    | simp [alloc, movToArImm, movToAr, movFromAr, chkA, predicated]

theorem decodeI_ne_break : typeOf (decodeI raw) ≠ .BREAK := by
  unfold decodeI
  repeat' apply ne_break_ite
  all_goals first
    | exact ne_break_bind ITypeDecoder.toInstruction_ne_break _
    | exact ne_break_bind ATypeDecoder.toInstruction_ne_break _
    | simp [alloc, movToArImm, movToAr, movFromAr, movToPr, movToPrRot, predicated]

/-- A `break` of the B unit has no immediate. -/
theorem immediate_of_decodeB {raw ip : UInt64} {instr : InstructionEx} (h : decodeB raw ip = some instr)
    (hbreak : instr.type = .BREAK) : instr.immediate = 0 := by
  unfold decodeB at h
  split at h
  · cases h
    cases hbreak
  split at h
  · cases h
    cases hbreak
  split at h
  · obtain ⟨fmt, -, rfl⟩ := Option.map_eq_some_iff.mp h
    exact BTypeDecoder.immediate_of_break hbreak
  · cases h

theorem decodeF_ne_break : (decodeF raw).type ≠ .BREAK := by
  unfold decodeF
  split
  · simp [predicated]
  · exact FTypeDecoder.decode_ne_break raw

/-- What the X unit decodes as a `break`. -/
theorem decodeX_break_iff :
    ((XTypeDecoder.decode raw).type = .BREAK ∧ (XTypeDecoder.decode raw).immediate = SYSCALL_BREAK_IMMEDIATE) ↔
      major raw = 0 ∧ i raw = 1 ∧ imm20a raw = 0 := by
  show (XTypeDecoder.decodeMajor raw).type = .BREAK ∧ (XTypeDecoder.decodeMajor raw).immediate = _ ↔ _
  rw [← imm21_iff, ← majorOpcode_zero_iff]
  by_cases hzero : majorOpcode raw = 0
  · unfold XTypeDecoder.decodeMajor
    dsimp only
    rw [if_pos hzero]
    simp [hzero, InstructionEx.setImmediate]
  · refine ⟨fun hbreak => absurd hbreak.1 ?_, fun hsyscall => absurd hsyscall.1 hzero⟩
    unfold XTypeDecoder.decodeMajor
    dsimp only
    rw [if_neg hzero]
    split
    · split <;> simp [XTypeDecoder.start]
    split
    · simp
    split <;> simp [XTypeDecoder.start]

end DecodeSlot

/-! ## Agreement -/

section Agreement
open BreakWord SyscallDispatcher

/-- The decoder yields a `break` with the immediate of the system calls. -/
def DecodesSyscall (unit : UnitType) (raw ip : UInt64) : Prop :=
  (decodeSlot raw unit ip).type = .BREAK ∧ (decodeSlot raw unit ip).immediate = SYSCALL_BREAK_IMMEDIATE

/-- **What the decoder finds**: only words of the X unit. -/
theorem decodesSyscall_iff (unit : UnitType) (raw ip : UInt64) :
    DecodesSyscall unit raw ip ↔ unit = .X_UNIT ∧ major raw = 0 ∧ i raw = 1 ∧ imm20a raw = 0 := by
  have htype : (decodeSlot raw unit ip).type = typeOf (DecodeSlot.decodeUnit raw unit ip) := type_decodeSlot raw unit ip
  cases unit with
  | X_UNIT => exact (DecodeSlot.decodeX_break_iff raw).trans (by simp)
  | M_UNIT =>
      refine ⟨fun h => absurd (htype.symm.trans h.1) (DecodeSlot.decodeM_ne_break raw ip), fun h => ?_⟩
      cases h.1
  | I_UNIT =>
      refine ⟨fun h => absurd (htype.symm.trans h.1) (DecodeSlot.decodeI_ne_break raw), fun h => ?_⟩
      cases h.1
  | F_UNIT =>
      refine ⟨fun h => absurd (htype.symm.trans h.1) (DecodeSlot.decodeF_ne_break raw), fun h => ?_⟩
      cases h.1
  | L_UNIT => exact ⟨fun h => (nomatch htype.symm.trans h.1), fun h => (nomatch h.1)⟩
  | INVALID => exact ⟨fun h => (nomatch htype.symm.trans h.1), fun h => (nomatch h.1)⟩
  | B_UNIT =>
      refine ⟨fun h => ?_, fun h => (nomatch h.1)⟩
      obtain ⟨hbreak, himm⟩ := h
      cases hdecoded : DecodeSlot.decodeB raw ip with
      | none =>
          rw [htype] at hbreak
          simp only [DecodeSlot.decodeUnit, hdecoded, typeOf_none] at hbreak
          cases hbreak
      | some instr =>
          have hslot : decodeSlot raw .B_UNIT ip = instr.setRawBits raw := by
            simp only [decodeSlot, DecodeSlot.decodeUnit, hdecoded, Option.getD_some]
          rw [hslot] at hbreak himm
          have hzero : instr.immediate = 0 := DecodeSlot.immediate_of_decodeB hdecoded hbreak
          have : instr.immediate = SYSCALL_BREAK_IMMEDIATE := himm
          rw [hzero] at this
          exact absurd this (by decide)

/-- **What the recogniser promises** for a word of a unit. -/
structure SyscallsAgree (unit : UnitType) (raw ip : UInt64) : Prop where
  decoded : isSyscallInstruction raw = true ↔ DecodesSyscall unit raw ip
  breaks : IsBreak unit raw → imm21 raw = 0x100000 → isSyscallInstruction raw = true
  nops : IsNop unit raw → isSyscallInstruction raw = false

/-- In the X unit bit 26 says what bit 36 and the major opcode do; elsewhere it is clear and the word is no `break`.
Both matter only where the twenty low bits of the immediate are zero. -/
def BitsAgree (unit : UnitType) (raw : UInt64) : Prop :=
  imm20a raw = 0 →
    if unit = .X_UNIT then y raw = 1 ↔ i raw = 1 ∧ major raw = 0
    else y raw = 0 ∧ ¬ (IsBreak unit raw ∧ i raw = 1)

variable {raw : UInt64}

theorem isSyscallInstruction_false_iff : isSyscallInstruction raw = false ↔ ¬ (y raw = 1 ∧ imm20a raw = 0) := by
  rw [← isSyscallInstruction_iff, Bool.not_eq_true]

theorem imm21_eq_syscall_iff : imm21 raw = 0x100000 ↔ i raw = 1 ∧ imm20a raw = 0 := by
  rw [← append_eq_syscall, ← BitVec.toNat_inj]
  rfl

/-- A bit is set or clear. -/
theorem y_ne_one_iff : ¬ y raw = 1 ↔ y raw = 0 := by
  have hlt := (y raw).isLt
  rw [← BitVec.toNat_inj, ← BitVec.toNat_inj]
  show ¬ (y raw).toNat = 1 ↔ (y raw).toNat = 0
  omega

/-- Bit 26 of a no-op is clear by its format, and where the bits agree also in the B unit, whose format ignores it. -/
theorem nops_of_bitsAgree {unit : UnitType} (h : BitsAgree unit raw) (hnop : IsNop unit raw) :
    isSyscallInstruction raw = false := by
  rw [isSyscallInstruction_false_iff]
  rintro ⟨hset, hlow⟩
  have hclear : y raw ≠ 0 := fun hzero => y_ne_one_iff.mpr hzero hset
  have hbits := h hlow
  cases unit with
  | M_UNIT => exact hclear hnop.2.2.2
  | I_UNIT => exact hclear hnop.2.2.2
  | F_UNIT => exact hclear hnop.2.2.2
  | X_UNIT => exact hclear hnop.2.2.2
  | B_UNIT =>
      rw [if_neg (by simp)] at hbits
      exact hclear hbits.1
  | L_UNIT => exact hnop
  | INVALID => exact hnop

/-- **Syscall detection.** For every word of every unit the recogniser does what it promises if and only if the bits
agree. -/
theorem syscallWords_agree_iff (unit : UnitType) (raw ip : UInt64) :
    SyscallsAgree unit raw ip ↔ BitsAgree unit raw := by
  constructor
  · intro h hlow
    have hdecoded := h.decoded
    rw [isSyscallInstruction_iff, decodesSyscall_iff] at hdecoded
    split
    case isTrue hX =>
      constructor
      · intro hset
        obtain ⟨-, hmajor, hi, -⟩ := hdecoded.mp ⟨hset, hlow⟩
        exact ⟨hi, hmajor⟩
      · rintro ⟨hi, hmajor⟩
        exact (hdecoded.mpr ⟨hX, hmajor, hi, hlow⟩).1
    case isFalse hX =>
      constructor
      · exact y_ne_one_iff.mp fun hset => hX (hdecoded.mp ⟨hset, hlow⟩).1
      · -- the decoder finds no break here, and the recogniser should
        rintro ⟨hbreak, hi⟩
        have hcalls := h.breaks hbreak (imm21_eq_syscall_iff.mpr ⟨hi, hlow⟩)
        exact hX (hdecoded.mp (isSyscallInstruction_iff.mp hcalls)).1
  · intro h
    refine ⟨?_, fun hbreak himm => ?_, nops_of_bitsAgree h⟩
    · rw [isSyscallInstruction_iff, decodesSyscall_iff]
      constructor
      · rintro ⟨hset, hlow⟩
        have hbits := h hlow
        split at hbits
        case isTrue hX =>
          obtain ⟨hi, hmajor⟩ := hbits.mp hset
          exact ⟨hX, hmajor, hi, hlow⟩
        case isFalse => exact absurd hbits.1 fun hzero => y_ne_one_iff.mpr hzero hset
      · rintro ⟨hX, hmajor, hi, hlow⟩
        have hbits := h hlow
        rw [if_pos hX] at hbits
        exact ⟨hbits.mpr ⟨hi, hmajor⟩, hlow⟩
    · obtain ⟨hi, hlow⟩ := imm21_eq_syscall_iff.mp himm
      have hbits := h hlow
      split at hbits
      case isTrue hX =>
        subst hX
        exact isSyscallInstruction_iff.mpr ⟨hbits.mpr ⟨hi, hbreak.1⟩, hlow⟩
      case isFalse => exact absurd ⟨hbreak, hi⟩ hbits.2

/-- `break.i 0x100000` is not recognised, and a `nop.b` with bit 26 set is. -/
theorem syscallWords_disagree :
    (IsBreak .I_UNIT 0x1000000000 ∧ imm21 0x1000000000 = 0x100000 ∧ isSyscallInstruction 0x1000000000 = false) ∧
      (IsNop .B_UNIT 0x4004000000 ∧ isSyscallInstruction 0x4004000000 = true) ∧
      ¬ ∀ unit raw ip, SyscallsAgree unit raw ip := by
  refine ⟨⟨⟨by decide, by decide, by decide⟩, by decide, by decide⟩, ⟨⟨by decide, by decide⟩, by decide⟩, fun h => ?_⟩
  have hcalls := (h .I_UNIT 0x1000000000 0).breaks ⟨by decide, by decide, by decide⟩ (by decide)
  exact absurd hcalls (by decide)

end Agreement

end GuideXOS.Decoder
