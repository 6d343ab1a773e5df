import GuideXOS.Decoder.FieldWords
import GuideXOS.Isa.OperandAliasing

/-!
# `FieldResults` — what shifts, extracts and deposits write

A word of the I unit that moves fields of bits is decoded and executed. `FieldOp.computed` is what comes out:
`computed_eq_value_iff` says when that is what the operation means.

* A count is taken modulo 64.
* Both shifts to the right are logical, and both extracts unsigned.
* The deposit of an immediate into zeros is executed as an extract.
-/

/-! ## The value -/

namespace GuideXOS.Decoder.FieldOp
open Lib.Words
variable (raw : UInt64) (gr : Fin 128 → UInt64)

/-- **What is computed** for a word. -/
def computed : FieldOp → BitVec 64
  | .shl source count => (gr source).toBitVec <<< ((gr count).toNat % 64)
  | .shrU source count => (gr source).toBitVec >>> ((gr count).toNat % 64)
  | .shr source count => (gr source).toBitVec >>> ((gr count).toNat % 64)
  | .extr source pos len => unsignedSlice (gr source).toBitVec pos len
  | .depZImm _ _ len => unsignedSlice (gr (IWord.r3 raw).toFin).toBitVec (IWord.pos6b raw).toNat len
  | op => op.value gr

/-- **When that is right**: a count below 64, or a word that is shifted to nothing either way; no sign to be carried;
and for the deposit of an immediate the slice of a register that happens to be alike. -/
def Kept : FieldOp → Prop
  | .shl source count => (gr count).toNat < 64 ∨ (gr source).toBitVec <<< ((gr count).toNat % 64) = 0#64
  | .shrU source count => (gr count).toNat < 64 ∨ (gr source).toBitVec >>> ((gr count).toNat % 64) = 0#64
  | .shr source count =>
      if (gr source).toBitVec.msb = true then
        (gr count).toNat % 64 = 0 ∧ ((gr count).toNat = 0 ∨ (gr source).toBitVec = BitVec.allOnes 64)
      else (gr count).toNat < 64 ∨ (gr source).toBitVec >>> ((gr count).toNat % 64) = 0#64
  | .extr source pos len =>
      (gr source).toBitVec.getLsbD (pos + (min len (64 - pos) - 1)) = false ∨ (pos = 0 ∧ 64 ≤ len)
  | .depZImm imm8 pos len =>
      unsignedSlice (gr (IWord.r3 raw).toFin).toBitVec (IWord.pos6b raw).toNat len =
        deposited 0 (imm8.signExtend 64) pos len
  | _ => True

/-- Slices lie at a position of the word and are not empty. -/
def Placed : FieldOp → Prop
  | .extrU _ pos len | .extr _ pos len | .dep _ _ pos len | .depImm _ _ pos len | .depZ _ pos len
  | .depZImm _ pos len => pos < 64 ∧ 0 < len
  | _ => True

variable {raw gr}

theorem computed_eq_value_iff {op : FieldOp} (h : Placed op) : computed raw gr op = op.value gr ↔ Kept raw gr op := by
  cases op with
  | shl source count => exact shiftLeft_mod_eq_iff _ _
  | shrU source count => exact ushiftRight_mod_eq_iff _ _
  | shr source count => exact ushiftRight_mod_eq_sshiftRight_iff _ (by decide) _
  | extr source pos len => exact eq_comm.trans (signedSlice_eq_iff _ _ _ h.1 h.2)
  | depZImm imm8 pos len => exact Iff.rfl
  | extrU | dep | depImm | depZ | shrp => exact iff_of_true rfl trivial

/-- What a word encodes is placed. -/
theorem placed_of_architected {op : FieldOp} (h : architectedFieldOp raw = some op) : Placed op := by
  have hlt : ∀ b : BitVec 6, b.toNat < 64 := fun b => b.isLt
  unfold architectedFieldOp architectedMajor5 architectedMajor7 at h
  dsimp only at h
  repeat' split at h
  all_goals cases h
  all_goals
    first
    | exact trivial
    | exact ⟨hlt _, Nat.succ_pos _⟩
    | exact ⟨by omega, Nat.succ_pos _⟩

end GuideXOS.Decoder.FieldOp

namespace GuideXOS.Isa
open Lib Lib.Words GuideXOS.Core GuideXOS.Decoder

/-! ## Operands in the immediate -/

section Immediates

/-- Bits of a byte that fits into six. -/
theorem bit_toUInt64 {b : UInt8} (h : b.toNat < 64) (i : Nat) :
    bit b.toUInt64 i = (decide (i < 6) && bit b.toUInt64 i) := by
  by_cases hi : i < 6
  · simp [hi]
  · have hclear : bit b.toUInt64 i = false := by
      rw [bit, UInt8.toNat_toUInt64]
      exact Nat.testBit_lt_two_pow (h.trans_le (Nat.pow_le_pow_right (n := 2) (by decide) (by omega : 6 ≤ i)))
    simp [hi, hclear]

variable {pos len : UInt8} {upper : UInt64}

/-- The position stands in the lowest six bits. -/
theorem fieldPosition_posLen (hpos : pos.toNat < 64) (hupper : ∀ i < 12, bit upper i = false) :
    (fieldPosition (ITypeDecoder.posLen { pos := pos, len := len } ||| upper)).toNat = pos.toNat := by
  have hword : fieldPosition (ITypeDecoder.posLen { pos := pos, len := len } ||| upper) = pos.toUInt64 := by
    refine ext_bits fun i hi => ?_
    have hmask : bit 0x3F i = decide (i < 6) := bit_mask (w := 6) rfl i
    rw [fieldPosition, bit_and, hmask, bit_toUInt64 hpos]
    by_cases hin : i < 6
    · have hup := hupper i (by omega)
      have hlow : ¬ 6 ≤ i := by omega
      simp [ITypeDecoder.posLen, hin, hup, hlow]
    · simp [hin]
  rw [hword, UInt8.toNat_toUInt64]

/-- The length less one stands in the next six. -/
theorem bit_fieldMask_posLen (hpos : pos.toNat < 64) (hlen : len.toNat < 64)
    (hupper : ∀ i < 12, bit upper i = false) : ∀ i < 64,
      bit (fieldMask (ITypeDecoder.posLen { pos := pos, len := len } ||| upper)) i = decide (i < len.toNat + 1) := by
  have hword : ((ITypeDecoder.posLen { pos := pos, len := len } ||| upper) >>> 6) &&& 0x3F = len.toUInt64 := by
    refine ext_bits fun i hi => ?_
    have hmask : bit 0x3F i = decide (i < 6) := bit_mask (w := 6) rfl i
    rw [bit_and, bit_shiftRight, hmask, bit_toUInt64 hlen]
    by_cases hin : i < 6
    · have hup := hupper (6 + i) (by omega)
      have hhigh : bit pos.toUInt64 (6 + i) = false := by
        rw [bit_toUInt64 hpos]
        simp
      have hbound : 6 + i < 64 := by omega
      simp [ITypeDecoder.posLen, hin, hup, hhigh, hbound]
    · simp [hin]
  have hsum : (len.toUInt64 + 1).toNat = len.toNat + 1 := by
    rw [UInt64.toNat_add, UInt8.toNat_toUInt64]
    have hone : (1 : UInt64).toNat = 1 := rfl
    rw [hone]
    exact Nat.mod_eq_of_lt (by omega)
  intro i hi
  unfold fieldMask
  dsimp only
  rw [hword]
  split
  · next hge =>
    have hwhole : 64 ≤ len.toNat + 1 := by
      rw [← hsum]
      exact UInt64.le_iff_toNat_le.mp hge
    have hin : i < len.toNat + 1 := by omega
    rw [bit_not, decide_eq_true hi, decide_eq_true hin]
    simp [bit]
  · next hlt =>
    have hpart : (len.toUInt64 + 1).toNat < 64 := Nat.lt_of_not_le fun hle => hlt (UInt64.le_iff_toNat_le.mpr hle)
    rw [← hsum]
    exact bit_mask (lowMask_toNat hpart) i

/-- Above them there is nothing. -/
theorem bit_posLen_of_le (hpos : pos.toNat < 64) (hlen : len.toNat < 64) {i : Nat} (hi : 12 ≤ i) :
    bit (ITypeDecoder.posLen { pos := pos, len := len }) i = false := by
  have hposition : bit pos.toUInt64 i = false := by
    rw [bit_toUInt64 hpos, decide_eq_false (by omega), Bool.false_and]
  have hlength : bit len.toUInt64 (i - 6) = false := by
    rw [bit_toUInt64 hlen, decide_eq_false (by omega), Bool.false_and]
  simp [ITypeDecoder.posLen, hposition, hlength]

theorem depositSource_of_clear {imm : UInt64} (h : bit imm 12 = false) (r1 : UInt64) : depositSource imm r1 = r1 := by
  have hbit : ¬ (imm >>> 12) &&& 1 ≠ 0 := by
    rw [and_bit_ne_zero_iff (imm >>> 12) (i := 0) rfl, bit_shiftRight]
    exact Bool.eq_false_iff.mp h
  exact if_neg hbit

theorem depositSource_of_set {imm : UInt64} (h : bit imm 12 = true) (r1 : UInt64) :
    (depositSource imm r1).toBitVec = if bit imm 13 = true then BitVec.allOnes 64 else 0 := by
  have hbit : (imm >>> 12) &&& 1 ≠ 0 := by
    rw [and_bit_ne_zero_iff (imm >>> 12) (i := 0) rfl, bit_shiftRight]
    exact h
  have hsign : (imm >>> 13) &&& 1 ≠ 0 ↔ bit imm 13 = true := by
    rw [and_bit_ne_zero_iff (imm >>> 13) (i := 0) rfl, bit_shiftRight]
    rfl
  unfold depositSource
  rw [if_pos hbit]
  by_cases hset : bit imm 13 = true
  · rw [if_pos (hsign.mpr hset), if_pos hset]
    rfl
  · rw [if_neg (mt hsign.mp hset), if_neg hset]
    rfl

end Immediates

/-! ## Execution -/

/-- The destination has received a value and some NaT bit, and nothing else has changed. -/
def Receives (before : CPUState) (d : Fin 128) (value : UInt64) (after : CPUState) : Prop :=
  ∃ nat, after = (before.setGR d value).setGRNaT d nat

theorem receives_setGR (s : CPUState) (d : Fin 128) (value : UInt64) : Receives s d value (s.setGR d value) := by
  refine ⟨false, ?_⟩
  rw [CPUState.setGRNaT_eq, CPUState.setGR_eq]
  have hgr : (s.gr.set (s.mapGR d) value).setNaT (s.mapGR d) false = s.gr.set (s.mapGR d) value := by
    refine GRFile.ext (fun i _ => GRFile.get_setNaT _ _ _ _) fun i _ => ?_
    by_cases hi : s.mapGR d = i
    · subst hi
      rw [GRFile.getNaT_set_self]
      by_cases hw : GRFile.Writable (s.mapGR d)
      · exact GRFile.getNaT_setNaT_self hw.1 hw.2 false
      · by_contra hset
        exact hw (GRFile.writable_of_getNaT (Bool.eq_true_of_not_eq_false hset))
    · exact GRFile.getNaT_setNaT_ne hi false
  exact congrArg (fun gr => { s with gr := gr }) hgr.symm

/-- What is received is the value that was written, where anything can be written. -/
theorem receives_iff (s : CPUState) (d : Fin 128) (value written : UInt64) (nat : Bool) :
    Receives s d value ((s.setGR d written).setGRNaT d nat) ↔ (GRFile.Writable (s.mapGR d) → written = value) := by
  constructor
  · rintro ⟨nat', h⟩ hw
    have hread := congrArg (fun t : CPUState => t.gr.get (s.mapGR d)) h
    simp only [CPUState.setGRNaT_eq, CPUState.setGR_eq, GRFile.get_setNaT] at hread
    rwa [GRFile.get_set_self hw.1 hw.2, GRFile.get_set_self hw.1 hw.2] at hread
  · intro h
    by_cases hw : GRFile.Writable (s.mapGR d)
    · exact ⟨nat, by rw [h hw]⟩
    · exact ⟨nat, by rw [CPUState.setGR_of_not_writable hw, CPUState.setGR_of_not_writable hw]⟩

section Execute
variable {M F : Type} [IMemory M] (host : ExecuteHost M F) {raw : UInt64} {cpu : CPUState} {memory : M} {start : Nat}

theorem registerField_field (h : start < 64) :
    registerField (field raw start 7) = (raw.toBitVec.extractLsb' start 7).toFin := by
  refine Fin.ext ?_
  rw [registerField, Fin.val_ofNat, field_toNat raw h (by decide)]
  exact Nat.mod_eq_of_lt (BitVec.isLt _)

/-- What the decoder makes of these words: the predicate is that of the word, and there is no completer. -/
structure Plain (raw : UInt64) (instr : InstructionEx) : Prop where
  predicate : instr.predicate = field raw 0 6
  completer : instr.compareCompleter = .NORMAL
  type : instr.type ∈ [InstructionType.SHL, .SHR, .EXTR, .DEP, .DEP_Z, .SHRP]

theorem plain_instructionOf {type : InstructionType}
    (h : type ∈ [InstructionType.SHL, .SHR, .EXTR, .DEP, .DEP_Z, .SHRP]) (src1 src2 : UInt8) :
    Plain raw (ITypeDecoder.instructionOf raw type src1 src2) := ⟨rfl, rfl, h⟩

theorem Plain.setImmediate {instr : InstructionEx} (h : Plain raw instr) (imm : UInt64) :
    Plain raw (instr.setImmediate imm) := ⟨h.predicate, h.completer, h.type⟩

theorem predicateField_field (h : start < 64) :
    predicateField (field raw start 6) = (raw.toBitVec.extractLsb' start 6).toFin := by
  apply Fin.ext
  rw [predicateField, Fin.val_ofNat, field_toNat raw h (by simp)]
  exact Nat.mod_eq_of_lt (BitVec.isLt _)

/-- The instruction of a word writes a value to the destination. -/
structure Writes (host : ExecuteHost M F) (raw : UInt64) (cpu : CPUState) (memory : M) (instr : InstructionEx)
    (value : BitVec 64) : Prop where
  plain : Plain raw instr
  effect : ∃ nat, executeSwitch host .sequential instr cpu memory =
    (.done, (cpu.setGR (IWord.r1 raw).toFin ⟨value⟩).setGRNaT (IWord.r1 raw).toFin nat, memory)

variable {host} {instr : InstructionEx} {op : FieldOp} (ip : UInt64)

theorem writes_of_setGR {value : UInt64} {bits : BitVec 64} (hplain : Plain raw instr)
    (hvalue : value.toBitVec = bits) (h : executeSwitch host .sequential instr cpu memory =
      (.done, cpu.setGR (registerField (field raw 6 7)) value, memory)) : Writes host raw cpu memory instr bits := by
  subst hvalue
  rw [registerField_field (by decide)] at h
  obtain ⟨nat, hnat⟩ := receives_setGR cpu (IWord.r1 raw).toFin value
  exact ⟨hplain, nat, h.trans (congrArg (fun after => (ExecuteEnd.done, after, memory)) hnat)⟩

theorem writes_of_setGRNaT {value : UInt64} {bits : BitVec 64} (hplain : Plain raw instr)
    (hvalue : value.toBitVec = bits) (h : ∃ nat, executeSwitch host .sequential instr cpu memory = (.done,
      (cpu.setGR (registerField (field raw 6 7)) value).setGRNaT (registerField (field raw 6 7)) nat, memory)) :
    Writes host raw cpu memory instr bits := by
  subst hvalue
  rw [registerField_field (by decide)] at h
  exact ⟨hplain, h⟩

theorem r2_eq : registerField (field raw 13 7) = (IWord.r2 raw).toFin := registerField_field (by decide)

theorem r3_eq : registerField (field raw 20 7) = (IWord.r3 raw).toFin := registerField_field (by decide)

/-! ### Shifts -/

theorem writes_shl : Writes host raw cpu memory (ITypeDecoder.instructionOf raw .SHL (field raw 13 7) (field raw 20 7))
    (FieldOp.computed raw cpu.getGR (.shl (IWord.r2 raw).toFin (IWord.r3 raw).toFin)) := by
  refine writes_of_setGRNaT (plain_instructionOf (by decide) _ _) (shiftLeft_63_toBitVec _ _) ?_
  rw [← r2_eq, ← r3_eq]
  exact ⟨_, rfl⟩

theorem writes_shr : Writes host raw cpu memory (ITypeDecoder.instructionOf raw .SHR (field raw 20 7) (field raw 13 7))
    (FieldOp.computed raw cpu.getGR (.shrU (IWord.r3 raw).toFin (IWord.r2 raw).toFin)) := by
  refine writes_of_setGR (plain_instructionOf (by decide) _ _) (shiftRight_63_toBitVec _ _) ?_
  rw [← r2_eq, ← r3_eq]
  rfl

/-- The two words shifted as one. -/
theorem shiftPair_toBitVec (high low : UInt64) {count : UInt64} (h : count.toNat < 64) :
    (shiftPair high low count).toBitVec = ((high.toBitVec ++ low.toBitVec) >>> count.toNat).setWidth 64 := by
  refine BitVec.eq_of_getLsbD_eq fun i hi => ?_
  rw [BitVec.getLsbD_setWidth, BitVec.getLsbD_ushiftRight, BitVec.getLsbD_append, decide_eq_true hi, Bool.true_and]
  unfold shiftPair
  split
  · next h0 =>
    subst h0
    have hin : (0 : UInt64).toNat + i < 64 := by simpa using hi
    rw [if_pos hin]
    show low.toBitVec.getLsbD i = low.toBitVec.getLsbD (0 + i)
    rw [Nat.zero_add]
  · next h0 =>
    have hpos : 0 < count.toNat := Nat.pos_of_ne_zero fun hzero => h0 (UInt64.toNat_inj.mp hzero)
    have hle : count ≤ 64 := UInt64.le_iff_toNat_le.mpr h.le
    have hsub : (64 - count).toNat = 64 - count.toNat := UInt64.toNat_sub_of_le _ _ hle
    rw [getLsbD_toBitVec, bit_or, bit_shiftRight, bit_shiftLeft, hsub, Nat.mod_eq_of_lt h,
      Nat.mod_eq_of_lt (by omega : 64 - count.toNat < 64), decide_eq_true hi, Bool.true_and, getLsbD_toBitVec,
      getLsbD_toBitVec]
    by_cases hin : count.toNat + i < 64
    · have hlow : ¬ 64 - count.toNat ≤ i := by omega
      simp [hin, hlow]
    · have hout : bit low (count.toNat + i) = false := toNat_testBit_high hin
      have hhigh : 64 - count.toNat ≤ i := by omega
      have hindex : i - (64 - count.toNat) = count.toNat + i - 64 := by omega
      simp [hin, hout, hhigh, hindex]

theorem writes_shrp : Writes host raw cpu memory
    ((ITypeDecoder.instructionOf raw .SHRP (field raw 13 7) (field raw 20 7)).setImmediate (field raw 27 6).toUInt64)
    (FieldOp.computed raw cpu.getGR (.shrp (IWord.r2 raw).toFin (IWord.r3 raw).toFin (IWord.count6d raw).toNat)) := by
  have hcount : ((field raw 27 6).toUInt64 &&& 0x3F).toNat = (IWord.count6d raw).toNat := by
    rw [and_63_toNat, UInt8.toNat_toUInt64, field_toNat raw (by simp) (by simp)]
    exact Nat.mod_eq_of_lt (BitVec.isLt _)
  have hvalue := shiftPair_toBitVec (cpu.getGR (IWord.r2 raw).toFin) (cpu.getGR (IWord.r3 raw).toFin)
    (hcount ▸ BitVec.isLt (IWord.count6d raw))
  rw [hcount] at hvalue
  refine writes_of_setGRNaT ((plain_instructionOf (by decide) _ _).setImmediate _) hvalue ?_
  rw [← r2_eq, ← r3_eq]
  exact ⟨_, rfl⟩

/-! ### Slices and deposits -/

/-- An immediate with a position and a length, and what else it holds. -/
structure Immediate (imm : UInt64) (pos len : Nat) : Prop where
  pos_lt : pos < 64
  position : (fieldPosition imm).toNat = pos
  mask : ∀ i < 64, bit (fieldMask imm) i = decide (i < len)

theorem immediate_posLen {pos len : UInt8} {upper : UInt64} (hpos : pos.toNat < 64) (hlen : len.toNat < 64)
    (hupper : ∀ i < 12, bit upper i = false) :
    Immediate (ITypeDecoder.posLen { pos := pos, len := len } ||| upper) pos.toNat (len.toNat + 1) :=
  ⟨hpos, fieldPosition_posLen hpos hupper, bit_fieldMask_posLen hpos hlen hupper⟩

theorem immediate_posLen' {pos len : UInt8} (hpos : pos.toNat < 64) (hlen : len.toNat < 64) :
    Immediate (ITypeDecoder.posLen { pos := pos, len := len }) pos.toNat (len.toNat + 1) := by
  have himmediate := @immediate_posLen pos len 0 hpos hlen fun i _ => Nat.zero_testBit i
  rwa [UInt64.or_zero] at himmediate

section Slices
variable {imm : UInt64} {pos len : Nat} (h : Immediate imm pos len)
include h

theorem writes_extr : Writes host raw cpu memory
    ((ITypeDecoder.instructionOf raw .EXTR (field raw 20 7) 0).setImmediate imm)
    (unsignedSlice (cpu.getGR (IWord.r3 raw).toFin).toBitVec pos len) := by
  have hvalue := shiftRight_and_toBitVec (cpu.getGR (IWord.r3 raw).toFin) (h.position ▸ h.pos_lt) h.mask
  rw [h.position] at hvalue
  refine writes_of_setGR ((plain_instructionOf (by decide) _ _).setImmediate _) hvalue ?_
  rw [← r3_eq]
  rfl

theorem writes_dep {src1 : UInt8} {source : BitVec 64}
    (hsource : (depositSource imm (cpu.getGR (registerField src1))).toBitVec = source) :
    Writes host raw cpu memory ((ITypeDecoder.instructionOf raw .DEP src1 (field raw 20 7)).setImmediate imm)
      (deposited (cpu.getGR (IWord.r3 raw).toFin).toBitVec source pos len) := by
  have hvalue := masked_or_toBitVec (cpu.getGR (IWord.r3 raw).toFin)
    (depositSource imm (cpu.getGR (registerField src1))) (h.position ▸ h.pos_lt) h.mask
  rw [h.position, hsource] at hvalue
  refine writes_of_setGR ((plain_instructionOf (by decide) _ _).setImmediate _) hvalue ?_
  rw [← r3_eq]
  rfl

theorem writes_depZ : Writes host raw cpu memory
    ((ITypeDecoder.instructionOf raw .DEP_Z (field raw 13 7) 0).setImmediate imm)
    (deposited 0 (cpu.getGR (IWord.r2 raw).toFin).toBitVec pos len) := by
  have hvalue := masked_or_toBitVec 0 (cpu.getGR (IWord.r2 raw).toFin) (h.position ▸ h.pos_lt) h.mask
  rw [h.position, UInt64.zero_and, UInt64.zero_or] at hvalue
  refine writes_of_setGR ((plain_instructionOf (by decide) _ _).setImmediate _) hvalue ?_
  rw [← r2_eq]
  rfl

end Slices

/-! ### Every word -/

theorem complement_toNat (h : start < 64) :
    (0x3F - field raw start 6).toNat = 63 - (raw.toBitVec.extractLsb' start 6).toNat := by
  have hfield := field_toNat raw h (by decide : 6 ≤ 8)
  have hlt : (raw.toBitVec.extractLsb' start 6).toNat < 64 := BitVec.isLt _
  have hle : field raw start 6 ≤ 0x3F := UInt8.le_iff_toNat_le.mpr (by
    rw [hfield]
    exact Nat.le_of_lt_succ hlt)
  rw [UInt8.toNat_sub_of_le _ _ hle, hfield]
  rfl

theorem field_lt_64 {length : Nat} (h : start < 64) (hl : length ≤ 6) : (field raw start length).toNat < 64 := by
  rw [field_toNat raw h (by omega)]
  exact (BitVec.isLt _).trans_le (Nat.pow_le_pow_right (n := 2) (by decide) hl)

theorem complement_lt_64 (h : start < 64) : (0x3F - field raw start 6).toNat < 64 := by
  rw [complement_toNat h]
  omega

/-- The shift that stands for a deposit. -/
theorem writes_depZ_shl (halias : IWord.len6d raw = IWord.cpos6c raw) : Writes host raw cpu memory
    ((ITypeDecoder.instructionOf raw .SHL (field raw 13 7) 0).setImmediate (0x3F - field raw 20 6).toUInt64)
    (deposited 0 (cpu.getGR (IWord.r2 raw).toFin).toBitVec (63 - (IWord.cpos6c raw).toNat)
      ((IWord.len6d raw).toNat + 1)) := by
  have hreach : 64 ≤ 63 - (IWord.cpos6c raw).toNat + ((IWord.len6d raw).toNat + 1) := by
    rw [halias]
    omega
  have hvalue := shiftLeft_63_toBitVec (cpu.getGR (IWord.r2 raw).toFin) (0x3F - field raw 20 6).toUInt64
  rw [UInt8.toNat_toUInt64, Nat.mod_eq_of_lt (complement_lt_64 (by decide)), complement_toNat (by decide),
    show raw.toBitVec.extractLsb' 20 6 = IWord.cpos6c raw from rfl,
    shiftLeft_eq_deposited _ _ ((IWord.len6d raw).toNat + 1) hreach] at hvalue
  refine writes_of_setGRNaT ((plain_instructionOf (by decide) _ _).setImmediate _) hvalue ?_
  rw [← r2_eq]
  exact ⟨_, rfl⟩

/-- Beside position and length the immediate has a mark, and the sign to deposit. -/
theorem writes_depImm : Writes host raw cpu memory
    ((ITypeDecoder.instructionOf raw .DEP 0 (field raw 20 7)).setImmediate
      (ITypeDecoder.posLen { pos := 0x3F - field raw 14 6, len := field raw 27 6 } ||| ((1 : UInt64) <<< 12) |||
        ((extractBits raw 36 1 &&& 0x1) <<< 13)))
    (FieldOp.computed raw cpu.getGR (.depImm (IWord.s raw == 1) (IWord.r3 raw).toFin
      (63 - (IWord.cpos6b raw).toNat) ((IWord.len6d raw).toNat + 1))) := by
  have hpos := @complement_lt_64 raw 14 (by decide)
  have hlen := @field_lt_64 raw 27 6 (by decide) le_rfl
  have hone : ∀ i, bit ((1 : UInt64) <<< 12) i = decide (i = 12) := by
    intro i
    have hpow : ((1 : UInt64) <<< 12).toNat = 2 ^ 12 := rfl
    rw [bit, hpow, Nat.testBit_two_pow, decide_eq_decide]
    exact eq_comm
  have hupper : ∀ i < 12, bit (((1 : UInt64) <<< 12) ||| ((extractBits raw 36 1 &&& 0x1) <<< 13)) i = false := by
    intro i hi
    have hlow : ¬ 13 ≤ i := by omega
    have hne : i ≠ 12 := by omega
    simp [hone, hlow, hne]
  have himm := immediate_posLen hpos hlen hupper
  rw [complement_toNat (by decide), field_toNat raw (by simp) (by simp)] at himm
  rw [UInt64.or_assoc]
  refine writes_dep himm ?_
  rw [depositSource_of_set (by simp [hone])]
  have hsign : bit (ITypeDecoder.posLen { pos := 0x3F - field raw 14 6, len := field raw 27 6 } |||
      (((1 : UInt64) <<< 12) ||| ((extractBits raw 36 1 &&& 0x1) <<< 13))) 13 = (IWord.s raw == 1) := by
    have hlow := bit_posLen_of_le hpos hlen (by decide : 12 ≤ 13)
    have hbit : bit (extractBits raw 36 1) 0 = (IWord.s raw).getLsbD 0 :=
      congrArg (fun n => n.testBit 0) (extractBits_toNat raw (by decide) (by decide))
    have hlast : bit 1 0 = true := rfl
    have hshifted : bit ((extractBits raw 36 1 &&& 0x1) <<< 13) 13 = bit (extractBits raw 36 1) 0 := by
      simp [hlast]
    have hs : ∀ b : BitVec 1, b.getLsbD 0 = (b == 1) := by decide
    rw [bit_or, bit_or, hlow, hone, hshifted, hbit, hs]
    rfl
  rw [hsign]

theorem writes_major4 (h : IWord.major raw = 4) :
    Writes host raw cpu memory (decodeSlot raw .I_UNIT ip) (FieldOp.computed raw cpu.getGR (.dep (IWord.r2 raw).toFin
      (IWord.r3 raw).toFin (63 - (IWord.cpos6d raw).toNat) ((IWord.len4d raw).toNat + 1))) := by
  have hpos := @complement_lt_64 raw 31 (by decide)
  have hlen := @field_lt_64 raw 27 4 (by decide) (by decide)
  have himm := immediate_posLen' hpos hlen
  rw [complement_toNat (by decide), field_toNat raw (by simp) (by simp)] at himm
  rw [ITypeDecoder.decodeSlot_dep ip h]
  refine writes_dep himm ?_
  rw [depositSource_of_clear (bit_posLen_of_le hpos hlen le_rfl), r2_eq]

theorem writes_major5 (h : IWord.major raw = 5) (hop : architectedMajor5 raw = some op) :
    Writes host raw cpu memory (decodeSlot raw .I_UNIT ip) (op.computed raw cpu.getGR) := by
  have hcomplement : ∀ {start : Nat}, start < 64 → (0x3F - field raw start 6).toNat < 64 := complement_lt_64
  have hfield : ∀ {start : Nat}, start < 64 → (field raw start 6).toNat < 64 := fun hs => field_lt_64 hs le_rfl
  have hlen : (field raw 27 6).toNat = (IWord.len6d raw).toNat := field_toNat raw (by simp) (by simp)
  unfold architectedMajor5 at hop
  dsimp only at hop
  split at hop
  · next hx =>
    -- the extracts
    have himm := immediate_posLen' (hfield (by decide : 14 < 64)) (hfield (by decide : 27 < 64))
    rw [hlen, field_toNat raw (by decide : 14 < 64) (by decide)] at himm
    rw [ITypeDecoder.decodeSlot_extr ip h hx.1 fun hy => absurd (hx.2.symm.trans hy.1) (by decide)]
    cases hop
    split <;> exact writes_extr himm
  split at hop
  · next hx =>
    cases hop
    split
    · next hy =>
      have hpos : (0x3F - field raw 20 6).toNat = 63 - (IWord.cpos6c raw).toNat := complement_toNat (by decide)
      rw [ITypeDecoder.decodeSlot_depZ ip h hx.1 hx.2 hy]
      split
      · next halias => exact writes_depZ_shl halias
      · have himm := immediate_posLen' (hcomplement (by decide : 20 < 64)) (hfield (by decide : 27 < 64))
        rw [hlen, hpos] at himm
        exact writes_depZ himm
    · next hy =>
      have himm := immediate_posLen' (hfield (by decide : 14 < 64)) (hfield (by decide : 27 < 64))
      rw [hlen, field_toNat raw (by decide : 14 < 64) (by decide)] at himm
      rw [ITypeDecoder.decodeSlot_extr ip h hx.1 fun hy' => hy hy'.2]
      exact writes_extr himm
  split at hop
  · next hx =>
    cases hop
    rw [ITypeDecoder.decodeSlot_shrp ip h hx.1 hx.2]
    exact writes_shrp
  split at hop
  · next hx =>
    cases hop
    rw [ITypeDecoder.decodeSlot_depImm ip h hx.1 hx.2]
    exact writes_depImm
  · cases hop

theorem writes_major7 (h : IWord.major raw = 7) (hop : architectedMajor7 raw = some op) :
    Writes host raw cpu memory (decodeSlot raw .I_UNIT ip) (op.computed raw cpu.getGR) := by
  unfold architectedMajor7 at hop
  split at hop
  · next hform =>
    split at hop
    · next hx =>
      cases hop
      rw [ITypeDecoder.decodeSlot_shl ip h hform hx]
      exact writes_shl
    split at hop
    · next hx =>
      cases hop
      rw [ITypeDecoder.decodeSlot_shr ip h hform ⟨.inl hx.1, hx.2⟩]
      exact writes_shr
    split at hop
    · next hx =>
      cases hop
      rw [ITypeDecoder.decodeSlot_shr ip h hform ⟨.inr hx.1, hx.2⟩]
      exact writes_shr
    · cases hop
  · cases hop

/-- **Every word of these operations** is decoded to an instruction that writes what is computed. -/
theorem writes_computed (h : architectedFieldOp raw = some op) :
    Writes host raw cpu memory (decodeSlot raw .I_UNIT ip) (op.computed raw cpu.getGR) := by
  unfold architectedFieldOp at h
  split at h
  · next hmajor =>
    cases h
    exact writes_major4 ip hmajor
  split at h
  · next hmajor => exact writes_major5 ip hmajor h
  split at h
  · next hmajor => exact writes_major7 ip hmajor h
  · cases h

/-! ## The predicate -/

/-- **What a word of the I unit ought to do**: if its predicate is set, or is not looked at, the destination receives
the value of the operation, and otherwise nothing happens. -/
def PerformsField (host : ExecuteHost M F) (raw ip : UInt64) (op : FieldOp) (cpu : CPUState) (memory : M)
    (ignorePredicate : Bool) : Prop :=
  let result := execute (executeSwitch host .sequential) (decodeSlot raw .I_UNIT ip) cpu memory ignorePredicate
  result.1 = .done ∧ result.2.2 = memory ∧
    if ignorePredicate = true ∨ cpu.getPR (IWord.qp raw).toFin = true then
      Receives cpu (IWord.r1 raw).toFin ⟨op.value cpu.getGR⟩ result.2.1
    else result.2.1 = cpu

/-- The predicate of a word qualifies what is no counted loop. -/
theorem qualifies_eq (hpredicate : instr.predicate = field raw 0 6)
    (hloop : [InstructionType.BR_CLOOP, .BR_CTOP, .BR_CEXIT].contains instr.type = false) (ignorePredicate : Bool) :
    qualifies instr cpu ignorePredicate = (ignorePredicate || cpu.getPR (raw.toBitVec.extractLsb' 0 6).toFin) := by
  have hqp : predicateField (field raw 0 6) = (raw.toBitVec.extractLsb' 0 6).toFin := predicateField_field (by simp)
  -- the predicate that is not looked up is set
  have hzero : field raw 0 6 = 0 → cpu.getPR (raw.toBitVec.extractLsb' 0 6).toFin = true := by
    intro h0
    rw [← hqp, h0]
    rfl
  rw [qualifies, hpredicate, hloop, hqp, Bool.or_false, Bool.or_assoc, Bool.eq_iff_iff]
  simp only [Bool.or_eq_true, beq_iff_eq]
  rw [or_iff_right_of_imp hzero]

theorem qualifies_of_plain (h : Plain raw instr) (ignorePredicate : Bool) :
    qualifies instr cpu ignorePredicate = true ↔ ignorePredicate = true ∨ cpu.getPR (IWord.qp raw).toFin = true := by
  have hloop : [InstructionType.BR_CLOOP, .BR_CTOP, .BR_CEXIT].contains instr.type = false := by
    have htype := h.type
    revert htype
    cases instr.type <;> decide
  rw [qualifies_eq h.predicate hloop, Bool.or_eq_true]
  rfl

theorem nullify_of_plain (h : Plain raw instr) : nullify instr cpu = cpu := by
  have htype : instr.type ≠ .FRCPA ∧ instr.type ≠ .FRSQRTA := by
    have hmem := h.type
    revert hmem
    cases instr.type <;> decide
  unfold nullify
  dsimp only
  rw [h.completer, if_neg (not_or.mpr htype), if_neg fun hunc => absurd hunc.1 (by decide)]

/-- What a word does, by the value that it writes. -/
theorem performsField_iff_of_writes {ip : UInt64} {value : BitVec 64}
    (h : Writes host raw cpu memory (decodeSlot raw .I_UNIT ip) value) (ignorePredicate : Bool) :
    PerformsField host raw ip op cpu memory ignorePredicate ↔
      (ignorePredicate = true ∨ cpu.getPR (IWord.qp raw).toFin = true →
        GRFile.Writable (cpu.mapGR (IWord.r1 raw).toFin) → value = op.value cpu.getGR) := by
  have hqualifies : qualifies (decodeSlot raw .I_UNIT ip) cpu ignorePredicate = true ↔ _ :=
    qualifies_of_plain h.plain ignorePredicate
  obtain ⟨nat, heffect⟩ := h.effect
  unfold PerformsField
  rw [execute_eq_sequential]
  unfold executeViewed
  by_cases hq : ignorePredicate = true ∨ cpu.getPR (IWord.qp raw).toFin = true
  · have hset := hqualifies.mpr hq
    simp only [hset, Bool.true_eq_false, if_false, heffect, hq, if_true, true_and, forall_const]
    rw [receives_iff]
    exact imp_congr_right fun _ => ⟨fun h => congrArg UInt64.toBitVec h, fun h => congrArg UInt64.ofBitVec h⟩
  · have hclear : qualifies (decodeSlot raw .I_UNIT ip) cpu ignorePredicate = false :=
      Bool.eq_false_iff.mpr (mt hqualifies.mp hq)
    simp only [hclear, if_true, nullify_of_plain h.plain, hq, if_false, false_implies, true_and]

end Execute

/-- **Shifts, extracts and deposits** write what they mean exactly when what is computed is that, or nothing is
written. -/
theorem performsField_iff {M F : Type} [IMemory M] : ∀ (host : ExecuteHost M F) (raw ip : UInt64) (op : FieldOp)
    (cpu : CPUState) (memory : M) (ignorePredicate : Bool), architectedFieldOp raw = some op →
    (PerformsField host raw ip op cpu memory ignorePredicate ↔
      (ignorePredicate = true ∨ cpu.getPR (IWord.qp raw).toFin = true →
        GRFile.Writable (cpu.mapGR (IWord.r1 raw).toFin) → op.Kept raw cpu.getGR)) := by
  intro host raw ip op cpu memory ignorePredicate h
  rw [performsField_iff_of_writes (writes_computed ip h),
    FieldOp.computed_eq_value_iff (FieldOp.placed_of_architected h)]

/-- `GR5` has its sign set, and the sign of its lowest byte; `GR6` is a count of 4 and `GR7` one of 64. -/
def fieldsCpu : CPUState := ((CPUState.reset.setGR 5 0x8000000000000080).setGR 6 4).setGR 7 64

/-- `shr.u r4 = r5, r6`. -/
theorem performsField_shrU : PerformsField flatHost 0xF20050C100 0 (.shrU 5 6) fieldsCpu sixteenMemory false :=
  (performsField_iff flatHost 0xF20050C100 0 (.shrU 5 6) fieldsCpu sixteenMemory false (by decide +kernel)).mpr
    fun _ _ => .inl (by decide +kernel)

/-- **Signs and counts that are lost**: `shr r4 = r5, r6`, `extr r4 = r5, 0, 8`, `shl r4 = r5, r7` and
`dep.z r4 = 5, 0, 8`. -/
theorem performsField_not :
    (architectedFieldOp 0xF22050C100 = some (.shr 5 6) ∧
        ¬ PerformsField flatHost 0xF22050C100 0 (.shr 5 6) fieldsCpu sixteenMemory false) ∧
      (architectedFieldOp 0xA438502100 = some (.extr 5 0 8) ∧
        ¬ PerformsField flatHost 0xA438502100 0 (.extr 5 0 8) fieldsCpu sixteenMemory false) ∧
      (architectedFieldOp 0xF24070A100 = some (.shl 5 7) ∧
        ¬ PerformsField flatHost 0xF24070A100 0 (.shl 5 7) fieldsCpu sixteenMemory false) ∧
      (architectedFieldOp 0xA63FF0A100 = some (.depZImm 5 0 8) ∧
        ¬ PerformsField flatHost 0xA63FF0A100 0 (.depZImm 5 0 8) fieldsCpu sixteenMemory false) := by
  have hfails : ∀ {raw : UInt64} {op : FieldOp}, architectedFieldOp raw = some op →
      GRFile.Writable (fieldsCpu.mapGR (IWord.r1 raw).toFin) → fieldsCpu.getPR (IWord.qp raw).toFin = true →
      op.computed raw fieldsCpu.getGR ≠ op.value fieldsCpu.getGR →
      architectedFieldOp raw = some op ∧ ¬ PerformsField flatHost raw 0 op fieldsCpu sixteenMemory false := by
    intro raw op hop hw hp hne
    refine ⟨hop, fun hperforms => hne ?_⟩
    exact (performsField_iff_of_writes (writes_computed 0 hop) false).mp hperforms (.inr hp) hw
  exact ⟨hfails (by decide +kernel) (by decide +kernel) (by decide +kernel) (by decide +kernel),
    hfails (by decide +kernel) (by decide +kernel) (by decide +kernel) (by decide +kernel),
    hfails (by decide +kernel) (by decide +kernel) (by decide +kernel) (by decide +kernel),
    hfails (by decide +kernel) (by decide +kernel) (by decide +kernel) (by decide +kernel)⟩

end GuideXOS.Isa
