import GuideXOS.Decoder.Agreement

/-!
# `Recognition` — words that no row takes

The other decoders against their rows, and then the units. An unrecognised word is `UNKNOWN` unless it falls through to
a default or to a tag that is some operation's.
-/

namespace GuideXOS.Decoder

/-! ## The M-type -/

namespace MTypeDecoder

theorem type_withImm9 (fmt : MFormat) (instr : InstructionEx) : (withImm9 fmt instr).type = instr.type := by
  simp only [withImm9]
  split <;> rfl

/-- The operations with one type each. -/
theorem typeOf_toInstruction (fmt : MFormat) (h : operationType fmt.operation ≠ .UNKNOWN) :
    typeOf (toInstruction fmt) = operationType fmt.operation := by
  cases hop : fmt.operation <;> simp_all [operationType, toInstruction, instruction]

theorem registerMove_type {x6 : UInt8} {op : MemOp} (h : registerMove x6 = some op) :
    operationType op ≠ .UNKNOWN := by
  simp only [registerMove] at h
  split at h <;> cases h <;> decide

theorem ordering_type {x6 : UInt8} {op : MemOp} (h : ordering x6 = some op) : operationType op ≠ .UNKNOWN := by
  simp only [ordering] at h
  split at h <;> cases h <;> decide

theorem accessSize_cases (x6 : UInt8) :
    accessSize x6 = .SIZE_1 ∨ accessSize x6 = .SIZE_2 ∨ accessSize x6 = .SIZE_4 ∨ accessSize x6 = .SIZE_8 := by
  simp only [accessSize]
  split <;> simp

variable {fmt : MFormat} {falls : Prop}

theorem agrees_load (x6 : UInt8) (hop : fmt.operation = .LOAD) (hsize : fmt.size = accessSize x6) :
    Agrees (typeOf ((some fmt).bind toInstruction)) (some loadTypes) falls := by
  refine Agrees.of_mem ?_
  rcases accessSize_cases x6 with h | h | h | h <;> cases hspec : fmt.speculative <;>
    simp [toInstruction, hop, loadType, hsize, h, hspec, type_withImm9, instruction, loadTypes]

theorem agrees_store (x6 : UInt8) (hop : fmt.operation = .STORE) (hsize : fmt.size = accessSize x6) :
    Agrees (typeOf ((some fmt).bind toInstruction)) (some storeTypes) falls := by
  refine Agrees.of_mem ?_
  rcases accessSize_cases x6 with h | h | h | h <;>
    simp [toInstruction, hop, storeType, hsize, h, type_withImm9, instruction, storeTypes]

theorem agrees_lfetch (hop : fmt.operation = .LFETCH) :
    Agrees (typeOf ((some fmt).bind toInstruction)) (some [.LFETCH]) falls := by
  refine Agrees.of_mem ?_
  simp [toInstruction, hop, type_withImm9, instruction]

/-- A row found in a table, where every entry has one type. -/
theorem agrees_table {table : Option MemOp} (hsome : table.isSome) (hop : fmt.operation = table.getD .LOAD)
    (htype : ∀ op, table = some op → operationType op ≠ .UNKNOWN) :
    Agrees (typeOf ((some fmt).bind toInstruction)) (table.map fun op => [operationType op]) falls := by
  obtain ⟨op, rfl⟩ := Option.isSome_iff_exists.mp hsome
  have hfmt : fmt.operation = op := hop
  refine Agrees.of_mem ?_
  rw [Option.bind_some, typeOf_toInstruction fmt (by rw [hfmt]; exact htype op rfl), hfmt]
  exact List.mem_singleton.mpr rfl

variable (raw : UInt64)

theorem agrees_system (result : MFormat) (hm : result.m = field raw 36 1)
    (hqp : result.qp = qualifyingPredicate raw) :
    Agrees (typeOf ((decodeSystem raw result).bind toInstruction)) (systemRow raw) False := by
  simp only [decodeSystem, systemRow, hm, hqp]
  refine Agrees.ite_bind (fun hc => ?_) fun _ => ?_
  · exact agrees_table hc.2 rfl fun op => ordering_type
  refine Agrees.ite_bind (fun _ => ?_) fun _ => ?_
  · refine Agrees.of_mem ?_
    by_cases h6 : field raw 27 4 = 6 <;> simp [toInstruction, instruction, h6]
  refine Agrees.ite_bind (fun _ => Agrees.of_mem (by simp [toInstruction, instruction])) fun _ => ?_
  refine Agrees.ite_bind (fun _ => Agrees.of_mem (by simp [toInstruction])) fun _ => ?_
  refine Agrees.ite_bind (fun _ => Agrees.of_mem (by simp [toInstruction])) fun _ => ?_
  exact Agrees.of_iff (by simp)

theorem agrees_major4 (x x6 m : UInt8) (result : MFormat) :
    Agrees (typeOf ((decodeMajor4 raw x x6 m result).bind toInstruction)) (major4Row x x6 m) False := by
  simp only [decodeMajor4, major4Row]
  refine Agrees.ite_bind (fun _ => ?_) fun _ => ?_
  · refine Agrees.of_mem ?_
    cases h : x6 == 0x1D <;> simp [toInstruction, instruction]
  refine Agrees.ite_bind (fun _ => ?_) fun _ => ?_
  · refine Agrees.of_mem ?_
    cases h : x6 == 0x06 || x6 == 0x07 <;> by_cases hw : x6 &&& 0x01 ≠ 0 <;>
      simp [toInstruction, exchangeType, instruction, hw]
  refine Agrees.ite_bind (fun hc => ?_) fun _ => ?_
  · rcases hc.2.2 with h | h | h | h <;> subst h
    · exact Agrees.of_iff (by simp +decide [toInstruction])
    · exact Agrees.of_iff (by simp +decide [toInstruction])
    · exact Agrees.of_mem (by simp +decide [toInstruction, instruction])
    · exact Agrees.of_iff (by simp +decide [toInstruction])
  refine Agrees.ite_bind (fun _ => ?_) fun _ => ?_
  · refine Agrees.of_mem ?_
    cases h : x6 == 0x16 <;> simp [toInstruction, instruction]
  refine Agrees.ite_bind (fun _ => agrees_load x6 rfl rfl) fun _ => ?_
  refine Agrees.ite_bind (fun _ => agrees_store x6 rfl rfl) fun _ => ?_
  refine Agrees.ite_bind (fun _ => agrees_load x6 rfl rfl) fun _ => ?_
  exact Agrees.of_iff (by simp)

theorem agrees_major5 (x6 m : UInt8) (result : MFormat) :
    Agrees (typeOf ((decodeMajor5 raw x6 m result).bind toInstruction)) (major5Row x6) False := by
  refine Agrees.ite_bind (fun _ => agrees_load x6 rfl rfl) fun _ => ?_
  refine Agrees.ite_bind (fun _ => agrees_store x6 rfl rfl) fun _ => ?_
  exact Agrees.of_iff (by simp)

/-- The one `default` of the M unit: what is no prefetch and no move is a load of some width. -/
theorem agrees_major6 (x x6 m : UInt8) (result : MFormat) :
    Agrees (typeOf ((some (decodeMajor6 x x6 m result)).bind toInstruction)) (major6Row x x6 m) True := by
  refine Agrees.ite (fun fmt => typeOf ((some fmt).bind toInstruction)) (fun _ => agrees_lfetch rfl) fun _ => ?_
  refine Agrees.ite (fun fmt => typeOf ((some fmt).bind toInstruction)) (fun _ => ?_) fun _ => ?_
  · exact Agrees.of_mem (by simp [toInstruction, instruction])
  refine Agrees.of_iff ?_
  have hload := (agrees_load x6 rfl rfl :
    Agrees (typeOf ((some (decodeLoad x6 m result)).bind toInstruction)) _ True).row _ rfl
  generalize typeOf ((some (decodeLoad x6 m result)).bind toInstruction) = type at hload
  revert hload
  cases type <;> decide

theorem agrees_major7 (x6 : UInt8) (result : MFormat) :
    Agrees (typeOf ((decodeMajor7 raw x6 result).bind toInstruction)) (major7Row x6) False := by
  refine Agrees.ite_bind (fun _ => agrees_lfetch rfl) fun _ => ?_
  refine Agrees.ite_bind (fun _ => ?_) fun _ => ?_
  · exact Agrees.of_mem (by simp [toInstruction, instruction])
  refine Agrees.ite_bind (fun _ => Agrees.of_iff (by simp)) fun _ => ?_
  refine Agrees.of_mem ?_
  by_cases hspill : x6 = 0x3B <;> simp [toInstruction, instruction, hspill]

theorem agrees : Agrees (typeOf ((decode raw).bind toInstruction)) (row raw) (majorOpcode raw = 6) := by
  refine Agrees.ite_bind (fun hc => ?_) fun _ => ?_
  · exact agrees_table hc.2.2.2 rfl fun op => registerMove_type
  refine Agrees.ite_bind (fun hc => ?_) fun _ => ?_
  · exact (agrees_system raw _ rfl rfl).congr (by simp [hc.1])
  refine Agrees.ite_bind (fun h1 => ?_) fun _ => ?_
  · refine Agrees.of_iff ?_
    simp only [decodeAlloc, h1]
    split <;> simp [toInstruction]
  refine Agrees.ite_bind (fun h4 => ?_) fun _ => ?_
  · exact (agrees_major4 raw _ _ _ _).congr (by simp [h4])
  refine Agrees.ite_bind (fun h5 => ?_) fun _ => ?_
  · exact (agrees_major5 raw _ _ _).congr (by simp [h5])
  refine Agrees.ite_bind (fun h6 => ?_) fun h6 => ?_
  · exact (agrees_major6 _ _ _ _).congr (by simp [h6])
  refine Agrees.ite_bind (fun h7 => ?_) fun _ => ?_
  · exact (agrees_major7 raw _ _).congr (by simp [h7])
  exact Agrees.of_iff (by simp [h6])

end MTypeDecoder

/-! ## The B-type -/

namespace BTypeDecoder

theorem type_toInstruction (fmt : BFormat) : (toInstruction fmt).type = instructionType fmt.type := by
  simp only [toInstruction, withOperands]
  cases formImmediate fmt.type <;> repeat' split
  all_goals rfl

section
variable (raw ip : UInt64) (btype x6 : UInt8) {result : BFormat} (h : result.type = .COND)
include h

/-- Word and address make no difference to the type, and neither does the rest of the format. -/
theorem type_decodeMajor0 : (decodeMajor0 raw btype x6 ip result).type = (decodeMajor0 0 btype x6 0 {}).type := by
  simp only [decodeMajor0, decodeIndirect, decodeIPRelative, h]
  repeat' split
  all_goals rfl

theorem type_decodeMajor4 : (decodeMajor4 raw btype x6 ip result).type = (decodeMajor4 0 btype x6 0 {}).type := by
  simp only [decodeMajor4, decodeIndirect, decodeIPRelative, h]
  repeat' split
  all_goals rfl

end

theorem agrees_values (b : Nat) (hb : b < 8) (n : Nat) (hn : n < 64) :
    Agrees (instructionType (decodeMajor0 0 (UInt8.ofNat b) (UInt8.ofNat n) 0 {}).type)
        (major0Row (UInt8.ofNat b) (UInt8.ofNat n)) True ∧
      Agrees (instructionType (decodeMajor4 0 (UInt8.ofNat b) (UInt8.ofNat n) 0 {}).type)
        (major4Row (UInt8.ofNat b) (UInt8.ofNat n)) True ∧
      Agrees (instructionType (indirectType (UInt8.ofNat n))) (indirectRow (UInt8.ofNat n)) True := by
  revert b n
  decide +kernel

theorem agrees_special {x6 : UInt8} {fmt : BFormat} {falls : Prop} (hsome : (specialType x6).isSome)
    (hfmt : fmt.type = (specialType x6).getD .COND) :
    Agrees (toInstruction fmt).type ((specialType x6).map fun type => [instructionType type]) falls := by
  obtain ⟨type, htype⟩ := Option.isSome_iff_exists.mp hsome
  rw [type_toInstruction, hfmt, htype]
  exact Agrees.of_mem (List.mem_singleton.mpr rfl)

theorem agrees (raw ip : UInt64) :
    Agrees (typeOf ((decode raw ip).map toInstruction)) (row raw)
      (majorOpcode raw = 0 ∨ majorOpcode raw = 1 ∨ majorOpcode raw = 4) := by
  obtain ⟨b, hb, hbtype⟩ := exists_field raw 6 3 (by decide) (by decide)
  obtain ⟨n, hn, hx6⟩ := exists_field raw 27 6 (by decide) (by decide)
  obtain ⟨major0, major4, indirect⟩ := agrees_values b hb n hn
  rw [← hbtype, ← hx6] at major0 major4
  rw [← hx6] at indirect
  refine Agrees.ite_map (fun hc => agrees_special hc.2 rfl) fun _ => ?_
  refine Agrees.ite_map (fun hc => ?_) fun _ => ?_
  · refine Agrees.of_mem ?_
    rw [Option.map_some, typeOf_some, type_toInstruction]
    rcases hc.2 with h | h <;> simp [h, instructionType]
  refine Agrees.ite_map (fun h0 => ?_) fun h0 => ?_
  · rw [Option.map_some, typeOf_some, type_toInstruction, type_decodeMajor0 raw ip _ _ rfl]
    exact major0.congr (by simp [h0])
  refine Agrees.ite_map (fun h4 => ?_) fun h4 => ?_
  · rw [Option.map_some, typeOf_some, type_toInstruction, type_decodeMajor4 raw ip _ _ rfl]
    exact major4.congr (by simp [h4])
  refine Agrees.ite_map (fun _ => ?_) fun _ => ?_
  · refine Agrees.of_mem ?_
    rw [Option.map_some, typeOf_some, type_toInstruction]
    by_cases h5 : field raw 6 3 = 5 <;> simp [h5, instructionType]
  refine Agrees.ite_map (fun h1 => ?_) fun h1 => ?_
  · rw [Option.map_some, typeOf_some, type_toInstruction]
    exact indirect.congr (by simp [h1])
  exact Agrees.of_iff (by simp [h0, h1, h4])

end BTypeDecoder

/-! ## The F- and X-types -/

namespace FTypeDecoder

/-- What stays the no-op the decoder starts with. -/
def FallsThrough (slot : UInt64) : Prop :=
  majorOpcode slot = 0 ∨ majorOpcode slot = 9 ∨ majorOpcode slot = 0xB ∨ majorOpcode slot = 0xD ∨
    (majorOpcode slot = 0xE ∧ field slot 36 1 ≠ 1)

@[simp] theorem type_setTwoSources (inst : InstructionEx) (slot : UInt64) :
    (setTwoSources inst slot).type = inst.type := rfl

@[simp] theorem type_setMultiplyAdd (inst : InstructionEx) (slot : UInt64) :
    (setMultiplyAdd inst slot).type = inst.type := rfl

variable (slot : UInt64)

theorem type_start : (start slot).type = .NOP := rfl

theorem agrees_major0 : Agrees (decodeMajor0 slot).type (major0Row slot) True := by
  simp only [decodeMajor0, major0Row]
  refine Agrees.ite_row (by simp) fun _ => ?_
  refine Agrees.ite InstructionEx.type (fun _ => Agrees.of_iff (by simp [type_start])) fun _ => ?_
  exact Agrees.ite_row (by simp) fun _ => Agrees.of_mem (by simp)

theorem agrees_multiplyAdd (opcode : UInt8) :
    Agrees (multiplyAdd slot opcode).type
      (if field slot 36 1 ≠ 0 ∧ (opcode = 0x9 ∨ opcode = 0xB ∨ opcode = 0xD) then none
      else some [if opcode = 0x8 ∨ opcode = 0x9 then .FMA else if opcode = 0xA ∨ opcode = 0xB then .FMS else .FNMA])
      (opcode = 0x9 ∨ opcode = 0xB ∨ opcode = 0xD) := by
  refine Agrees.ite InstructionEx.type (fun hc => Agrees.of_iff (by simp [type_start, hc.2])) fun _ => ?_
  exact Agrees.of_mem (by simp)

theorem agrees_fixedPoint : Agrees (fixedPoint slot).type (fixedPointRow slot) (field slot 36 1 ≠ 1) := by
  refine Agrees.ite InstructionEx.type (fun hc => Agrees.of_iff (by simp [type_start, hc])) fun hc => ?_
  obtain ⟨n, hn, hx2⟩ := exists_field slot 34 2 (by decide) (by decide)
  rw [type_setMultiplyAdd, hx2]
  interval_cases n
  · exact Agrees.of_mem (List.mem_singleton.mpr rfl)
  · exact Agrees.of_iff ⟨fun _ => hc, fun _ => rfl⟩
  · exact Agrees.of_mem (List.mem_singleton.mpr rfl)
  · exact Agrees.of_mem (List.mem_singleton.mpr rfl)

theorem agrees : Agrees (decode slot).type (row slot) (FallsThrough slot) := by
  show Agrees (decodeMajor slot).type (row slot) (FallsThrough slot)
  refine Agrees.ite InstructionEx.type (fun hc => ?_) fun hc => ?_
  · have h0 : majorOpcode slot ≠ 0 := fun h => absurd (h ▸ hc.1) (by decide)
    have hE : majorOpcode slot ≠ 0xE := fun h => absurd (h ▸ hc.2) (by decide)
    exact (agrees_multiplyAdd slot (majorOpcode slot)).congr (by simp [FallsThrough, h0, hE])
  refine Agrees.ite_row (by simp) fun _ => ?_
  refine Agrees.ite_row (by simp) fun _ => ?_
  refine Agrees.ite InstructionEx.type (fun h0 => ?_) fun h0 => ?_
  · exact (agrees_major0 slot).congr (by simp [FallsThrough, h0])
  refine Agrees.ite InstructionEx.type (fun _ => ?_) fun _ => ?_
  · by_cases hx : field slot 33 1 = 0 <;> exact Agrees.of_mem (by simp [hx])
  refine Agrees.ite_row (by simp) fun _ => ?_
  refine Agrees.ite InstructionEx.type (fun hE => ?_) fun hE => ?_
  · exact (agrees_fixedPoint slot).congr (by simp [FallsThrough, hE])
  -- no multiply-add is left
  have h9 : majorOpcode slot ≠ 0x9 := fun h => hc (by rw [h]; decide)
  have hB : majorOpcode slot ≠ 0xB := fun h => hc (by rw [h]; decide)
  have hD : majorOpcode slot ≠ 0xD := fun h => hc (by rw [h]; decide)
  exact Agrees.of_iff (by simp [FallsThrough, h0, h9, hB, hD, hE])

end FTypeDecoder

namespace XTypeDecoder

def FallsThrough (slot : UInt64) : Prop := majorOpcode slot = 0 ∨ 0xC ≤ majorOpcode slot

theorem agrees (slot : UInt64) : Agrees (decode slot).type (row slot) (FallsThrough slot) := by
  show Agrees (decodeMajor slot).type (row slot) (FallsThrough slot)
  refine Agrees.ite InstructionEx.type (fun h0 => ?_) fun h0 => ?_
  · split
    · exact Agrees.of_mem (by simp)
    · exact Agrees.of_iff (by simp [FallsThrough, h0])
  refine Agrees.ite InstructionEx.type (fun _ => ?_) fun _ => ?_
  · refine Agrees.of_mem ?_
    by_cases himm : extractBits slot 6 27 = 0 <;> simp [start, himm]
  refine Agrees.ite_row (by simp) fun _ => ?_
  split
  · next hc => exact Agrees.of_iff (by simp [start, FallsThrough, hc.1])
  · next hc =>
    -- an opcode has four bits
    have hlt : (majorOpcode slot).toNat < 2 ^ 4 := field_lt slot 37 (by decide) (by decide)
    have hle : majorOpcode slot ≤ 0xF := UInt8.le_iff_toNat_le.mpr (Nat.le_of_lt_succ hlt)
    have hC : ¬ 0xC ≤ majorOpcode slot := fun h => hc ⟨h, hle⟩
    exact Agrees.of_iff (by simp [FallsThrough, h0, hC])

end XTypeDecoder

/-! ## The units -/

namespace DecodeSlot

/-- What becomes of the words of a unit when no row takes them: these are read as something. -/
def FallsThrough (unit : UnitType) (raw : UInt64) : Prop :=
  let major := majorOpcode raw
  let alu := major = 8 ∧ ATypeDecoder.FallsThrough (field raw 34 2) (field raw 29 4)
  match unit with
  | .M_UNIT => alu ∨ major = 6
  | .I_UNIT => alu ∨ ITypeDecoder.FallsThrough major (field raw 34 2) (field raw 27 6)
  | .B_UNIT => major = 0 ∨ major = 1 ∨ major = 4
  | .F_UNIT => FTypeDecoder.FallsThrough raw
  | .L_UNIT => False
  | .X_UNIT => XTypeDecoder.FallsThrough raw
  | .INVALID => False

/-- An unrecognised word that is executed as some operation. -/
def Misread (unit : UnitType) (raw : UInt64) : Prop := row unit raw = none ∧ FallsThrough unit raw

variable (raw : UInt64)

theorem agrees_aType {falls : Prop} (h7 : ¬ majorOpcode raw ≤ 0x7)
    (h : majorOpcode raw ≠ 6 → majorOpcode raw ≠ 0 → majorOpcode raw ≠ 5 → majorOpcode raw ≠ 7 →
      (falls ↔ majorOpcode raw = 8 ∧ ATypeDecoder.FallsThrough (field raw 34 2) (field raw 29 4))) :
    Agrees (typeOf (decodeAType raw)) (ATypeDecoder.row raw) falls := by
  have hne : ∀ k : UInt8, k ≤ 7 → majorOpcode raw ≠ k := fun k hk h => h7 (h ▸ hk)
  exact (ATypeDecoder.agrees raw).congr
    (h (hne 6 (by decide)) (hne 0 (by decide)) (hne 5 (by decide)) (hne 7 (by decide))).symm

theorem agrees_M (ip : UInt64) : Agrees (typeOf (decodeM raw ip)) (rowM raw) (FallsThrough .M_UNIT raw) := by
  refine Agrees.ite_row (by simp [alloc]) fun _ => ?_
  refine Agrees.ite_row (by simp [movToArImm, predicated]) fun _ => ?_
  refine Agrees.ite_row (by simp [predicated]) fun _ => ?_
  refine Agrees.ite_row (by simp [movToAr, predicated]) fun _ => ?_
  refine Agrees.ite_row (by simp [movFromAr, predicated]) fun _ => ?_
  refine Agrees.ite_row (by simp [chkA, predicated]) fun _ => ?_
  refine Agrees.ite_row (by simp [chkA, predicated]) fun _ => ?_
  refine Agrees.ite_row (by simp [movToAr, predicated]) fun _ => ?_
  refine Agrees.ite_row (by simp [movFromAr, predicated]) fun _ => ?_
  refine Agrees.ite typeOf (fun h7 => ?_) fun h7 => ?_
  · have h8 : majorOpcode raw ≠ 8 := fun h => absurd (h ▸ h7) (by decide)
    exact (MTypeDecoder.agrees raw).congr (by simp [FallsThrough, h8])
  · exact agrees_aType raw h7 fun h6 _ _ _ => by simp [FallsThrough, h6]

theorem agrees_I : Agrees (typeOf (decodeI raw)) (rowI raw) (FallsThrough .I_UNIT raw) := by
  refine Agrees.ite_row (by simp [alloc]) fun _ => ?_
  refine Agrees.ite_row (by simp [predicated]) fun _ => ?_
  refine Agrees.ite_row (by simp) fun _ => ?_
  refine Agrees.ite_row (by simp [movToPr, predicated]) fun _ => ?_
  refine Agrees.ite_row (by simp [movToPrRot, predicated]) fun _ => ?_
  refine Agrees.ite_row (by simp) fun _ => ?_
  refine Agrees.ite_row (by simp) fun _ => ?_
  refine Agrees.ite_row (by simp) fun _ => ?_
  refine Agrees.ite_row (by simp) fun _ => ?_
  refine Agrees.ite_row (by simp [movToArImm, predicated]) fun _ => ?_
  refine Agrees.ite_row (by simp [movFromAr, predicated]) fun _ => ?_
  refine Agrees.ite_row (by simp [movToAr, predicated]) fun _ => ?_
  refine Agrees.ite_row (by simp [movFromAr, predicated]) fun _ => ?_
  refine Agrees.ite typeOf (fun h7 => ?_) fun h7 => ?_
  · have h8 : majorOpcode raw ≠ 8 := fun h => absurd (h ▸ h7) (by decide)
    exact (ITypeDecoder.agrees raw).congr (by simp [FallsThrough, h8])
  · exact agrees_aType raw h7 fun _ h0 h5 h7' => by simp [FallsThrough, ITypeDecoder.FallsThrough, h0, h5, h7']

theorem agrees_B (ip : UInt64) : Agrees (typeOf (decodeB raw ip)) (rowB raw) (FallsThrough .B_UNIT raw) := by
  refine Agrees.ite_row (by simp) fun _ => ?_
  refine Agrees.ite_row (by simp) fun _ => ?_
  refine Agrees.ite typeOf (fun _ => BTypeDecoder.agrees raw ip) fun h5 => ?_
  have hne : ∀ k : UInt8, k ≤ 5 → majorOpcode raw ≠ k := fun k hk h => h5 (h ▸ hk)
  exact Agrees.of_iff (by simp [FallsThrough, hne 0 (by decide), hne 1 (by decide), hne 4 (by decide)])

theorem agrees_F : Agrees (decodeF raw).type (rowF raw) (FallsThrough .F_UNIT raw) :=
  Agrees.ite_row (by simp [predicated]) fun _ => FTypeDecoder.agrees raw

theorem agrees_unit (unit : UnitType) (raw ip : UInt64) :
    Agrees (typeOf (decodeUnit raw unit ip)) (row unit raw) (FallsThrough unit raw) := by
  cases unit with
  | M_UNIT => exact agrees_M raw ip
  | I_UNIT => exact agrees_I raw
  | B_UNIT => exact agrees_B raw ip
  | F_UNIT => exact agrees_F raw
  | L_UNIT => exact Agrees.of_mem (by simp [decodeUnit])
  | X_UNIT => exact XTypeDecoder.agrees raw
  | INVALID => exact Agrees.of_iff (by simp [decodeUnit, FallsThrough])

end DecodeSlot

theorem type_decodeSlot (raw : UInt64) (unit : UnitType) (ip : UInt64) :
    (decodeSlot raw unit ip).type = typeOf (DecodeSlot.decodeUnit raw unit ip) := by
  rw [decodeSlot, InstructionEx.type_setRawBits]
  cases DecodeSlot.decodeUnit raw unit ip <;> rfl

/-- **A word that no row takes decodes to `UNKNOWN`, and any other to an operation of its row, exactly when it is not one
of those that fall through.** -/
theorem decodeSlot_reads_iff (raw : UInt64) (unit : UnitType) (ip : UInt64) :
    Reads (DecodeSlot.row unit raw) (decodeSlot raw unit ip).type ↔ ¬ DecodeSlot.Misread unit raw := by
  rw [type_decodeSlot]
  exact (DecodeSlot.agrees_unit unit raw ip).reads_iff

/-- A parallel add, major opcode 8 with `x2a = 1`, is executed as an addition. -/
theorem decodeSlot_not_reads :
    (decodeSlot 0x10400000000 .I_UNIT 0).type = .ADD ∧
      ¬ Reads (DecodeSlot.row .I_UNIT 0x10400000000) (decodeSlot 0x10400000000 .I_UNIT 0).type := by
  have hrow : DecodeSlot.row .I_UNIT 0x10400000000 = none := by decide +kernel
  have htype : (decodeSlot 0x10400000000 .I_UNIT 0).type = .ADD := by decide +kernel
  refine ⟨htype, ?_⟩
  rw [hrow, htype]
  show ¬ InstructionType.ADD = .UNKNOWN
  decide

end GuideXOS.Decoder
