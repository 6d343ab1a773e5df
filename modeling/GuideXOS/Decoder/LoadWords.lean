import GuideXOS.Decoder.DecodeSlot

/-!
# `LoadWords` — the integer loads and their variants

The words of the M unit that load a general register. The variants (speculative, advanced, biased, acquiring, filling,
checking) are told apart by the upper four bits of `x6`, the sizes by the lower two.
-/

namespace GuideXOS.Decoder
open Lib.Words

/-! ## Loads -/

inductive LoadKind
  | plain | s | a | sa | bias | acq | fill | cClr | cNc | cClrAcq
  deriving DecidableEq

/-- The loads that mark their target rather than fault. -/
def LoadKind.speculative : LoadKind → Bool
  | .s | .sa => true
  | _ => false

/-- A load, with what is added to its base afterwards: a register, an immediate or nothing. -/
structure Load where
  kind : LoadKind
  /-- The logarithm of the number of bytes. -/
  size : BitVec 2
  r1 : Fin 128
  r3 : Fin 128
  update : Option (Fin 128 ⊕ BitVec 9)
  deriving DecidableEq

def Load.bytes (load : Load) : Nat := 2 ^ load.size.toNat

/-- What is added to the base. -/
def Load.increment (load : Load) (gr : Fin 128 → UInt64) : Option UInt64 :=
  load.update.map fun
    | .inl r2 => gr r2
    | .inr imm9 => .ofBitVec (imm9.signExtend 64)

/-! ## Words -/

namespace MWord
variable (raw : UInt64)

def qp : BitVec 6 := raw.toBitVec.extractLsb' 0 6
def r1 : BitVec 7 := raw.toBitVec.extractLsb' 6 7
def r2 : BitVec 7 := raw.toBitVec.extractLsb' 13 7
def r3 : BitVec 7 := raw.toBitVec.extractLsb' 20 7
def x : BitVec 1 := raw.toBitVec.extractLsb' 27 1
def x6 : BitVec 6 := raw.toBitVec.extractLsb' 30 6
def m : BitVec 1 := raw.toBitVec.extractLsb' 36 1
def major : BitVec 4 := raw.toBitVec.extractLsb' 37 4
def imm9 : BitVec 9 :=
  raw.toBitVec.extractLsb' 36 1 ++ raw.toBitVec.extractLsb' 27 1 ++ raw.toBitVec.extractLsb' 13 7

end MWord

/-- The variant, by `x6`. A register is filled as a whole. -/
def loadKind (x6 : BitVec 6) : Option LoadKind :=
  match x6.toNat / 4 with
  | 0x0 => some .plain
  | 0x1 => some .s
  | 0x2 => some .a
  | 0x3 => some .sa
  | 0x4 => some .bias
  | 0x5 => some .acq
  | 0x6 => if x6 = 0x1B then some .fill else none
  | 0x8 => some .cClr
  | 0x9 => some .cNc
  | 0xA => some .cClrAcq
  | _ => none

/-- How the base is updated, by the major opcode and its extensions. -/
def loadUpdate (raw : UInt64) : Option (Option (Fin 128 ⊕ BitVec 9)) :=
  if MWord.major raw = 4 ∧ MWord.x raw = 0 then
    some (if MWord.m raw = 0 then none else some (.inl (MWord.r2 raw).toFin))
  else if MWord.major raw = 5 then some (some (.inr (MWord.imm9 raw)))
  else none

/-- **The load that a word encodes.** -/
def architectedLoad (raw : UInt64) : Option Load :=
  (loadKind (MWord.x6 raw)).bind fun kind =>
    (loadUpdate raw).map fun update =>
      { kind := kind
        size := (MWord.x6 raw).extractLsb' 0 2
        r1 := (MWord.r1 raw).toFin
        r3 := (MWord.r3 raw).toFin
        update := update }

/-! ## The decoder -/

/-- The operation of a load. -/
def loadInstruction (speculative : Bool) (size : BitVec 2) : InstructionType :=
  match size.toNat with
  | 0 => if speculative then .LD1_S else .LD1
  | 1 => if speculative then .LD2_S else .LD2
  | 2 => if speculative then .LD4_S else .LD4
  | _ => if speculative then .LD8_S else .LD8

theorem loadInstruction_inj {a b : Bool} (size : BitVec 2) :
    loadInstruction a size = loadInstruction b size ↔ a = b := by
  revert a b size
  decide

/-- The loads that the decoder takes for speculative ones: the bit it looks at is set in none that are. -/
def LoadKind.decodedSpeculative : LoadKind → Bool
  | .bias | .acq | .fill => true
  | _ => false

namespace MTypeDecoder

/-- **The variant as it is decoded**, for every `x6` that is a load. -/
theorem decodeLoad_kind (x6 : BitVec 6) (m : UInt8) (result : MFormat) : ∀ kind ∈ loadKind x6,
    UInt8.ofNat x6.toNat >>> 2 ≤ 0xA ∧ loadType (decodeLoad (UInt8.ofNat x6.toNat) m result) =
      some (loadInstruction kind.decodedSpeculative (x6.extractLsb' 0 2)) := by
  have hall : ∀ x6 : BitVec 6, ∀ kind ∈ loadKind x6, UInt8.ofNat x6.toNat >>> 2 ≤ 0xA ∧
      loadType { size := accessSize (UInt8.ofNat x6.toNat), speculative := UInt8.ofNat x6.toNat &&& 0x10 != 0 } =
        some (loadInstruction kind.decodedSpeculative (x6.extractLsb' 0 2)) := by decide +kernel
  exact hall x6

/-- The fields that every format has. -/
def start (raw : UInt64) : MFormat :=
  { qp := qualifyingPredicate raw
    r1 := field raw 6 7
    r2 := field raw 13 7
    r3 := field raw 20 7
    opcode := (majorOpcode raw <<< 4) ||| (field raw 30 6 &&& 0xF)
    m := field raw 36 1
    x := field raw 30 6
    hint := field raw 28 2 }

/-- A format of a load, with the registers of the word. -/
structure FormatOf (raw : UInt64) (type : InstructionType) (fmt : MFormat) : Prop where
  operation : fmt.operation = .LOAD
  type : loadType fmt = some type
  qp : fmt.qp = field raw 0 6
  r1 : fmt.r1 = field raw 6 7
  r3 : fmt.r3 = field raw 20 7

section Slot
variable {raw : UInt64} {load : Load}

/-- A bit is set or clear. -/
theorem field_bit (raw : UInt64) {start : Nat} (hs : start < 64) : field raw start 1 = 0 ∨ field raw start 1 = 1 := by
  have hiff : ∀ v : BitVec 1, field raw start 1 = UInt8.ofNat v.toNat ↔ raw.toBitVec.extractLsb' start 1 = v :=
    field_eq_iff raw hs (by simp)
  obtain h | h := BitVec.eq_zero_or_eq_one (raw.toBitVec.extractLsb' start 1)
  · exact .inl ((hiff 0).mpr h)
  · exact .inr ((hiff 1).mpr h)

theorem decode_major4 (h : majorOpcode raw = 4) :
    decode raw = decodeMajor4 raw (field raw 27 1) (field raw 30 6) (field raw 36 1) (start raw) := by
  unfold decode start
  simp only [h]
  rfl

theorem decode_major5 (h : majorOpcode raw = 5) :
    decode raw = decodeMajor5 raw (field raw 30 6) (field raw 36 1) (start raw) := by
  unfold decode start
  simp only [h]
  rfl

/-- **The format of a load.** -/
theorem decode_of_load (h : architectedLoad raw = some load) : (majorOpcode raw = 4 ∨ majorOpcode raw = 5) ∧
    ∃ fmt, decode raw = some fmt ∧
      FormatOf raw (loadInstruction load.kind.decodedSpeculative load.size) fmt := by
  obtain ⟨kind, hkind, hload⟩ := Option.bind_eq_some_iff.mp h
  obtain ⟨update, hupdate, rfl⟩ := Option.map_eq_some_iff.mp hload
  have hx6 : field raw 30 6 = UInt8.ofNat (MWord.x6 raw).toNat := field_eq raw (by simp) (by simp)
  -- the row is one of loads whatever else the word says
  have hrow : field raw 30 6 >>> 2 ≤ 0xA := by
    rw [hx6]
    exact (decodeLoad_kind _ 0 {} kind hkind).1
  have htype : ∀ m result, loadType (decodeLoad (field raw 30 6) m result) =
      some (loadInstruction kind.decodedSpeculative ((MWord.x6 raw).extractLsb' 0 2)) := by
    intro m result
    rw [hx6]
    exact (decodeLoad_kind _ m result kind hkind).2
  unfold loadUpdate at hupdate
  split at hupdate
  · next hword =>
    have hmajor : majorOpcode raw = 4 := (field_eq_iff raw (by simp) (by simp) 4).mpr hword.1
    have hx : field raw 27 1 = 0 := (field_eq_iff raw (by simp) (by simp) 0).mpr hword.2
    refine ⟨.inl hmajor, ?_⟩
    rw [decode_major4 hmajor, hx]
    unfold decodeMajor4
    dsimp only
    obtain hm | hm := field_bit raw (by simp : 36 < 64)
    · refine ⟨decodeLoad (field raw 30 6) (field raw 36 1) (start raw), ?_, rfl,
        htype (field raw 36 1) (start raw), rfl, rfl, rfl⟩
      simp [hm, hrow]
    · refine ⟨{ decodeLoad (field raw 30 6) (field raw 36 1) (start raw) with regUpdate := true }, ?_, rfl,
        htype (field raw 36 1) (start raw), rfl, rfl, rfl⟩
      simp [hm, hrow]
  · split at hupdate
    · next hword =>
      have hmajor : majorOpcode raw = 5 := (field_eq_iff raw (by simp) (by simp) 5).mpr hword
      refine ⟨.inr hmajor, ?_⟩
      rw [decode_major5 hmajor]
      unfold decodeMajor5
      dsimp only
      rw [if_pos hrow]
      exact ⟨_, rfl, rfl, htype (field raw 36 1) (start raw), rfl, rfl, rfl⟩
    · cases hupdate

/-- A load as it is decoded, but for its increment. -/
structure DecodesLoad (raw : UInt64) (load : Load) (instr : InstructionEx) : Prop where
  type : instr.type = loadInstruction load.kind.decodedSpeculative load.size
  predicate : instr.predicate = field raw 0 6
  dst : instr.dst = field raw 6 7
  src1 : instr.src1 = field raw 20 7

theorem withImm9_eq (fmt : MFormat) (instr : InstructionEx) : withImm9 fmt instr =
    { instr with
      immediate := (withImm9 fmt instr).immediate
      hasImmediate := (withImm9 fmt instr).hasImmediate } := by
  unfold withImm9
  split <;> rfl

/-- **Every word that loads** is decoded to a load of its size. -/
theorem decodesLoad (h : architectedLoad raw = some load) (ip : UInt64) :
    DecodesLoad raw load (decodeSlot raw .M_UNIT ip) := by
  obtain ⟨hmajor, fmt, hdecode, hfmt⟩ := decode_of_load h
  have hne : (majorOpcode raw ≠ 0 ∧ majorOpcode raw ≠ 1) ∧ majorOpcode raw ≤ 7 := by
    obtain h | h := hmajor <;> rw [h] <;> decide
  have hM : DecodeSlot.decodeM raw ip = toInstruction fmt := by
    rw [DecodeSlot.decodeM_of_major hne.1, if_pos hne.2, hdecode]
    rfl
  have hinstr : toInstruction fmt = some (withImm9 fmt ((instruction fmt
      (loadInstruction load.kind.decodedSpeculative load.size)).setOperands fmt.r1 fmt.r3
      (if fmt.regUpdate then fmt.r2 else 0))) := by
    unfold toInstruction
    rw [hfmt.operation, hfmt.type]
    rfl
  unfold decodeSlot DecodeSlot.decodeUnit
  dsimp only
  rw [hM, hinstr, withImm9_eq]
  exact ⟨rfl, hfmt.qp, hfmt.r1, hfmt.r3⟩

end Slot

end MTypeDecoder

end GuideXOS.Decoder
