import GuideXOS.Decoder.DecodeSlot

/-!
# `CompareWords` — the compares of the A-type

The words of the M and the I unit that compare: the relation, the operands and how the two target predicates are
updated. The decoder has one operation for each relation and width, and a completer for the update. It finds those of
the word, except that nothing above zero, unsigned, is taken for nothing but zero.
-/

namespace GuideXOS.Decoder

/-! ## Compares -/

inductive Relation
  | eq | ne | lt | ltu | le | gt | ge
  deriving DecidableEq

def Relation.holds {n : Nat} (x y : BitVec n) : Relation → Bool
  | .eq => x == y
  | .ne => x != y
  | .lt => x.slt y
  | .ltu => x.ult y
  | .le => x.sle y
  | .gt => y.slt x
  | .ge => y.sle x

/-- How the targets are updated. -/
inductive CompareType
  | normal | unc | and | or | orAndcm
  deriving DecidableEq

/-- A target of a compare, by its result: the first one or the second, or not written. -/
def CompareType.target (result : Bool) : CompareType → Option (Bool × Bool)
  | .normal | .unc => some (result, !result)
  | .and => if result then none else some (false, false)
  | .or => if result then some (true, true) else none
  | .orAndcm => if result then some (true, false) else none

structure Compare where
  relation : Relation
  type : CompareType
  /-- Only the lower halves of the operands are compared. -/
  narrow : Bool
  first : Fin 128 ⊕ BitVec 8
  second : Fin 128
  p1 : Fin 64
  p2 : Fin 64
  deriving DecidableEq

namespace Compare
variable (cmp : Compare)

def operand (gr : Fin 128 → UInt64) : BitVec 64 :=
  match cmp.first with
  | .inl r => (gr r).toBitVec
  | .inr imm8 => imm8.signExtend 64

/-- **Whether the relation holds.** -/
def result (gr : Fin 128 → UInt64) : Bool :=
  if cmp.narrow then cmp.relation.holds ((cmp.operand gr).setWidth 32) ((gr cmp.second).toBitVec.setWidth 32)
  else cmp.relation.holds (cmp.operand gr) (gr cmp.second).toBitVec

/-- What is written to the targets. Without its qualifying predicate only an unconditional compare writes. -/
def written (qualified : Bool) (gr : Fin 128 → UInt64) : Option (Bool × Bool) :=
  if qualified then cmp.type.target (cmp.result gr)
  else if cmp.type = .unc then some (false, false)
  else none

/-- **The predicates afterwards.** The first one cannot be written. -/
def predicate (qualified : Bool) (gr : Fin 128 → UInt64) (pr : Fin 64 → Bool) (i : Fin 64) : Bool :=
  match cmp.written qualified gr with
  | none => pr i
  | some (b1, b2) => if i = 0 then pr i else if i = cmp.p1 then b1 else if i = cmp.p2 then b2 else pr i

end Compare

/-! ## Words -/

namespace CWord
variable (raw : UInt64)

def qp : BitVec 6 := raw.toBitVec.extractLsb' 0 6
def p1 : BitVec 6 := raw.toBitVec.extractLsb' 6 6
def c : BitVec 1 := raw.toBitVec.extractLsb' 12 1
def r2 : BitVec 7 := raw.toBitVec.extractLsb' 13 7
def r3 : BitVec 7 := raw.toBitVec.extractLsb' 20 7
def p2 : BitVec 6 := raw.toBitVec.extractLsb' 27 6
def ta : BitVec 1 := raw.toBitVec.extractLsb' 33 1
def x2 : BitVec 2 := raw.toBitVec.extractLsb' 34 2
def tb : BitVec 1 := raw.toBitVec.extractLsb' 36 1
def major : BitVec 4 := raw.toBitVec.extractLsb' 37 4
def imm8 : BitVec 8 := raw.toBitVec.extractLsb' 36 1 ++ raw.toBitVec.extractLsb' 13 7

end CWord

/-- The relation of the compares that are not parallel. -/
def normalRelation (major : BitVec 4) : Relation :=
  if major = 0xC then .lt else if major = 0xD then .ltu else .eq

def zeroRelation (ta c : BitVec 1) : Relation :=
  if ta = 0 then if c = 0 then .gt else .le else if c = 0 then .ge else .lt

def parallelType (major : BitVec 4) : CompareType :=
  if major = 0xC then .and else if major = 0xD then .or else .orAndcm

/-- The relation and the update, by the extensions. A compare to zero names the zero register. -/
def compareForm (major : BitVec 4) (x2 : BitVec 2) (ta tb c : BitVec 1) (zero : Bool) :
    Option (Relation × CompareType) :=
  if major = 0xC ∨ major = 0xD ∨ major = 0xE then
    if (x2 = 0 ∨ x2 = 1) ∧ tb = 1 then
      if zero then some (zeroRelation ta c, parallelType major) else none
    else if ta = 1 then some (if c = 0 then .eq else .ne, parallelType major)
    else some (normalRelation major, if c = 0 then .normal else .unc)
  else none

/-- **The compare that a word encodes.** -/
def architectedCompare (raw : UInt64) : Option Compare :=
  (compareForm (CWord.major raw) (CWord.x2 raw) (CWord.ta raw) (CWord.tb raw) (CWord.c raw)
      (CWord.r2 raw == 0)).map fun form =>
    { relation := form.1
      type := form.2
      narrow := CWord.x2 raw == 1 || CWord.x2 raw == 3
      first := if CWord.x2 raw = 0 ∨ CWord.x2 raw = 1 then .inl (CWord.r2 raw).toFin else .inr (CWord.imm8 raw)
      second := (CWord.r3 raw).toFin
      p1 := (CWord.p1 raw).toFin
      p2 := (CWord.p2 raw).toFin }

/-! ## The decoder -/

def Relation.instructionType (narrow : Bool) : Relation → InstructionType
  | .eq => if narrow then .CMP4_EQ else .CMP_EQ
  | .ne => if narrow then .CMP4_NE else .CMP_NE
  | .lt => if narrow then .CMP4_LT else .CMP_LT
  | .ltu => if narrow then .CMP4_LTU else .CMP_LTU
  | .le => if narrow then .CMP4_LE else .CMP_LE
  | .gt => if narrow then .CMP4_GT else .CMP_GT
  | .ge => if narrow then .CMP4_GE else .CMP_GE

def CompareType.completer : CompareType → CompareCompleter
  | .normal => .NORMAL
  | .unc => .UNC
  | .and => .AND
  | .or => .OR
  | .orAndcm => .OR_ANDCM

namespace ATypeDecoder

/-- The relation that is evaluated: `0 < r` without signs is `0 ≠ r`. -/
def decodedRelation (immZero : Bool) (type : CompareType) (r : Relation) : Relation :=
  if immZero = true ∧ r = .ltu ∧ (type = .normal ∨ type = .unc) then .ne else r

/-- The kind of a compare, by the extensions and by whether the register and the immediate are zero. -/
def kindOf (major x2 ta tb c : UInt8) (zero immZero : Bool) : InstructionType × CompareCompleter :=
  let is32 := x2 &&& 1 != 0
  if x2 < 2 ∧ tb ≠ 0 ∧ zero = true then (mapZeroCompareType ta c is32, mapParallelCompareCompleter major)
  else if ta ≠ 0 then (mapEqCompareType is32 (c != 0), mapParallelCompareCompleter major)
  else
    let completer : CompareCompleter := if c ≠ 0 then .UNC else .NORMAL
    if immZero = true ∧ major = 0xD then (if is32 then .CMP4_NE else .CMP_NE, completer)
    else (mapNormalCompareType major is32, completer)

theorem compareKind_eq (fmt : AFormat) : compareKind fmt = kindOf ((fmt.opcode >>> 4) &&& 0x0F) fmt.x2 fmt.ta fmt.tb
    fmt.c (fmt.r2 == 0) (fmt.hasImm && fmt.imm == 0) := by
  have hlt : fmt.x2 < 2 ↔ ¬ fmt.x2 ≥ 2 := by
    rw [ge_iff_le, UInt8.not_le]
  have himm : (fmt.hasImm && fmt.imm == 0) = true ∧ (fmt.opcode >>> 4) &&& 0x0F = 0xD ↔
      fmt.hasImm = true ∧ (fmt.opcode >>> 4) &&& 0x0F = 0xD ∧ fmt.imm = 0 := by
    rw [Bool.and_eq_true, beq_iff_eq, and_right_comm, and_assoc]
  unfold compareKind kindOf
  simp only [hlt, himm, beq_iff_eq]

/-- **The kind of a compare** is the architecture's. -/
theorem kindOf_eq (major : BitVec 4) (x2 : BitVec 2) (ta tb c : BitVec 1) (zero immZero : Bool) :
    ∀ form ∈ compareForm major x2 ta tb c zero,
      kindOf (((UInt8.ofNat major.toNat <<< 4) >>> 4) &&& 0x0F) (UInt8.ofNat x2.toNat) (UInt8.ofNat ta.toNat)
          (UInt8.ofNat tb.toNat) (UInt8.ofNat c.toNat) zero immZero =
        ((decodedRelation immZero form.2 form.1).instructionType (x2 == 1 || x2 == 3), form.2.completer) := by
  by_cases hmajor : major = 0xC ∨ major = 0xD ∨ major = 0xE
  · obtain rfl | rfl | rfl := hmajor <;> revert x2 ta tb c zero immZero <;> decide +kernel
  · intro form hform
    rw [compareForm, if_neg hmajor] at hform
    cases hform

/-- The instruction of a compare, with and without an immediate. -/
theorem compareInstruction_eq (fmt : AFormat) : compareInstruction fmt =
    { type := (compareKind fmt).1
      predicate := fmt.qp
      dst := fmt.p1
      src1 := fmt.r2
      src2 := fmt.r3
      src3 := fmt.p2
      immediate := if fmt.hasImm then fmt.imm else 0
      hasImmediate := fmt.hasImm
      compareCompleter := (compareKind fmt).2 } := by
  unfold compareInstruction
  cases fmt.hasImm <;> rfl

/-- The format of a word that compares. -/
def compareFormat (raw : UInt64) : AFormat :=
  decodeCompare raw (majorOpcode raw) (field raw 34 2)
    { qp := qualifyingPredicate raw
      r1 := field raw 6 7
      r2 := field raw 13 7
      r3 := field raw 20 7
      opcode := (majorOpcode raw <<< 4) ||| field raw 29 4 }

section Slot
variable {raw : UInt64}

theorem compareFormat_eq (raw : UInt64) : compareFormat raw =
    { qp := field raw 0 6
      r1 := field raw 6 7
      r2 := field raw 13 7
      r3 := field raw 20 7
      opcode := majorOpcode raw <<< 4
      imm := if field raw 34 2 ≥ 2 then imm8 raw else 0
      hasImm := field raw 34 2 ≥ 2
      p1 := field raw 6 6
      p2 := field raw 27 6
      x2 := field raw 34 2
      ta := field raw 33 1
      tb := field raw 36 1
      c := field raw 12 1 } := by
  unfold compareFormat decodeCompare
  dsimp only
  split
  · next h =>
    rw [decide_eq_true h]
    rfl
  · next h =>
    rw [decide_eq_false h]
    rfl

/-- The register form and the immediate form. -/
theorem immediateForm_iff : field raw 34 2 ≥ 2 ↔ ¬ (CWord.x2 raw = 0 ∨ CWord.x2 raw = 1) := by
  rw [field_eq raw (by simp) (by simp)]
  show UInt8.ofNat (CWord.x2 raw).toNat ≥ 2 ↔ _
  generalize CWord.x2 raw = x2
  revert x2
  decide

theorem majorOpcode_of_compare {cmp : Compare} (h : architectedCompare raw = some cmp) :
    majorOpcode raw = 0xC ∨ majorOpcode raw = 0xD ∨ majorOpcode raw = 0xE := by
  obtain ⟨form, hform, -⟩ := Option.map_eq_some_iff.mp h
  have hmajor : CWord.major raw = 0xC ∨ CWord.major raw = 0xD ∨ CWord.major raw = 0xE := by
    by_contra hnone
    rw [compareForm, if_neg hnone] at hform
    cases hform
  have hiff : ∀ v : BitVec 4, majorOpcode raw = UInt8.ofNat v.toNat ↔ CWord.major raw = v :=
    field_eq_iff raw (by simp) (by simp)
  apply hmajor.imp (hiff 0xC).mpr
  intro hother
  exact hother.imp (hiff 0xD).mpr (hiff 0xE).mpr

/-- **The relation and the update** that are found for a word. -/
theorem compareKind_compareFormat {cmp : Compare} (h : architectedCompare raw = some cmp) :
    compareKind (compareFormat raw) = ((decodedRelation ((compareFormat raw).hasImm && (compareFormat raw).imm == 0)
      cmp.type cmp.relation).instructionType cmp.narrow, cmp.type.completer) := by
  obtain ⟨form, hform, rfl⟩ := Option.map_eq_some_iff.mp h
  have hzero : (CWord.r2 raw == 0) = ((compareFormat raw).r2 == 0) := by
    have hiff : field raw 13 7 = 0 ↔ CWord.r2 raw = 0 := field_eq_iff raw (by simp) (by simp) 0
    rw [compareFormat_eq, Bool.eq_iff_iff, beq_iff_eq, beq_iff_eq]
    exact hiff.symm
  rw [hzero] at hform
  rw [compareKind_eq, ← kindOf_eq _ _ _ _ _ _ _ form hform]
  have hfield : ∀ {start length : Nat}, start < 64 → length ≤ 8 →
      field raw start length = UInt8.ofNat (raw.toBitVec.extractLsb' start length).toNat := field_eq raw
  rw [compareFormat_eq]
  dsimp only
  rw [majorOpcode, hfield (by decide : 37 < 64) (by decide), hfield (by decide : 34 < 64) (by decide),
    hfield (by decide : 33 < 64) (by decide), hfield (by decide : 36 < 64) (by decide),
    hfield (by decide : 12 < 64) (by decide)]
  rfl

/-- The words of the three major opcodes go to the A-type in both units. -/
theorem decodeSlot_of_compare {unit : UnitType} (ip : UInt64) (hunit : unit = .M_UNIT ∨ unit = .I_UNIT)
    (hmajor : majorOpcode raw = 0xC ∨ majorOpcode raw = 0xD ∨ majorOpcode raw = 0xE) :
    decodeSlot raw unit ip = (compareInstruction (compareFormat raw)).setRawBits raw := by
  have hne : majorOpcode raw ≠ 0 ∧ majorOpcode raw ≠ 1 ∧ majorOpcode raw ≠ 2 ∧ ¬ majorOpcode raw ≤ 7 := by
    obtain h | h | h := hmajor <;> rw [h] <;> decide
  have hother : majorOpcode raw ≠ 8 ∧ majorOpcode raw ≠ 9 ∧ majorOpcode raw ≠ 0xA := by
    obtain h | h | h := hmajor <;> rw [h] <;> decide
  have hdecode : decode raw = some (compareFormat raw) := by
    unfold decode compareFormat
    simp only [hother, if_false, hmajor, if_true]
  have htag : (compareFormat raw).opcode = majorOpcode raw <<< 4 := by
    unfold compareFormat decodeCompare
    dsimp only
    split <;> rfl
  have hinstr : DecodeSlot.decodeAType raw = some (compareInstruction (compareFormat raw)) := by
    unfold DecodeSlot.decodeAType
    rw [hdecode, Option.bind_some, toInstruction, htag]
    obtain h | h | h := hmajor <;> rw [h] <;> rfl
  have hslot : DecodeSlot.decodeUnit raw unit ip = DecodeSlot.decodeAType raw := by
    unfold DecodeSlot.decodeUnit
    obtain rfl | rfl := hunit
    · exact (DecodeSlot.decodeM_of_major ⟨hne.1, hne.2.1⟩ ip).trans (if_neg hne.2.2.2)
    · exact (DecodeSlot.decodeI_of_major ⟨hne.1, hne.2.1, hne.2.2.1⟩).trans (if_neg hne.2.2.2)
  rw [decodeSlot, hslot, hinstr]
  rfl

end Slot

end ATypeDecoder

end GuideXOS.Decoder
