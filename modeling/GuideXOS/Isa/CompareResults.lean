import GuideXOS.Decoder.CompareWords
import GuideXOS.Isa.FieldResults

/-!
# `CompareResults` — what compares write

A compare is decoded and executed. Its targets are written as the word says, and no other predicate and no other
register changes. A predicate is named as the program names it, under whatever rotation there is.
-/

namespace GuideXOS.Isa
open Lib Lib.Words GuideXOS.Core GuideXOS.Decoder

/-! ## The relation -/

/-- **The operations compare** as their relations do. -/
theorem compareResult_eq (r : Relation) (narrow : Bool) (lhs rhs : UInt64) :
    compareResult (r.instructionType narrow) lhs rhs =
      if narrow = true then r.holds (lhs.toBitVec.setWidth 32) (rhs.toBitVec.setWidth 32)
      else r.holds lhs.toBitVec rhs.toBitVec := by
  -- words are equal as their bits are
  have heq64 : decide (lhs = rhs) = (lhs.toBitVec == rhs.toBitVec) := by
    rw [Bool.eq_iff_iff, decide_eq_true_iff, beq_iff_eq, UInt64.toBitVec_inj]
  have heq32 : decide (lhs.toUInt32 = rhs.toUInt32) = (lhs.toBitVec.setWidth 32 == rhs.toBitVec.setWidth 32) := by
    rw [Bool.eq_iff_iff, decide_eq_true_iff, beq_iff_eq]
    exact UInt32.toBitVec_inj.symm
  cases narrow with
  | false =>
      cases r with
      | eq => exact heq64
      | ne => exact decide_not.trans (congrArg not heq64)
      | ltu => rfl
      | lt | le | gt | ge => exact Bool.decide_coe _
  | true =>
      cases r with
      | eq => exact heq32
      | ne => exact decide_not.trans (congrArg not heq32)
      | ltu => rfl
      | lt | le | gt | ge => exact Bool.decide_coe _

/-- Nothing is below another word, unsigned, if that is not nothing. -/
theorem ltu_zero {n : Nat} (y : BitVec n) : Relation.ltu.holds 0 y = Relation.ne.holds 0 y := by
  rw [Bool.eq_iff_iff]
  simp only [Relation.holds, BitVec.ult_iff_lt, bne_iff_ne, ne_eq]
  rw [BitVec.lt_def, ← BitVec.toNat_inj]
  simp only [BitVec.ofNat_eq_ofNat, BitVec.toNat_ofNat, Nat.zero_mod]
  omega

/-! ## The targets -/

section Targets
variable (cpu : CPUState) (p1 p2 : Fin 64)

/-- Both targets written, or neither. -/
def writeTargets (cpu : CPUState) (p1 p2 : Fin 64) : Option (Bool × Bool) → CPUState
  | none => cpu
  | some (b1, b2) => (cpu.setPR p1 b1).setPR p2 b2

theorem getPR_setPR (i j : Fin 64) (b : Bool) :
    (cpu.setPR i b).getPR j = if j = 0 then true else if j = i then b else cpu.getPR j := by
  split
  · next h =>
    rw [h]
    rfl
  · next h0 =>
    split
    · next h =>
      rw [h] at h0 ⊢
      exact CPUState.getPR_setPR_self cpu h0 b
    · next h => exact CPUState.getPR_setPR_ne cpu (fun heq => h heq.symm) b

/-- Nothing but the predicates changes. -/
theorem writeTargets_frame (w : Option (Bool × Bool)) : ∃ pr, writeTargets cpu p1 p2 w = { cpu with pr := pr } := by
  have hset : ∀ (s : CPUState) (i : Fin 64) (b : Bool), ∃ pr, s.setPR i b = { s with pr := pr } := by
    intro s i b
    unfold CPUState.setPR
    split
    · exact ⟨s.pr, rfl⟩
    · exact ⟨_, rfl⟩
  cases w with
  | none => exact ⟨cpu.pr, rfl⟩
  | some b =>
      obtain ⟨pr, hpr⟩ := hset cpu p1 b.1
      obtain ⟨pr', hpr'⟩ := hset (cpu.setPR p1 b.1) p2 b.2
      refine ⟨pr', ?_⟩
      show (cpu.setPR p1 b.1).setPR p2 b.2 = _
      rw [hpr', hpr]

variable {cpu p1 p2}

/-- **The predicates afterwards**, under their names. -/
theorem getPR_writeTargets (h : p1 ≠ p2) (w : Option (Bool × Bool)) (i : Fin 64) :
    (writeTargets cpu p1 p2 w).getPR i = match w with
      | none => cpu.getPR i
      | some (b1, b2) => if i = 0 then cpu.getPR i else if i = p1 then b1 else if i = p2 then b2 else cpu.getPR i := by
  cases w with
  | none => rfl
  | some b =>
      show ((cpu.setPR p1 b.1).setPR p2 b.2).getPR i = _
      rw [getPR_setPR, getPR_setPR]
      by_cases h0 : i = 0
      · subst h0
        rfl
      · by_cases h1 : i = p1
        · subst h1
          simp [h0, h]
        · simp [h0, h1]

theorem writeComparePredicates_eq {instr : InstructionEx} {type : CompareType}
    (h : instr.compareCompleter = type.completer) (result : Bool) : writeComparePredicates instr result cpu =
      writeTargets cpu (predicateField instr.dst) (predicateField instr.src3) (type.target result) := by
  unfold writeComparePredicates
  rw [h]
  cases type <;> cases result <;> rfl

end Targets

/-! ## Execution -/

section Execute
variable {raw : UInt64} {cmp : Compare}

/-- What a compare is decoded to. -/
structure DecodesCompare (raw : UInt64) (cmp : Compare) (instr : InstructionEx) : Prop where
  compare : switchCase instr.type = .compare
  predicate : instr.predicate = field raw 0 6
  completer : instr.compareCompleter = cmp.type.completer
  p1 : predicateField instr.dst = cmp.p1
  p2 : predicateField instr.src3 = cmp.p2
  result : ∀ gr : Fin 128 → UInt64, compareResult instr.type
    (if instr.hasImmediate then instr.immediate else gr (registerField instr.src1)) (gr (registerField instr.src2)) =
      cmp.result gr

theorem switchCase_instructionType (r : Relation) (narrow : Bool) :
    switchCase (r.instructionType narrow) = .compare := by
  cases r <;> cases narrow <;> rfl

theorem imm8_toBitVec (raw : UInt64) : (ATypeDecoder.imm8 raw).toBitVec = (CWord.imm8 raw).signExtend 64 := by
  apply signExtend_toBitVec
  · apply shiftLeft_or_toNat
    · exact extractBits_toNat raw (by simp) (by simp)
    · exact extractBits_toNat raw (by simp) (by simp)
    · simp
  · simp
  · simp

/-- The relation that is evaluated holds when that of the word does. -/
theorem compareResult_decoded (type : CompareType) (r : Relation) (narrow immZero : Bool) (lhs rhs : UInt64)
    (h : immZero = true → lhs = 0) :
    compareResult ((ATypeDecoder.decodedRelation immZero type r).instructionType narrow) lhs rhs =
      if narrow = true then r.holds (lhs.toBitVec.setWidth 32) (rhs.toBitVec.setWidth 32)
      else r.holds lhs.toBitVec rhs.toBitVec := by
  rw [compareResult_eq]
  unfold ATypeDecoder.decodedRelation
  by_cases hzero : immZero = true ∧ r = .ltu ∧ (type = .normal ∨ type = .unc)
  · rw [if_pos hzero, h hzero.1, hzero.2.1]
    exact if_congr Iff.rfl (ltu_zero _).symm (ltu_zero _).symm
  · rw [if_neg hzero]

/-- The first operand, as the executor reads it. -/
def firstOperand (fmt : AFormat) (gr : Fin 128 → UInt64) : UInt64 :=
  if fmt.hasImm = true then (if fmt.hasImm = true then fmt.imm else 0) else gr (registerField fmt.r2)

theorem firstOperand_toBitVec (h : architectedCompare raw = some cmp) (gr : Fin 128 → UInt64) :
    (firstOperand (ATypeDecoder.compareFormat raw) gr).toBitVec = cmp.operand gr := by
  obtain ⟨form, -, rfl⟩ := Option.map_eq_some_iff.mp h
  have hform := @ATypeDecoder.immediateForm_iff raw
  rw [ATypeDecoder.compareFormat_eq]
  unfold firstOperand Compare.operand
  dsimp only
  by_cases hx2 : CWord.x2 raw = 0 ∨ CWord.x2 raw = 1
  · have hregister : ¬ field raw 34 2 ≥ 2 := fun hge => hform.mp hge hx2
    have hr2 : registerField (field raw 13 7) = (CWord.r2 raw).toFin := registerField_field (by simp)
    simp only [hregister, decide_false, Bool.false_eq_true, if_false, hx2, if_true, hr2]
  · have himmediate : field raw 34 2 ≥ 2 := hform.mpr hx2
    simp only [himmediate, decide_true, if_true, hx2, if_false]
    exact imm8_toBitVec raw

/-- **Every word that compares** is decoded to its compare. -/
theorem decodesCompare (ip : UInt64) {unit : UnitType} (hunit : unit = .M_UNIT ∨ unit = .I_UNIT)
    (h : architectedCompare raw = some cmp) : DecodesCompare raw cmp (decodeSlot raw unit ip) := by
  have hkind := ATypeDecoder.compareKind_compareFormat h
  rw [ATypeDecoder.decodeSlot_of_compare ip hunit (ATypeDecoder.majorOpcode_of_compare h),
    ATypeDecoder.compareInstruction_eq]
  have hfirst := firstOperand_toBitVec h
  obtain ⟨form, -, rfl⟩ := Option.map_eq_some_iff.mp h
  dsimp only at hkind
  constructor
  · show switchCase (ATypeDecoder.compareKind _).1 = .compare
    rw [hkind]
    exact switchCase_instructionType _ _
  · rw [ATypeDecoder.compareFormat_eq]
    rfl
  · show (ATypeDecoder.compareKind _).2 = _
    rw [hkind]
  · rw [ATypeDecoder.compareFormat_eq]
    exact predicateField_field (by simp)
  · rw [ATypeDecoder.compareFormat_eq]
    exact predicateField_field (by simp)
  · intro gr
    have hsecond : registerField (ATypeDecoder.compareFormat raw).r3 = (CWord.r3 raw).toFin := by
      rw [ATypeDecoder.compareFormat_eq]
      exact registerField_field (by simp)
    -- the operation was changed only if the first operand is zero
    have hzero : ((ATypeDecoder.compareFormat raw).hasImm && (ATypeDecoder.compareFormat raw).imm == 0) = true →
        firstOperand (ATypeDecoder.compareFormat raw) gr = 0 := by
      intro himm
      rw [Bool.and_eq_true, beq_iff_eq] at himm
      rw [firstOperand, if_pos himm.1, if_pos himm.1, himm.2]
    show compareResult (ATypeDecoder.compareKind (ATypeDecoder.compareFormat raw)).1
      (firstOperand (ATypeDecoder.compareFormat raw) gr) (gr (registerField (ATypeDecoder.compareFormat raw).r3)) = _
    rw [hkind, compareResult_decoded _ _ _ _ _ _ hzero, hfirst, hsecond]
    rfl

end Execute

section Switch
variable {M F : Type} [IMemory M] (host : ExecuteHost M F) {raw : UInt64} {cmp : Compare} {instr : InstructionEx}
  (cpu : CPUState) (memory : M)

/-- Compares are among those that an unconditional one clears its targets without its predicate. -/
theorem type_of_compare {type : InstructionType} (h : switchCase type = .compare) :
    IsCompareInstruction type = true ∧ type ≠ .FRCPA ∧ type ≠ .FRSQRTA ∧
      [InstructionType.BR_CLOOP, .BR_CTOP, .BR_CEXIT].contains type = false := by
  cases type <;> cases h <;> decide

theorem nullify_of_compare (h : DecodesCompare raw cmp instr) :
    nullify instr cpu = writeTargets cpu cmp.p1 cmp.p2 (if cmp.type = .unc then some (false, false) else none) := by
  obtain ⟨hcompare, hfrcpa, hfrsqrta, -⟩ := type_of_compare h.compare
  have hunc : instr.compareCompleter = .UNC ↔ cmp.type = .unc := by
    rw [h.completer]
    cases cmp.type <;> simp [CompareType.completer]
  unfold nullify
  dsimp only
  rw [if_neg (not_or.mpr ⟨hfrcpa, hfrsqrta⟩), h.p1, h.p2]
  by_cases htype : cmp.type = .unc
  · rw [if_pos ⟨hunc.mpr htype, hcompare⟩, if_pos htype]
    rfl
  · rw [if_neg fun hboth => htype (hunc.mp hboth.1), if_neg htype]
    rfl

/-- **What a compare does**, predicated or not. -/
theorem execute_compare (h : DecodesCompare raw cmp instr) (ignorePredicate : Bool) :
    execute (executeSwitch host .sequential) instr cpu memory ignorePredicate =
      (.done, writeTargets cpu cmp.p1 cmp.p2
        (cmp.written (ignorePredicate || cpu.getPR (CWord.qp raw).toFin) cpu.getGR), memory) := by
  have hqualifies := @qualifies_eq raw cpu instr h.predicate (type_of_compare h.compare).2.2.2 ignorePredicate
  have hswitch : executeSwitch host .sequential instr cpu memory =
      (.done, executeCompare .sequential instr cpu, memory) := by
    unfold executeSwitch
    rw [h.compare]
  have hexecuted : executeCompare .sequential instr cpu =
      writeTargets cpu cmp.p1 cmp.p2 (cmp.type.target (cmp.result cpu.getGR)) := by
    rw [← h.result cpu.getGR, ← h.p1, ← h.p2, ← writeComparePredicates_eq h.completer]
    rfl
  rw [execute_eq_sequential]
  unfold executeViewed
  rw [hqualifies, hswitch, hexecuted, nullify_of_compare cpu h]
  show (if (ignorePredicate || cpu.getPR (CWord.qp raw).toFin) = false then _ else _) = _
  unfold Compare.written
  cases ignorePredicate || cpu.getPR (CWord.qp raw).toFin <;> rfl

end Switch

/-- **What a word that compares ought to do**: write its targets as the compare says, and nothing else. -/
def PerformsCompare {M F : Type} [IMemory M] (host : ExecuteHost M F) (raw : UInt64) (unit : UnitType) (ip : UInt64)
    (cmp : Compare) (cpu : CPUState) (memory : M) (ignorePredicate : Bool) : Prop :=
  let result := execute (executeSwitch host .sequential) (decodeSlot raw unit ip) cpu memory ignorePredicate
  let qualified := ignorePredicate || cpu.getPR (CWord.qp raw).toFin
  result.1 = .done ∧ result.2.2 = memory ∧ (∃ pr, result.2.1 = { cpu with pr := pr }) ∧
    ∀ i, result.2.1.getPR i = cmp.predicate qualified cpu.getGR cpu.getPR i

/-- **Compares** write the predicates that they ought to. -/
theorem performsCompare {M F : Type} [IMemory M] : ∀ (host : ExecuteHost M F) (raw : UInt64) (unit : UnitType)
    (ip : UInt64) (cmp : Compare) (cpu : CPUState) (memory : M) (ignorePredicate : Bool),
    (unit = .M_UNIT ∨ unit = .I_UNIT) → architectedCompare raw = some cmp → cmp.p1 ≠ cmp.p2 →
    PerformsCompare host raw unit ip cmp cpu memory ignorePredicate := by
  intro host raw unit ip cmp cpu memory ignorePredicate hunit hcmp htargets
  have hdecodes := decodesCompare ip hunit hcmp
  unfold PerformsCompare
  rw [execute_compare host cpu memory hdecodes]
  refine ⟨rfl, rfl, writeTargets_frame cpu cmp.p1 cmp.p2 _, ?_⟩
  intro i
  exact getPR_writeTargets htargets _ i

/-- `cmp.lt p6, p7 = r4, r5`. -/
theorem performsCompare_lt : PerformsCompare flatHost 0x18038508180 .I_UNIT 0
    { relation := .lt, type := .normal, narrow := false, first := .inl 4, second := 5, p1 := 6, p2 := 7 }
    fieldsCpu sixteenMemory false :=
  performsCompare flatHost 0x18038508180 .I_UNIT 0 _ fieldsCpu sixteenMemory false (.inr rfl) (by decide +kernel)
    (by decide)

end GuideXOS.Isa
