import GuideXOS.Isa.CompareResults

/-!
# `NaTPropagation` — which results are marked

A result computed from a marked source ought to be marked itself, and a test of a marked source ought to clear its
targets, or to leave them alone if it only sets them. Every write of a general register clears its NaT bit, so an
operation has to mark its result once more.

* Most operations do not, and neither does `GETF_SIG`: no result of theirs is marked.
* `ADDP4` and `GETF_EXP` do. `SHL`, `MUX1`, `CZX1_R` and `SHRP` do from what they read late (`OperandAliasing`).
* The compares and `TBIT` do not ask for the NaT bits of their sources.
-/

namespace GuideXOS.Isa
open Lib Lib.Words GuideXOS.Core GuideXOS.Decoder

/-! ## Sources -/

variable (instr : InstructionEx) (cpu : CPUState)

/-- The sources of the operations that clear the mark of what they write. The bit 12 of a deposit says that its field
    comes from no register. -/
def integerSources : List (Fin 128) :=
  let r1 := registerField instr.src1
  let r2 := registerField instr.src2
  match instr.type with
  | .ADD | .ADD_P1 | .SUB | .SUB_M1 | .AND | .OR | .XOR | .ANDCM | .SHR | .SHRA | .SHLADD => [r1, r2]
  | .MOV_GR | .ADD_IMM | .ADDL | .POPCNT | .EXTR | .DEP_Z | .ZXT1 | .ZXT2 | .ZXT4 | .SXT1 | .SXT2 | .SXT4 => [r1]
  | .SUB_IMM | .AND_IMM | .OR_IMM | .XOR_IMM | .ANDCM_IMM => [r2]
  | .DEP => if (instr.immediate >>> 12) &&& 1 ≠ 0 then [r2] else [r1, r2]
  | _ => []

/-- The general registers an operation computes its result from, or tests. -/
def generalSources : List (Fin 128) :=
  let r1 := registerField instr.src1
  let r2 := registerField instr.src2
  match switchCase instr.type with
  | .integer => integerSources instr
  | .addp4 | .shl => if instr.hasImmediate then [r1] else [r1, r2]
  | .mux1 | .czx1 | .tbit => [r1]
  | .shrp => [r1, r2]
  | .compare => if instr.hasImmediate then [r2] else [r1, r2]
  | _ => []

/-- A source is marked. That of a transfer is a floating-point register. -/
def sourceMarked : Bool :=
  match switchCase instr.type with
  | .transfer => isNatVal (cpu.getFR (registerField instr.src1))
  | _ => (generalSources instr).any cpu.getGRNaT

/-! ## Results -/

/-- The operations that compute a general register from general or floating-point ones. An immediate that is moved has
    no source. -/
def computesGeneral (type : InstructionType) : Bool :=
  match switchCase type with
  | .integer | .addp4 | .shl | .mux1 | .czx1 | .shrp => true
  | .transfer => type = .GETF_SIG ∨ type = .GETF_EXP
  | _ => false

/-- The operations that have no form without an immediate. -/
def needsImmediate (type : InstructionType) : Bool :=
  [.MOV_IMM, .MOVL, .ADD_IMM, .ADDL, .SUB_IMM, .AND_IMM, .OR_IMM, .XOR_IMM, .ANDCM_IMM, .SHLADD, .EXTR, .DEP, .DEP_Z,
    .SHRP].contains type

/-- The result is marked if a source is. What is marked late is marked by another register than the one written. -/
def MarksResult : Prop :=
  let place := cpu.mapGR (registerField instr.dst)
  match switchCase instr.type with
  | .addp4 => GRFile.Writable place
  | .shl | .mux1 | .czx1 | .shrp =>
      GRFile.Writable place ∧ ∃ r ∈ generalSources instr, cpu.getGRNaT r = true ∧ cpu.mapGR r ≠ place
  | .transfer => instr.type = .GETF_EXP ∧ GRFile.Writable place
  | _ => False

/-- **When the result is marked rightly**: no source is marked, or the result is marked too. Without its immediate an
    operation writes nothing, and its destination has to be marked rightly before. -/
def ResultRight : Prop :=
  if needsImmediate instr.type = true ∧ instr.hasImmediate = false then
    cpu.getGRNaT (registerField instr.dst) = sourceMarked instr cpu
  else sourceMarked instr cpu = true → MarksResult instr cpu

section Results
variable {instr : InstructionEx} {cpu : CPUState} (d : Fin 128) (v : UInt64)

/-- A result that is written is not marked. -/
theorem getGRNaT_written : (cpu.setGR d v).getGRNaT d = false := by
  rw [CPUState.getGRNaT_setGR]
  simp

/-- A mark is kept where there is a register. -/
theorem getGRNaT_marked (b : Bool) : (cpu.setGRNaT d b).getGRNaT d = (b && decide (GRFile.Writable (cpu.mapGR d))) := by
  rw [CPUState.setGRNaT_eq, CPUState.getGRNaT_eq]
  show (cpu.gr.setNaT (cpu.mapGR d) b).getNaT (cpu.mapGR d) = _
  by_cases hw : GRFile.Writable (cpu.mapGR d)
  · rw [GRFile.getNaT_setNaT_self hw.1 hw.2]
    simp [hw]
  · rw [Bool.eq_false_iff.mpr (mt GRFile.writable_of_getNaT hw)]
    simp [hw]

/-- The result is marked as the sources were when it was written. -/
theorem marked_early_iff (b : Bool) :
    ((cpu.setGR d v).setGRNaT d b).getGRNaT d = b ↔ (b = true → GRFile.Writable (cpu.mapGR d)) := by
  rw [getGRNaT_marked, CPUState.mapGR_setGR]
  cases b <;> simp

/-- The result is marked by the sources that are still there. -/
theorem marked_late_iff (sources : List (Fin 128)) :
    ((cpu.setGR d v).setGRNaT d (sources.any (cpu.setGR d v).getGRNaT)).getGRNaT d = sources.any cpu.getGRNaT ↔
      (sources.any cpu.getGRNaT = true →
        GRFile.Writable (cpu.mapGR d) ∧ ∃ r ∈ sources, cpu.getGRNaT r = true ∧ cpu.mapGR r ≠ cpu.mapGR d) := by
  have hapart := any_late_eq_iff cpu d v sources
  unfold NaTsApart at hapart
  rw [← List.any_eq_true] at hapart
  rw [getGRNaT_marked, CPUState.mapGR_setGR]
  cases hbefore : sources.any cpu.getGRNaT with
  | false =>
      -- no source is marked, so none is marked late
      rw [hapart.mpr (by simp [hbefore]), hbefore]
      simp
  | true =>
      rw [hbefore] at hapart
      simp only [Bool.and_eq_true, decide_eq_true_eq, hapart, true_imp_iff]
      exact and_comm

theorem integerResult_eq_none_iff (h : switchCase instr.type = .integer) (r1 r2 : UInt64) :
    integerResult instr r1 r2 = none ↔ needsImmediate instr.type = true ∧ instr.hasImmediate = false := by
  unfold integerResult
  generalize instr.type = type at h ⊢
  cases type <;> cases h <;> cases instr.hasImmediate <;> simp [needsImmediate]

theorem integer_right (h : switchCase instr.type = .integer) :
    (executeInteger .sequential instr cpu).getGRNaT (registerField instr.dst) = sourceMarked instr cpu ↔
      ResultRight instr cpu := by
  have hnone := integerResult_eq_none_iff h (gr1 .sequential instr cpu) (gr2 .sequential instr cpu)
  unfold executeInteger ResultRight MarksResult
  rw [h]
  cases hresult : integerResult instr (gr1 .sequential instr cpu) (gr2 .sequential instr cpu) with
  | none =>
      rw [hresult] at hnone
      rw [if_pos (hnone.mp rfl)]
  | some result =>
      rw [hresult] at hnone
      rw [if_neg fun himmediate => by cases hnone.mpr himmediate]
      show (cpu.setGR (registerField instr.dst) result).getGRNaT (registerField instr.dst) = _ ↔ _
      rw [getGRNaT_written]
      cases sourceMarked instr cpu <;> simp

/-- An operation that has a form without an immediate. -/
theorem resultRight_iff (h : needsImmediate instr.type = false) :
    ResultRight instr cpu ↔ (sourceMarked instr cpu = true → MarksResult instr cpu) := by
  unfold ResultRight
  rw [if_neg fun hboth => by rw [h] at hboth; cases hboth.1]

theorem addp4_right (h : switchCase instr.type = .addp4) :
    (executeAddp4 .sequential instr cpu).getGRNaT (registerField instr.dst) = sourceMarked instr cpu ↔
      ResultRight instr cpu := by
  have htype : needsImmediate instr.type = false := by
    generalize instr.type = type at h ⊢
    cases type <;> cases h
    rfl
  rw [resultRight_iff htype]
  unfold executeAddp4 MarksResult sourceMarked generalSources
  rw [h]
  cases instr.hasImmediate with
  | true =>
      simp only [if_true, List.any_cons, List.any_nil, Bool.or_false, Bool.false_or]
      exact marked_early_iff _ _ _
  | false =>
      simp only [Bool.false_eq_true, if_false, List.any_cons, List.any_nil, Bool.or_false]
      exact marked_early_iff _ _ _

/-- The operations that mark their result late. -/
def marksLate : SwitchCase → Bool
  | .shl | .mux1 | .czx1 | .shrp => true
  | _ => false

theorem lateSources_eq (hlate : marksLate (switchCase instr.type) = true)
    (himmediate : switchCase instr.type = .shrp → instr.hasImmediate = true) :
    lateSources instr = generalSources instr := by
  unfold lateSources generalSources
  cases hcase : switchCase instr.type with
  | shl | mux1 | czx1 => rfl
  | shrp => exact if_pos (himmediate hcase)
  | _ => simp [hcase, marksLate] at hlate

/-- What is written late, where there is an immediate if one is needed. -/
theorem late_right (hlate : marksLate (switchCase instr.type) = true)
    (himmediate : switchCase instr.type = .shrp → instr.hasImmediate = true) (result : UInt64) :
    (writtenLate .sequential instr cpu result).getGRNaT (registerField instr.dst) = sourceMarked instr cpu ↔
      ResultRight instr cpu := by
  have hneeded : ¬ (needsImmediate instr.type = true ∧ instr.hasImmediate = false) := by
    rintro ⟨hneeds, hlacks⟩
    have hshrp : switchCase instr.type = .shrp := by
      generalize instr.type = type at hlate hneeds ⊢
      cases type <;> first | rfl | exact absurd hneeds (by decide) | cases hlate
    rw [himmediate hshrp] at hlacks
    cases hlacks
  unfold ResultRight writtenLate
  rw [if_neg hneeded, lateSources_eq hlate himmediate]
  have hmarks := @marked_late_iff cpu (registerField instr.dst) result (generalSources instr)
  show ((cpu.setGR _ result).setGRNaT _ ((generalSources instr).any (cpu.setGR _ result).getGRNaT)).getGRNaT _ = _ ↔ _
  unfold sourceMarked MarksResult
  cases hcase : switchCase instr.type with
  | shl | mux1 | czx1 | shrp => exact hmarks
  | _ =>
      rw [hcase] at hlate
      cases hlate

theorem shrp_right (h : switchCase instr.type = .shrp) :
    (executeShrp .sequential instr cpu).getGRNaT (registerField instr.dst) = sourceMarked instr cpu ↔
      ResultRight instr cpu := by
  by_cases himmediate : instr.hasImmediate = true
  · rw [executeShrp_eq h himmediate]
    exact late_right (by rw [h]; rfl) (fun _ => himmediate) _
  · have hneeded : needsImmediate instr.type = true ∧ instr.hasImmediate = false := by
      refine ⟨?_, Bool.eq_false_iff.mpr himmediate⟩
      generalize instr.type = type at h ⊢
      cases type <;> cases h
      rfl
    unfold executeShrp ResultRight
    rw [if_neg himmediate, if_pos hneeded]

theorem transfer_right (h : switchCase instr.type = .transfer) (hcomputes : computesGeneral instr.type = true) :
    (executeTransfer .sequential instr cpu).getGRNaT (registerField instr.dst) = sourceMarked instr cpu ↔
      ResultRight instr cpu := by
  have htype : instr.type = .GETF_SIG ∨ instr.type = .GETF_EXP := by
    unfold computesGeneral at hcomputes
    rw [h] at hcomputes
    exact of_decide_eq_true hcomputes
  unfold executeTransfer
  rw [resultRight_iff (by rcases htype with htype | htype <;> rw [htype] <;> rfl)]
  unfold MarksResult sourceMarked
  rw [h]
  rcases htype with htype | htype
  · rw [htype]
    show (cpu.setGR (registerField instr.dst) _).getGRNaT (registerField instr.dst) = _ ↔ _
    rw [getGRNaT_written]
    cases isNatVal (cpu.getFR (registerField instr.src1)) <;> simp
  · rw [htype]
    have hmarks := @marked_early_iff cpu (registerField instr.dst)
    refine (hmarks _ _).trans ?_
    exact imp_congr_right fun _ => (and_iff_right rfl).symm

/-- **Results**, marked rightly where they are. -/
theorem resultRight_of_switch {M F : Type} [IMemory M] (host : ExecuteHost M F) (memory : M)
    (h : computesGeneral instr.type = true) :
    (executeSwitch host .sequential instr cpu memory).2.1.getGRNaT (registerField instr.dst) =
      sourceMarked instr cpu ↔ ResultRight instr cpu := by
  unfold executeSwitch
  cases hcase : switchCase instr.type with
  | integer => exact integer_right hcase
  | addp4 => exact addp4_right hcase
  | shl =>
      dsimp only
      rw [executeShl_eq hcase]
      exact late_right (by rw [hcase]; rfl) (fun hshrp => by rw [hcase] at hshrp; cases hshrp) _
  | mux1 =>
      dsimp only
      rw [executeMux1_eq hcase]
      exact late_right (by rw [hcase]; rfl) (fun hshrp => by rw [hcase] at hshrp; cases hshrp) _
  | czx1 =>
      dsimp only
      rw [executeCzx1_eq hcase]
      exact late_right (by rw [hcase]; rfl) (fun hshrp => by rw [hcase] at hshrp; cases hshrp) _
  | shrp => exact shrp_right hcase
  | transfer => exact transfer_right hcase h
  | _ => simp [computesGeneral, hcase] at h

end Results

/-! ## Tests -/

/-- The compares and the tests of a bit. -/
def testsPredicates (type : InstructionType) : Bool :=
  match switchCase type with
  | .compare | .tbit => true
  | _ => false

/-- What a test of a marked source ought to write: neither it nor its complement holds. -/
def markedTargets : CompareCompleter → Option (Bool × Bool)
  | .NORMAL | .UNC | .AND => some (false, false)
  | .OR | .OR_ANDCM => none

/-- What a compare writes, by its result. -/
def completerTargets (result : Bool) : CompareCompleter → Option (Bool × Bool)
  | .NORMAL | .UNC => some (result, !result)
  | .AND => if result then none else some (false, false)
  | .OR => if result then some (true, true) else none
  | .OR_ANDCM => if result then some (true, false) else none

/-- The bit of a `TBIT`, tested. -/
def bitHolds (r1 : UInt64) : Bool :=
  let bit := (r1 >>> (instr.immediate &&& 0x3F)) &&& 1
  if instr.type = .TBIT_Z then bit = 0 else bit ≠ 0

/-- What a test writes by the values of its sources. A `TBIT` has two ways to write its targets, whatever its
    completer. -/
def valueTargets : Option (Bool × Bool) :=
  let r1 := cpu.getGR (registerField instr.src1)
  let r2 := cpu.getGR (registerField instr.src2)
  match switchCase instr.type with
  | .compare =>
      completerTargets (compareResult instr.type (if instr.hasImmediate then instr.immediate else r1) r2)
        instr.compareCompleter
  | .tbit =>
      if instr.hasImmediate then
        completerTargets (bitHolds instr r1) (if instr.compareCompleter = .OR_ANDCM then .OR_ANDCM else .NORMAL)
      else none
  | _ => none

/-- Writing the one leaves the targets as writing the other does. Nothing is written to `PR0`, and of two writes to one
    predicate the second one stays. -/
def TargetsAgree (p1 p2 : Fin 64) (before : Fin 64 → Bool) (written due : Option (Bool × Bool)) : Prop :=
  (p1 = 0 ∨ p1 = p2 ∨ (written.map Prod.fst).getD (before p1) = (due.map Prod.fst).getD (before p1)) ∧
    (p2 = 0 ∨ (written.map Prod.snd).getD (before p2) = (due.map Prod.snd).getD (before p2))

/-- **When the targets are right**: the values of the sources happen to give what is due without them. -/
def TargetsRight : Prop :=
  TargetsAgree (predicateField instr.dst) (predicateField instr.src3) cpu.getPR (valueTargets instr cpu)
    (markedTargets instr.compareCompleter)

section Tests
variable {instr : InstructionEx} {cpu : CPUState} {p1 p2 : Fin 64}

theorem getPR_second (w : Option (Bool × Bool)) :
    (writeTargets cpu p1 p2 w).getPR p2 = if p2 = 0 then true else (w.map Prod.snd).getD (cpu.getPR p2) := by
  cases w with
  | none =>
      by_cases h0 : p2 = 0
      · rw [if_pos h0, h0]
        rfl
      · rw [if_neg h0]
        rfl
  | some b =>
      show ((cpu.setPR p1 b.1).setPR p2 b.2).getPR p2 = _
      rw [getPR_setPR, if_pos rfl]
      rfl

theorem getPR_first (h : p1 ≠ p2) (w : Option (Bool × Bool)) :
    (writeTargets cpu p1 p2 w).getPR p1 = if p1 = 0 then true else (w.map Prod.fst).getD (cpu.getPR p1) := by
  cases w with
  | none =>
      by_cases h0 : p1 = 0
      · rw [if_pos h0, h0]
        rfl
      · rw [if_neg h0]
        rfl
  | some b =>
      show ((cpu.setPR p1 b.1).setPR p2 b.2).getPR p1 = _
      rw [getPR_setPR, getPR_setPR, if_neg h, if_pos rfl]
      split <;> rfl

theorem targetsAgree_iff (written due : Option (Bool × Bool)) :
    (∀ i ∈ [p1, p2], (writeTargets cpu p1 p2 written).getPR i = (writeTargets cpu p1 p2 due).getPR i) ↔
      TargetsAgree p1 p2 cpu.getPR written due := by
  have hsecond : (writeTargets cpu p1 p2 written).getPR p2 = (writeTargets cpu p1 p2 due).getPR p2 ↔
      (p2 = 0 ∨ (written.map Prod.snd).getD (cpu.getPR p2) = (due.map Prod.snd).getD (cpu.getPR p2)) := by
    rw [getPR_second, getPR_second]
    by_cases h0 : p2 = 0 <;> simp [h0]
  rw [List.forall_mem_cons, List.forall_mem_singleton, hsecond]
  unfold TargetsAgree
  refine and_congr_left fun hright => ?_
  by_cases hsame : p1 = p2
  · -- the first target is the second one
    subst hsame
    exact iff_of_true (hsecond.mpr hright) (.inr (.inl rfl))
  · rw [getPR_first hsame, getPR_first hsame]
    by_cases h0 : p1 = 0 <;> simp [h0, hsame]

theorem writeComparePredicates_targets (instr : InstructionEx) (result : Bool) (cpu : CPUState) :
    writeComparePredicates instr result cpu = writeTargets cpu (predicateField instr.dst) (predicateField instr.src3)
      (completerTargets result instr.compareCompleter) := by
  unfold writeComparePredicates completerTargets
  cases instr.compareCompleter <;> cases result <;> rfl

/-- A test writes by the values, marked or not. -/
theorem executeSwitch_tests {M F : Type} [IMemory M] (host : ExecuteHost M F) (memory : M)
    (h : testsPredicates instr.type = true) : (executeSwitch host .sequential instr cpu memory).2.1 =
      writeTargets cpu (predicateField instr.dst) (predicateField instr.src3) (valueTargets instr cpu) := by
  unfold executeSwitch valueTargets
  cases hcase : switchCase instr.type with
  | compare => exact writeComparePredicates_targets _ _ _
  | tbit =>
      dsimp only
      unfold executeTbit
      by_cases himmediate : instr.hasImmediate = true
      · rw [if_pos himmediate, if_pos himmediate]
        by_cases hcompleter : instr.compareCompleter = .OR_ANDCM
        · dsimp only
          rw [if_pos hcompleter, if_pos hcompleter, writeComparePredicates_targets, hcompleter]
          rfl
        · dsimp only
          rw [if_neg hcompleter, if_neg hcompleter]
          rfl
      · rw [if_neg himmediate, if_neg himmediate]
        rfl
  | _ => simp [testsPredicates, hcase] at h

end Tests

/-! ## Every instruction -/

/-- **What an instruction ought to do with marks**: mark its result just when a source is marked, and, when it tests a
    marked source, clear its targets or leave them. -/
structure PropagatesNaT {M F : Type} [IMemory M] (host : ExecuteHost M F) (instr : InstructionEx) (cpu : CPUState)
    (memory : M) (ignorePredicate : Bool) : Prop where
  result : computesGeneral instr.type = true →
    (execute (executeSwitch host .sequential) instr cpu memory ignorePredicate).2.1.getGRNaT (registerField instr.dst) =
      sourceMarked instr cpu
  targets : testsPredicates instr.type = true → sourceMarked instr cpu = true →
    ∀ i ∈ [predicateField instr.dst, predicateField instr.src3],
      (execute (executeSwitch host .sequential) instr cpu memory ignorePredicate).2.1.getPR i =
        (writeTargets cpu (predicateField instr.dst) (predicateField instr.src3)
          (markedTargets instr.compareCompleter)).getPR i

/-- **The marks propagate**, where the instruction is executed, exactly when its result is marked by hand or no source
    is marked, and when the targets of a test of a marked source happen to be right. -/
theorem propagatesNaT_iff {M F : Type} [IMemory M] : ∀ (host : ExecuteHost M F) (instr : InstructionEx)
    (cpu : CPUState) (memory : M) (ignorePredicate : Bool), qualifies instr cpu ignorePredicate = true →
    (PropagatesNaT host instr cpu memory ignorePredicate ↔
      (computesGeneral instr.type = true → ResultRight instr cpu) ∧
        (testsPredicates instr.type = true → sourceMarked instr cpu = true → TargetsRight instr cpu)) := by
  intro host instr cpu memory ignorePredicate hqualifies
  have hswitch := execute_of_qualifies host hqualifies memory
  have htargets : ∀ h : testsPredicates instr.type = true,
      (∀ i ∈ [predicateField instr.dst, predicateField instr.src3],
        (executeSwitch host .sequential instr cpu memory).2.1.getPR i =
          (writeTargets cpu (predicateField instr.dst) (predicateField instr.src3)
            (markedTargets instr.compareCompleter)).getPR i) ↔ TargetsRight instr cpu := by
    intro h
    rw [executeSwitch_tests host memory h]
    exact targetsAgree_iff _ _
  constructor
  · rintro ⟨hresult, hboth⟩
    rw [hswitch] at hresult hboth
    refine ⟨?_, ?_⟩
    · intro h
      exact (resultRight_of_switch host memory h).mp (hresult h)
    · intro h hmarked
      exact (htargets h).mp (hboth h hmarked)
  · rintro ⟨hresult, hboth⟩
    constructor <;> rw [hswitch]
    · intro h
      exact (resultRight_of_switch host memory h).mpr (hresult h)
    · intro h hmarked
      exact (htargets h).mpr (hboth h hmarked)

/-- `add r5 = r4, r0`. -/
def addMarked : InstructionEx := { type := .ADD, dst := 5, src1 := 4 }

/-- `addp4 r5 = r4, r0`. -/
def addp4Marked : InstructionEx := { type := .ADDP4, dst := 5, src1 := 4 }

/-- `cmp.eq p6, p7 = r4, r4`. -/
def compareMarked : InstructionEx := { type := .CMP_EQ, dst := 6, src1 := 4, src2 := 4, src3 := 7 }

theorem propagatesNaT_addp4 : PropagatesNaT flatHost addp4Marked markedFour sixteenMemory true :=
  (propagatesNaT_iff flatHost addp4Marked markedFour sixteenMemory true rfl).mpr
    ⟨fun _ _ => (by decide +kernel : GRFile.Writable (markedFour.mapGR 5)), fun h => by cases h⟩

/-- **Marks are lost**: a sum of a marked register is not marked, and a marked register is equal to itself. -/
theorem propagatesNaT_not :
    ¬ PropagatesNaT flatHost addMarked markedFour sixteenMemory true ∧
      ¬ PropagatesNaT flatHost compareMarked markedFour sixteenMemory true := by
  constructor
  · intro h
    exact absurd (h.result rfl) (by decide +kernel)
  · intro h
    exact absurd (h.targets rfl (by decide +kernel)) (by decide +kernel)

end GuideXOS.Isa
