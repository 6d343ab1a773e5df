import GuideXOS.Decoder.LoadWords
import GuideXOS.Isa.NaTPropagation

/-!
# `SpeculativeLoads` — loads that ought not to fault

A speculative load whose access would fault ought to mark its target, move its base on and end like any other
instruction. The execution knows only one kind of load: its access faults. What the decoder takes for speculative are
the loads with a bit of `x6` that the speculative ones do not have.
-/

namespace GuideXOS.Isa
open Lib Lib.Words GuideXOS.Core GuideXOS.Decoder

section Loads
variable {M F : Type} [IMemory M] (host : ExecuteHost M F) {raw : UInt64} {load : Load} {instr : InstructionEx}
  {cpu : CPUState} {memory : M} {f : IA64TranslationFault}

/-- The access of a load raises a fault. -/
def FaultsWith (load : Load) (cpu : CPUState) (memory : M) (f : IA64TranslationFault) : Prop :=
  (readData cpu memory (cpu.getGR load.r3) load.bytes).1 = .error (.translation (.fault f))

theorem switchCase_load (speculative : Bool) (size : BitVec 2) :
    switchCase (loadInstruction speculative size) = .load (2 ^ size.toNat) := by
  have hsize : ∀ size : BitVec 2, size = 0 ∨ size = 1 ∨ size = 2 ∨ size = 3 := by decide
  obtain rfl | rfl | rfl | rfl := hsize size <;> cases speculative <;> rfl

/-- An execution of a load, speculative or not, is its access. -/
theorem execute_load (h : MTypeDecoder.DecodesLoad raw load instr) {ignorePredicate : Bool}
    (hqualifies : ignorePredicate = true ∨ cpu.getPR (MWord.qp raw).toFin = true) :
    execute (executeSwitch host .sequential) instr cpu memory ignorePredicate =
      ((executeLoad .sequential instr cpu memory load.bytes).1,
        (executeLoad .sequential instr cpu memory load.bytes).2, memory) := by
  have hcase : switchCase instr.type = .load load.bytes := by
    rw [h.type]
    exact switchCase_load _ _
  have hloop : [InstructionType.BR_CLOOP, .BR_CTOP, .BR_CEXIT].contains instr.type = false := by
    generalize instr.type = type at hcase ⊢
    cases type <;> first | rfl | cases hcase
  have hset : qualifies instr cpu ignorePredicate = true := by
    rw [qualifies_eq h.predicate hloop, Bool.or_eq_true]
    exact hqualifies
  rw [execute_of_qualifies host hset]
  unfold executeSwitch
  rw [hcase]

/-- **An access that faults** ends a load, whatever its variant, and no register is written. -/
theorem executeLoad_fault {width : Nat}
    (h : (readData cpu memory (cpu.getGR (registerField instr.src1)) width).1 = .error (.translation (.fault f))) :
    (executeLoad .sequential instr cpu memory width).1 = .fault f ∧
      SameButDataTlb cpu (executeLoad .sequential instr cpu memory width).2 := by
  have hframe := readData_frame cpu memory (cpu.getGR (registerField instr.src1)) width
  unfold executeLoad
  dsimp only
  rw [gr1_sequential]
  revert h hframe
  rcases readData cpu memory (cpu.getGR (registerField instr.src1)) width with ⟨(e | bytes), cpu'⟩
  · intro h hframe
    obtain rfl := Except.error.inj h
    exact ⟨rfl, hframe⟩
  · intro h
    cases h

/-- A load faults only by its access. -/
theorem fault_of_executeLoad {width : Nat} (h : (executeLoad .sequential instr cpu memory width).1 = .fault f) :
    (readData cpu memory (cpu.getGR (registerField instr.src1)) width).1 = .error (.translation (.fault f)) := by
  unfold executeLoad at h
  dsimp only at h
  rw [gr1_sequential] at h
  revert h
  rcases readData cpu memory (cpu.getGR (registerField instr.src1)) width with ⟨(e | bytes), cpu'⟩
  · rcases e with (e | what)
    · cases e <;> intro h <;> cases h
      rfl
    · intro h
      cases h
  · dsimp only
    intro h
    split at h
    · cases h
    · split at h <;> cases h

end Loads

/-! ## Deferral -/

/-- **What a load ought to do when its access faults**: a speculative one marks its target and updates its base, any
    other one raises the fault. Only speculative ones are decoded as such. -/
structure DefersRightly {M F : Type} [IMemory M] (host : ExecuteHost M F) (raw ip : UInt64) (load : Load)
    (cpu : CPUState) (memory : M) (ignorePredicate : Bool) : Prop where
  speculative : load.kind.speculative = true →
    let result := execute (executeSwitch host .sequential) (decodeSlot raw .M_UNIT ip) cpu memory ignorePredicate
    (∀ f, result.1 ≠ .fault f) ∧ ∀ f, FaultsWith load cpu memory f →
      result.2.1.getGRNaT load.r1 = true ∧
        ∀ i ∈ load.increment cpu.getGR, result.2.1.getGR load.r3 = cpu.getGR load.r3 + i
  other : load.kind.speculative = false →
    let result := execute (executeSwitch host .sequential) (decodeSlot raw .M_UNIT ip) cpu memory ignorePredicate
    (decodeSlot raw .M_UNIT ip).type = loadInstruction false load.size ∧ ∀ f, FaultsWith load cpu memory f →
      result.1 = .fault f ∧ SameButDataTlb cpu result.2.1

/-- **Loads defer** as they ought to exactly when the access of a speculative one does not fault, and when one that is
    not speculative is not decoded as if it were. -/
theorem defersRightly_iff {M F : Type} [IMemory M] : ∀ (host : ExecuteHost M F) (raw ip : UInt64) (load : Load)
    (cpu : CPUState) (memory : M) (ignorePredicate : Bool), architectedLoad raw = some load →
    ignorePredicate = true ∨ cpu.getPR (MWord.qp raw).toFin = true →
    (DefersRightly host raw ip load cpu memory ignorePredicate ↔
      if load.kind.speculative = true then ∀ f, ¬ FaultsWith load cpu memory f
      else load.kind.decodedSpeculative = false) := by
  intro host raw ip load cpu memory ignorePredicate hload hqualifies
  have hdecodes := MTypeDecoder.decodesLoad hload ip
  have hexecute := @execute_load M F _ host raw load _ cpu memory hdecodes ignorePredicate hqualifies
  have hbase : registerField (decodeSlot raw .M_UNIT ip).src1 = load.r3 := by
    rw [hdecodes.src1]
    obtain ⟨kind, -, hload⟩ := Option.bind_eq_some_iff.mp hload
    obtain ⟨update, -, rfl⟩ := Option.map_eq_some_iff.mp hload
    exact registerField_field (by simp)
  have hfault : ∀ f, FaultsWith load cpu memory f →
      (execute (executeSwitch host .sequential) (decodeSlot raw .M_UNIT ip) cpu memory ignorePredicate).1 = .fault f ∧
        SameButDataTlb cpu
          (execute (executeSwitch host .sequential) (decodeSlot raw .M_UNIT ip) cpu memory ignorePredicate).2.1 := by
    intro f hf
    rw [hexecute]
    apply executeLoad_fault
    rw [hbase]
    exact hf
  have htype : (decodeSlot raw .M_UNIT ip).type = loadInstruction false load.size ↔
      load.kind.decodedSpeculative = false := by
    rw [hdecodes.type]
    exact loadInstruction_inj load.size
  by_cases hkind : load.kind.speculative = true
  · rw [if_pos hkind]
    constructor
    · intro h f hf
      exact (h.speculative hkind).1 f (hfault f hf).1
    · intro h
      refine ⟨fun _ => ⟨?_, fun f hf => absurd hf (h f)⟩, fun hother => absurd hkind (by simp [hother])⟩
      -- a fault of the execution is one of the access
      intro f hf
      apply h f
      rw [hexecute] at hf
      have haccess := fault_of_executeLoad hf
      rwa [hbase] at haccess
  · rw [if_neg hkind]
    constructor
    · intro h
      exact htype.mp (h.other (Bool.eq_false_iff.mpr hkind)).1
    · intro h
      exact ⟨fun hspeculative => absurd hspeculative hkind, fun _ => ⟨htype.mpr h, hfault⟩⟩

/-- The data accesses are translated, and nothing is mapped at `GR5`. -/
def nothingMapped : CPUState := { CPUState.reset.setGR 5 0x1000 with psr := (1 : UInt64) <<< 17 }

/-- `ld8 r4 = [r5]`. -/
theorem defersRightly_ld8 :
    DefersRightly flatHost 0x80C0500100 0 ⟨.plain, 3, 4, 5, none⟩ nothingMapped sixteenMemory true :=
  (defersRightly_iff flatHost 0x80C0500100 0 ⟨.plain, 3, 4, 5, none⟩ nothingMapped sixteenMemory true
    (by decide +kernel) (.inl rfl)).mpr rfl

/-- **A speculative load faults**, and an acquiring one is taken for speculative: `ld8.s r4 = [r5]` and
    `ld8.acq r4 = [r5]`. -/
theorem defersRightly_not :
    (architectedLoad 0x81C0500100 = some ⟨.s, 3, 4, 5, none⟩ ∧
        ¬ DefersRightly flatHost 0x81C0500100 0 ⟨.s, 3, 4, 5, none⟩ nothingMapped sixteenMemory true) ∧
      (architectedLoad 0x85C0500100 = some ⟨.acq, 3, 4, 5, none⟩ ∧
        ¬ DefersRightly flatHost 0x85C0500100 0 ⟨.acq, 3, 4, 5, none⟩ nothingMapped sixteenMemory true) := by
  refine ⟨⟨by decide +kernel, fun h => ?_⟩, by decide +kernel, fun h => ?_⟩
  · -- it ends neither with nothing to report nor with an exception of the host
    have hend : (execute (executeSwitch flatHost .sequential) (decodeSlot 0x81C0500100 .M_UNIT 0) nothingMapped
        sixteenMemory true).1 ≠ .done ∧
      (execute (executeSwitch flatHost .sequential) (decodeSlot 0x81C0500100 .M_UNIT 0) nothingMapped
        sixteenMemory true).1 ≠ .threw := by decide +kernel
    have hnever := (h.speculative rfl).1
    revert hend hnever
    cases (execute (executeSwitch flatHost .sequential) (decodeSlot 0x81C0500100 .M_UNIT 0) nothingMapped
      sixteenMemory true).1 with
    | done =>
        intro hend _
        exact hend.1 rfl
    | fault f =>
        intro _ hnever
        exact hnever f rfl
    | threw =>
        intro hend _
        exact hend.2 rfl
  · exact absurd (h.other rfl).1 (by decide +kernel)

end GuideXOS.Isa
