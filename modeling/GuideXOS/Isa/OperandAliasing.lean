import GuideXOS.Isa.ExecuteCases

/-!
# `OperandAliasing` — destinations that are also sources

An instruction should see its registers as they were when it began, whichever of its operands coincide: its effect
should be the one through `RegisterView.snapshot`. Most cases of the `switch` read everything before they write.

* `SHL`, `MUX1`, `CZX1_R` and `SHRP` read the NaT bits of their sources after the result is written, and the write
  has cleared the bit of the destination.
* A load with a register increment reads the increment after the loaded value is written.

`aliasing_harmless_iff` says when that makes a difference. Two register numbers can name one register also by rotation
into the second bank, so operands are compared where they lie.
-/

namespace GuideXOS.Core

/-! ## Reading a register file that was written -/

namespace GRFile

/-- A position that can be written. -/
def Writable (i : Nat) : Prop := i ≠ 0 ∧ i < 144

instance (i : Nat) : Decidable (Writable i) := inferInstanceAs (Decidable (_ ∧ _))

theorem set_of_not_writable {f : GRFile} {i : Nat} (h : ¬ Writable i) (v : UInt64) : f.set i v = f := by
  by_cases h0 : i = 0
  · rw [h0, set_zero]
  · have hout : 144 ≤ i := Nat.le_of_not_lt fun hlt => h ⟨h0, hlt⟩
    refine GRFile.ext (fun j hj => get_set_ne (by omega) v) fun j hj => getNaT_set_ne (by omega) v

theorem get_set (f : GRFile) (i j : Nat) (v : UInt64) :
    (f.set i v).get j = if j = i ∧ Writable i then v else f.get j := by
  by_cases hij : j = i
  · subst hij
    by_cases hw : Writable j
    · rw [if_pos ⟨rfl, hw⟩, get_set_self hw.1 hw.2]
    · rw [if_neg fun h => hw h.2, set_of_not_writable hw]
  · rw [if_neg fun h => hij h.1, get_set_ne fun h => hij h.symm]

theorem getNaT_set (f : GRFile) (i j : Nat) (v : UInt64) :
    (f.set i v).getNaT j = (f.getNaT j && decide (j ≠ i)) := by
  by_cases hij : j = i
  · rw [hij, getNaT_set_self]
    simp
  · rw [getNaT_set_ne fun h => hij h.symm]
    simp [hij]

/-- A register that is marked can be written. -/
theorem writable_of_getNaT {f : GRFile} {i : Nat} (h : f.getNaT i = true) : Writable i := by
  refine ⟨?_, ?_⟩
  · rintro rfl
    rw [getNaT_zero] at h
    cases h
  · by_contra hout
    rw [getNaT, Vector.getElem?_eq_none (Nat.le_of_not_lt hout)] at h
    cases h

theorem set_inj {f : GRFile} {i : Nat} (hw : Writable i) {v w : UInt64} : f.set i v = f.set i w ↔ v = w := by
  constructor
  · intro h
    have hread := congrArg (fun f : GRFile => f.get i) h
    rwa [get_set_self hw.1 hw.2, get_set_self hw.1 hw.2] at hread
  · rintro rfl
    rfl

theorem setNaT_inj {f : GRFile} {i : Nat} (hw : Writable i) {b c : Bool} : f.setNaT i b = f.setNaT i c ↔ b = c := by
  constructor
  · intro h
    have hread := congrArg (fun f : GRFile => f.getNaT i) h
    rwa [getNaT_setNaT_self hw.1 hw.2, getNaT_setNaT_self hw.1 hw.2] at hread
  · rintro rfl
    rfl

end GRFile

namespace CPUState
open GRFile
variable (s : CPUState)

/-! ## `GR0` like the others -/

theorem mapGR_zero : s.mapGR 0 = 0 := by
  unfold mapGR
  rw [if_neg fun h => absurd h.1 (by decide), if_pos (.inl (by decide))]

theorem getGR_eq (r : Fin 128) : s.getGR r = s.gr.get (s.mapGR r) := by
  by_cases h0 : r = 0
  · subst h0
    exact (congrArg s.gr.get s.mapGR_zero ▸ (get_zero s.gr).symm : (0 : UInt64) = s.gr.get (s.mapGR 0))
  · exact if_neg h0

theorem getGRNaT_eq (r : Fin 128) : s.getGRNaT r = s.gr.getNaT (s.mapGR r) := by
  by_cases h0 : r = 0
  · subst h0
    exact (congrArg s.gr.getNaT s.mapGR_zero ▸ (getNaT_zero s.gr).symm : false = s.gr.getNaT (s.mapGR 0))
  · exact if_neg h0

theorem setGR_eq (r : Fin 128) (v : UInt64) : s.setGR r v = { s with gr := s.gr.set (s.mapGR r) v } := by
  by_cases h0 : r = 0
  · subst h0
    show s = { s with gr := s.gr.set (s.mapGR 0) v }
    rw [mapGR_zero, set_zero]
  · exact if_neg h0

theorem setGRNaT_eq (r : Fin 128) (b : Bool) : s.setGRNaT r b = { s with gr := s.gr.setNaT (s.mapGR r) b } := by
  by_cases h0 : r = 0
  · subst h0
    show s = { s with gr := s.gr.setNaT (s.mapGR 0) b }
    rw [mapGR_zero]
    rfl
  · exact if_neg h0

/-- The other register is the one that was written, or it reads as before. -/
theorem getGR_setGR (d r : Fin 128) (v : UInt64) :
    (s.setGR d v).getGR r = if s.mapGR r = s.mapGR d ∧ Writable (s.mapGR d) then v else s.getGR r := by
  rw [setGR_eq, getGR_eq, getGR_eq]
  exact get_set s.gr (s.mapGR d) (s.mapGR r) v

theorem getGRNaT_setGR (d r : Fin 128) (v : UInt64) :
    (s.setGR d v).getGRNaT r = (s.getGRNaT r && decide (s.mapGR r ≠ s.mapGR d)) := by
  rw [setGR_eq, getGRNaT_eq, getGRNaT_eq]
  exact getNaT_set s.gr (s.mapGR d) (s.mapGR r) v

theorem setGR_inj {s : CPUState} {d : Fin 128} (hw : Writable (s.mapGR d)) {v w : UInt64} :
    s.setGR d v = s.setGR d w ↔ v = w := by
  rw [setGR_eq, setGR_eq, ← set_inj (f := s.gr) hw]
  exact ⟨congrArg CPUState.gr, fun h => by rw [h]⟩

theorem setGR_of_not_writable {s : CPUState} {d : Fin 128} (hw : ¬ Writable (s.mapGR d)) (v : UInt64) :
    s.setGR d v = s := by
  rw [setGR_eq, set_of_not_writable hw]

@[simp] theorem mapGR_setGR (d r : Fin 128) (v : UInt64) : (s.setGR d v).mapGR r = s.mapGR r := by
  rw [setGR_eq]
  rfl

theorem setGRNaT_inj {s : CPUState} {d : Fin 128} (hw : Writable (s.mapGR d)) {b c : Bool} :
    s.setGRNaT d b = s.setGRNaT d c ↔ b = c := by
  rw [setGRNaT_eq, setGRNaT_eq, ← setNaT_inj (f := s.gr) hw]
  exact ⟨congrArg CPUState.gr, fun h => by rw [h]⟩

end CPUState

end GuideXOS.Core

namespace GuideXOS.Isa
open Lib Lib.Words GuideXOS.Core GuideXOS.Decoder

/-! ## NaT bits that are read late -/

/-- If a source is marked, one is that does not lie where the result goes. -/
def NaTsApart (cpu : CPUState) (d : Fin 128) (sources : List (Fin 128)) : Prop :=
  (∃ r ∈ sources, cpu.getGRNaT r = true) → ∃ r ∈ sources, cpu.getGRNaT r = true ∧ cpu.mapGR r ≠ cpu.mapGR d

/-- The sources whose NaT bits are read when the result is already written. -/
def lateSources (instr : InstructionEx) : List (Fin 128) :=
  let r1 := registerField instr.src1
  let r2 := registerField instr.src2
  match switchCase instr.type with
  | .shl => if instr.hasImmediate then [r1] else [r1, r2]
  | .mux1 | .czx1 => [r1]
  | .shrp => if instr.hasImmediate then [r1, r2] else []
  | _ => []

section
variable (cpu : CPUState) (d : Fin 128) (v : UInt64) (sources : List (Fin 128))

/-- What is read late is what was there exactly when the destination is not the only source that is marked. -/
theorem any_late_eq_iff :
    sources.any (cpu.setGR d v).getGRNaT = sources.any cpu.getGRNaT ↔ NaTsApart cpu d sources := by
  have hlate : sources.any (cpu.setGR d v).getGRNaT = true ↔
      ∃ r ∈ sources, cpu.getGRNaT r = true ∧ cpu.mapGR r ≠ cpu.mapGR d := by
    simp [List.any_eq_true, CPUState.getGRNaT_setGR]
  have hbefore : sources.any cpu.getGRNaT = true ↔ ∃ r ∈ sources, cpu.getGRNaT r = true := List.any_eq_true
  -- what was read late is set only if what was read before is
  rw [Bool.eq_iff_iff, hlate, hbefore]
  constructor
  · intro h hsome
    exact h.mpr hsome
  · intro hapart
    exact ⟨fun ⟨r, hr, hnat, _⟩ => ⟨r, hr, hnat⟩, hapart⟩

/-- **Late NaT bits.** They give the destination the bit it ought to get exactly when its old contents do not decide
    it alone. -/
theorem lateNaTs_iff : (cpu.setGR d v).setGRNaT d (sources.any (cpu.setGR d v).getGRNaT) =
        (cpu.setGR d v).setGRNaT d (sources.any cpu.getGRNaT) ↔ NaTsApart cpu d sources := by
  have hbool := any_late_eq_iff cpu d v sources
  by_cases hw : GRFile.Writable (cpu.mapGR d)
  · rw [CPUState.setGRNaT_inj (by rwa [CPUState.mapGR_setGR]), hbool]
  · -- no source lies at a place that cannot be written and is marked
    have hapart : NaTsApart cpu d sources := by
      rintro ⟨r, hr, hnat⟩
      refine ⟨r, hr, hnat, fun hplace => hw ?_⟩
      rw [CPUState.getGRNaT_eq, hplace] at hnat
      exact GRFile.writable_of_getNaT hnat
    exact iff_of_true (by rw [hbool.mpr hapart]) hapart

end

/-- A result written, and then the NaT bit from the sources as the view shows them. -/
def writtenLate (view : RegisterView) (instr : InstructionEx) (cpu : CPUState) (result : UInt64) : CPUState :=
  let written := writeGR instr cpu result
  writeGRNaT instr written ((lateSources instr).any (view written).getGRNaT)

section Late
variable {view : RegisterView} {instr : InstructionEx} {cpu : CPUState}

theorem writtenLate_iff (result : UInt64) :
    writtenLate .sequential instr cpu result = writtenLate (.snapshot cpu) instr cpu result ↔
      NaTsApart cpu (registerField instr.dst) (lateSources instr) :=
  lateNaTs_iff cpu (registerField instr.dst) result (lateSources instr)

theorem executeShl_eq (h : switchCase instr.type = .shl) :
    executeShl view instr cpu = writtenLate view instr cpu (gr1 view instr cpu <<<
      ((if instr.hasImmediate then instr.immediate else gr2 view instr cpu) &&& 0x3F)) := by
  unfold writtenLate lateSources executeShl
  rw [h]
  cases instr.hasImmediate
  · simp only [Bool.false_eq_true, if_false, List.any_cons, List.any_nil, Bool.or_false]
    rfl
  · rfl

theorem executeMux1_eq (h : switchCase instr.type = .mux1) :
    executeMux1 view instr cpu = writtenLate view instr cpu (mux1 (gr1 view instr cpu) instr.immediate) := by
  unfold writtenLate lateSources executeMux1
  rw [h]
  simp only [List.any_cons, List.any_nil, Bool.or_false]
  rfl

theorem executeCzx1_eq (h : switchCase instr.type = .czx1) :
    executeCzx1 view instr cpu = writtenLate view instr cpu (czx1 (gr1 view instr cpu)) := by
  unfold writtenLate lateSources executeCzx1
  rw [h]
  simp only [List.any_cons, List.any_nil, Bool.or_false]
  rfl

theorem executeShrp_eq (h : switchCase instr.type = .shrp) (himmediate : instr.hasImmediate = true) :
    executeShrp view instr cpu = writtenLate view instr cpu
      (shiftPair (gr1 view instr cpu) (gr2 view instr cpu) (instr.immediate &&& 0x3F)) := by
  unfold writtenLate lateSources executeShrp
  rw [h, himmediate]
  simp only [if_true, List.any_cons, List.any_nil, Bool.or_false]
  rfl

theorem executeShrp_iff (h : switchCase instr.type = .shrp) :
    executeShrp .sequential instr cpu = executeShrp (.snapshot cpu) instr cpu ↔
      NaTsApart cpu (registerField instr.dst) (lateSources instr) := by
  by_cases himmediate : instr.hasImmediate = true
  · rw [executeShrp_eq h himmediate, executeShrp_eq h himmediate]
    exact writtenLate_iff _
  · -- without an immediate there is nothing to do and no source
    have hsources : lateSources instr = [] := by
      unfold lateSources
      rw [h]
      exact if_neg himmediate
    unfold executeShrp
    rw [if_neg himmediate, if_neg himmediate, hsources]
    refine iff_of_true rfl ?_
    rintro ⟨r, hr, _⟩
    cases hr

end Late

/-! ## Increments that are read late -/

/-- The register a load adds to its base. -/
def incrementSource (instr : InstructionEx) : Option (Fin 128) :=
  if instr.hasImmediate ∨ instr.src2 = 0 then none else some (registerField instr.src2)

/-- If the increment lies where the loaded value goes, and the base can be updated at all, the value loaded is the
    increment that was there. -/
def IncrementApart {M : Type} [IMemory M] (instr : InstructionEx) (cpu : CPUState) (memory : M) (width : Nat) : Prop :=
  ∀ bytes, (readData cpu memory (cpu.getGR (registerField instr.src1)) width).1 = .ok bytes →
    ∀ r ∈ incrementSource instr, cpu.mapGR r = cpu.mapGR (registerField instr.dst) →
      GRFile.Writable (cpu.mapGR (registerField instr.dst)) → GRFile.Writable (cpu.mapGR (registerField instr.src1)) →
      cpu.getGR r = wordOfBytes bytes

section Increments
variable {M : Type} [IMemory M] {instr : InstructionEx} {cpu : CPUState} {memory : M} {width : Nat}

/-- The base updated by an increment that is read from the written registers, and by the one that was there. -/
theorem lateIncrement_iff (loaded : CPUState) (bytes : List UInt8) (baseAddress : UInt64) (d base r : Fin 128)
    (hgr : loaded.gr = cpu.gr) (hmap : ∀ r : Fin 128, loaded.mapGR r = cpu.mapGR r) :
    (loaded.setGR d (wordOfBytes bytes)).setGR base
          (baseAddress + (loaded.setGR d (wordOfBytes bytes)).getGR r) =
        (loaded.setGR d (wordOfBytes bytes)).setGR base (baseAddress + cpu.getGR r) ↔
      (cpu.mapGR r = cpu.mapGR d → GRFile.Writable (cpu.mapGR d) → GRFile.Writable (cpu.mapGR base) →
        cpu.getGR r = wordOfBytes bytes) := by
  have hbefore : loaded.getGR r = cpu.getGR r := by
    rw [CPUState.getGR_eq, CPUState.getGR_eq, hgr, hmap]
  have hlate := CPUState.getGR_setGR loaded d r (wordOfBytes bytes)
  rw [hmap, hmap, hbefore] at hlate
  by_cases hbase : GRFile.Writable (cpu.mapGR base)
  · -- the two bases are alike if the two increments are
    rw [CPUState.setGR_inj (by rwa [CPUState.mapGR_setGR, hmap]), UInt64.add_right_inj, hlate]
    by_cases haliased : cpu.mapGR r = cpu.mapGR d ∧ GRFile.Writable (cpu.mapGR d)
    · rw [if_pos haliased]
      exact ⟨fun h _ _ _ => h.symm, fun h => (h haliased.1 haliased.2 hbase).symm⟩
    · rw [if_neg haliased]
      exact iff_of_true rfl fun hplace hw _ => absurd ⟨hplace, hw⟩ haliased
  · have hbase' : ¬ GRFile.Writable ((loaded.setGR d (wordOfBytes bytes)).mapGR base) := by
      rwa [CPUState.mapGR_setGR, hmap]
    rw [CPUState.setGR_of_not_writable hbase', CPUState.setGR_of_not_writable hbase']
    exact iff_of_true rfl fun _ _ hw => absurd hw hbase

/-- **Late increments.** -/
theorem executeLoad_iff :
    executeLoad .sequential instr cpu memory width = executeLoad (.snapshot cpu) instr cpu memory width ↔
      IncrementApart instr cpu memory width := by
  have hframe := readData_frame cpu memory (cpu.getGR (registerField instr.src1)) width
  unfold executeLoad IncrementApart
  dsimp only
  rw [gr1_sequential, gr1_snapshot]
  revert hframe
  rcases readData cpu memory (cpu.getGR (registerField instr.src1)) width with ⟨(e | bytes), cpu'⟩
  · intro _
    exact iff_of_true rfl fun bytes hbytes => by cases hbytes
  · -- the load has changed nothing but its translation cache, and the increment is read behind the write
    rintro ⟨entries, cursor, rfl⟩
    dsimp only
    by_cases himmediate : instr.hasImmediate = true
    · have hsource : incrementSource instr = none := if_pos (.inl himmediate)
      rw [if_pos himmediate, if_pos himmediate, hsource]
      exact iff_of_true rfl fun _ _ r hr => by cases hr
    by_cases hsrc2 : instr.src2 = 0
    · have hsource : incrementSource instr = none := if_pos (.inr hsrc2)
      rw [if_neg himmediate, if_neg himmediate, if_neg (not_not_intro hsrc2), if_neg (not_not_intro hsrc2), hsource]
      exact iff_of_true rfl fun _ _ r hr => by cases hr
    have hsource : incrementSource instr = some (registerField instr.src2) :=
      if_neg (not_or.mpr ⟨himmediate, hsrc2⟩)
    rw [if_neg himmediate, if_neg himmediate, if_pos hsrc2, if_pos hsrc2, hsource]
    have hiff := lateIncrement_iff { cpu with dtlb := entries, dtlbReplacementIndex := cursor } bytes
      (cpu.getGR (registerField instr.src1)) (registerField instr.dst) (registerField instr.src1)
      (registerField instr.src2) rfl fun _ => rfl
    constructor
    · intro h bytes' hbytes r hr
      obtain rfl := Option.some.inj hr
      obtain rfl := Except.ok.inj hbytes
      exact hiff.mp (Prod.mk.inj h).2
    · intro h
      exact congrArg (Prod.mk ExecuteEnd.done) (hiff.mpr (h bytes rfl _ rfl))

end Increments

/-! ## The cases that read before they write -/

section Early
variable {M : Type} [IMemory M] {instr : InstructionEx} {cpu : CPUState} {memory : M}

/-- After a load or a translation the registers are still those there were. -/
theorem executeLfetch_early :
    executeLfetch .sequential instr cpu memory = executeLfetch (.snapshot cpu) instr cpu memory := by
  have hframe := readData_frame cpu memory (cpu.getGR (registerField instr.src1)) 1
  unfold executeLfetch
  rw [gr1_sequential, gr1_snapshot]
  revert hframe
  rcases readData cpu memory (cpu.getGR (registerField instr.src1)) 1 with ⟨(e | bytes), cpu'⟩
  · intro _
    rfl
  · rintro ⟨entries, cursor, rfl⟩
    rfl

/-- A semaphore whose new value is read between the load and the store. -/
theorem executeSemaphore_early {width : Nat} {newValue newValue' : CPUState → UInt64 → Option UInt64}
    (hvalue : ∀ cpu' oldValue, SameButDataTlb cpu cpu' → newValue cpu' oldValue = newValue' cpu' oldValue) :
    executeSemaphore .sequential instr cpu memory width newValue =
      executeSemaphore (.snapshot cpu) instr cpu memory width newValue' := by
  have hframe := readData_frame cpu memory (cpu.getGR (registerField instr.src1)) width
  unfold executeSemaphore
  dsimp only
  rw [gr1_sequential, gr1_snapshot]
  revert hframe
  rcases readData cpu memory (cpu.getGR (registerField instr.src1)) width with ⟨(e | bytes), cpu'⟩
  · intro _
    rfl
  · intro hframe
    dsimp only
    rw [hvalue cpu' (wordOfBytes bytes) hframe]

theorem executeCmpxchg_early {width : Nat} :
    executeCmpxchg .sequential instr cpu memory width = executeCmpxchg (.snapshot cpu) instr cpu memory width := by
  refine executeSemaphore_early ?_
  rintro _ oldValue ⟨entries, cursor, rfl⟩
  rfl

theorem executeXchg4_early :
    executeXchg4 .sequential instr cpu memory = executeXchg4 (.snapshot cpu) instr cpu memory := by
  refine executeSemaphore_early ?_
  rintro _ oldValue ⟨entries, cursor, rfl⟩
  rfl

theorem executeFetchadd4_early :
    executeFetchadd4 .sequential instr cpu memory = executeFetchadd4 (.snapshot cpu) instr cpu memory :=
  executeSemaphore_early fun _ _ _ => rfl

theorem executeFc_early (mmu : Option MMU) :
    executeFc .sequential instr cpu memory mmu = executeFc (.snapshot cpu) instr cpu memory mmu := by
  unfold executeFc
  rw [gr1_sequential, gr1_snapshot]
  cases mmu with
  | none => rfl
  | some mmu =>
      dsimp only
      cases htranslated : translateDataAddress cpu memory (cpu.getGR (registerField instr.src1)) .READ with
      | error e => rfl
      | ok translated =>
          obtain ⟨translated, cpu'⟩ := translated
          obtain ⟨entries, cursor, rfl⟩ := translateDataAddress_frame htranslated
          rfl

end Early

/-! ## Every instruction -/

/-- No source is read late, or what is read late is what was there. -/
structure ReadsInTime {M : Type} [IMemory M] (instr : InstructionEx) (cpu : CPUState) (memory : M) : Prop where
  nats : NaTsApart cpu (registerField instr.dst) (lateSources instr)
  increment : ∀ width, switchCase instr.type = .load width → IncrementApart instr cpu memory width

section Cases
variable {M F : Type} [IMemory M] {instr : InstructionEx} {cpu : CPUState} {memory : M} (host : ExecuteHost M F)

theorem natsApart_nil (d : Fin 128) (h : lateSources instr = []) : NaTsApart cpu d (lateSources instr) := by
  rw [h]
  rintro ⟨r, hr, _⟩
  cases hr

/-- A case that reads no source late. -/
theorem readsInTime_of_early (hsources : lateSources instr = [])
    (hload : ∀ width, switchCase instr.type ≠ .load width) :
    ReadsInTime instr cpu memory :=
  ⟨natsApart_nil _ hsources, fun width h => absurd h (hload width)⟩

theorem readsInTime_iff_nats {c : SwitchCase} (hcase : switchCase instr.type = c) (hload : ∀ width, c ≠ .load width) :
    ReadsInTime instr cpu memory ↔ NaTsApart cpu (registerField instr.dst) (lateSources instr) :=
  ⟨ReadsInTime.nats, fun h => ⟨h, fun width hwidth => absurd (hcase.symm.trans hwidth) (hload width)⟩⟩

theorem readsInTime_iff_increment {width : Nat} (h : switchCase instr.type = .load width) :
    ReadsInTime instr cpu memory ↔ IncrementApart instr cpu memory width := by
  have hsources : lateSources instr = [] := by
    unfold lateSources
    rw [h]
  constructor
  · intro hin
    exact hin.increment width h
  · intro hapart
    refine ⟨natsApart_nil _ hsources, fun width' h' => ?_⟩
    rw [h] at h'
    obtain rfl := SwitchCase.load.inj h'
    exact hapart

/-- The cases that read before they write. -/
def readsFirst : SwitchCase → Bool
  | .shl | .mux1 | .czx1 | .shrp | .load _ => false
  | _ => true

theorem executeSwitch_early (h : readsFirst (switchCase instr.type) = true) :
    executeSwitch host .sequential instr cpu memory = executeSwitch host (.snapshot cpu) instr cpu memory := by
  unfold executeSwitch
  revert h
  cases switchCase instr.type with
  | shl | mux1 | czx1 | shrp | load width =>
      intro h
      cases h
  | lfetch =>
      intro _
      dsimp only
      rw [executeLfetch_early]
  | cmpxchg width =>
      intro _
      exact executeCmpxchg_early
  | xchg4 =>
      intro _
      exact executeXchg4_early
  | fetchadd4 =>
      intro _
      exact executeFetchadd4_early
  | fc =>
      intro _
      dsimp only
      rw [executeFc_early]
  | _ =>
      -- every read of these stands before the first write
      intro _
      rfl

theorem readsInTime_of_readsFirst (h : readsFirst (switchCase instr.type) = true) : ReadsInTime instr cpu memory := by
  refine readsInTime_of_early ?_ ?_
  · unfold lateSources
    revert h
    cases switchCase instr.type with
    | shl | mux1 | czx1 | shrp | load width =>
        intro h
        cases h
    | _ =>
        intro _
        rfl
  · intro width hcase
    rw [hcase] at h
    cases h

omit [IMemory M] in
/-- Only the registers of the results differ. -/
theorem done_eq_iff {e : ExecuteEnd} {a b : CPUState} : (e, a, memory) = (e, b, memory) ↔ a = b := by
  constructor
  · intro h
    exact (Prod.mk.inj (Prod.mk.inj h).2).1
  · rintro rfl
    rfl

theorem executeSwitch_iff :
    executeSwitch host .sequential instr cpu memory = executeSwitch host (.snapshot cpu) instr cpu memory ↔
      ReadsInTime instr cpu memory := by
  by_cases hfirst : readsFirst (switchCase instr.type) = true
  · exact iff_of_true (executeSwitch_early host hfirst) (readsInTime_of_readsFirst hfirst)
  unfold executeSwitch
  cases hcase : switchCase instr.type with
  | shl =>
      rw [readsInTime_iff_nats hcase fun _ h => nomatch h]
      dsimp only
      rw [done_eq_iff, executeShl_eq hcase, executeShl_eq hcase]
      exact writtenLate_iff _
  | mux1 =>
      rw [readsInTime_iff_nats hcase fun _ h => nomatch h]
      dsimp only
      rw [done_eq_iff, executeMux1_eq hcase, executeMux1_eq hcase]
      exact writtenLate_iff _
  | czx1 =>
      rw [readsInTime_iff_nats hcase fun _ h => nomatch h]
      dsimp only
      rw [done_eq_iff, executeCzx1_eq hcase, executeCzx1_eq hcase]
      exact writtenLate_iff _
  | shrp =>
      rw [readsInTime_iff_nats hcase fun _ h => nomatch h]
      dsimp only
      rw [done_eq_iff]
      exact executeShrp_iff hcase
  | load width =>
      rw [readsInTime_iff_increment hcase, ← executeLoad_iff]
      constructor
      · intro h
        obtain ⟨hend, hrest⟩ := Prod.mk.inj h
        exact Prod.ext hend (Prod.mk.inj hrest).1
      · intro h
        exact congrArg (fun r => (r.1, r.2, memory)) h
  | _ =>
      rw [hcase] at hfirst
      exact absurd rfl hfirst

end Cases

/-- **Operand aliasing.** An instruction, whatever its operands and whatever the state, has the effect of reading every
    source first and writing then: exactly when its predicate is false or no source is overwritten before it is read,
    but for one that is overwritten with what was there. -/
theorem aliasing_harmless_iff {M F : Type} [IMemory M] :
    ∀ (host : ExecuteHost M F) (instr : InstructionEx) (cpu : CPUState) (memory : M) (ignorePredicate : Bool),
      execute (executeSwitch host .sequential) instr cpu memory ignorePredicate =
          executeViewed host (.snapshot cpu) instr cpu memory ignorePredicate ↔
        (qualifies instr cpu ignorePredicate = true → ReadsInTime instr cpu memory) := by
  intro host instr cpu memory ignorePredicate
  rw [execute_eq_sequential]
  unfold executeViewed
  by_cases hqualifies : qualifies instr cpu ignorePredicate = false
  · rw [if_pos hqualifies, if_pos hqualifies]
    refine iff_of_true rfl fun htrue => ?_
    rw [hqualifies] at htrue
    cases htrue
  · rw [if_neg hqualifies, if_neg hqualifies, executeSwitch_iff]
    exact ⟨fun h _ => h, fun h => h (Bool.not_eq_false _ ▸ hqualifies)⟩

/-! ## Two that go wrong -/

/-- `shl r4 = r4, 1`. -/
def shlOntoItself : InstructionEx :=
  { type := .SHL, dst := 4, src1 := 4, immediate := 1, hasImmediate := true }

/-- `ld8 r4 = [r5], r4`. -/
def loadOntoIncrement : InstructionEx := { type := .LD8, unit := .M_UNIT, dst := 4, src1 := 5, src2 := 4 }

/-- Memory that holds `0x10` in its first word. -/
def sixteenMemory : FlatMemory := ⟨[0x10, 0, 0, 0, 0, 0, 0, 0]⟩

def flatHost : ExecuteHost FlatMemory Float := ⟨doubleHost, fun _ => none⟩

/-- `GR4` is marked. -/
def markedFour : CPUState := CPUState.reset.setGRNaT 4 true

/-- `GR4` holds eight. -/
def eightInFour : CPUState := CPUState.reset.setGR 4 8

/-- **The order shows**: a shift of a marked register onto itself leaves it unmarked, and a load over its own increment
    moves the base by the `0x10` it loaded and not by eight. -/
theorem aliasing_shows :
    execute (executeSwitch flatHost .sequential) shlOntoItself markedFour sixteenMemory true ≠
        executeViewed flatHost (.snapshot markedFour) shlOntoItself markedFour sixteenMemory true ∧
      execute (executeSwitch flatHost .sequential) loadOntoIncrement eightInFour sixteenMemory true ≠
        executeViewed flatHost (.snapshot eightInFour) loadOntoIncrement eightInFour sixteenMemory true := by
  constructor
  · intro h
    have hnat := congrArg (fun r => r.2.1.getGRNaT 4) h
    exact absurd hnat (by decide +kernel)
  · intro h
    have hbase := congrArg (fun r => r.2.1.getGR 5) h
    exact absurd hbase (by decide +kernel)

end GuideXOS.Isa
