import GuideXOS.Vm.Snapshot

/-!
# `SnapshotDelta` — what a delta carries from one snapshot to another

A delta laid over the parent it was computed from gives the parent's record with some components replaced.
`CarriesCpu` and `Carries` name the components a delta leaves behind: those must be the same in both snapshots
for the result to be the current one, and that is all they must be (`applyDelta_computeDelta_iff`).
-/

namespace GuideXOS.Vm
open Lib Lib.Words Lib.Deltas GuideXOS.Core

attribute [ext] CPUState

/-! ## One processor -/

section Cpu
variable {c p : CPUSnapshotRecord} {s t : CPUState}

theorem replay_gr (l : List (Fin 144 × UInt64)) :
    replay (fun (s : CPUState) i v => { s with gr := s.gr.set i v }) s l =
      { s with gr := replay (fun f i v => f.set i v) s.gr l } := by
  induction l generalizing s with
  | nil => rfl
  | cons e l ih => exact ih

theorem setPR_eq (i : Fin 64) (b : Bool) : s.setPR i b = { s with pr := s.pr.setPhysical (s.mapPR i) b } := by
  unfold CPUState.setPR
  split
  · next h =>
    subst h
    rfl
  · rfl

theorem replay_pr (l : List (Fin 64 × Bool)) :
    replay CPUState.setPR s l = { s with pr := replay (fun f i b => f.setPhysical (s.mapPR i) b) s.pr l } := by
  induction l generalizing s with
  | nil => rfl
  | cons e l ih =>
      show replay CPUState.setPR (s.setPR e.1 e.2) l = _
      rw [ih, setPR_eq]
      rfl

theorem replay_br (l : List (Fin 8 × UInt64)) :
    replay CPUState.setBR s l = { s with br := replay (fun v i x => v.set i x (fin_lt_8 i)) s.br l } := by
  induction l generalizing s with
  | nil => rfl
  | cons e l ih => exact ih

/-- The general registers of `s` with those of `t` written over them where their values differ. -/
def replayedGR (t s : CPUState) : GRFile :=
  replay (fun (f : GRFile) (i : Fin 144) v => f.set i v) s.gr
    (changed (fun i : Fin 144 => t.gr.get i) fun i => s.gr.get i)

/-- The predicates of `s` with those of `t` written over them where they read differently. -/
def replayedPR (t s : CPUState) : PRFile :=
  replay (fun (f : PRFile) i b => f.setPhysical (s.mapPR i) b) s.pr (changed t.getPR s.getPR)

/-- The values come over; a value that is written loses its NaT bit. -/
theorem replayedGR_spec {i : Nat} (hi : i < 144) :
    (replayedGR t s).get i = t.gr.get i ∧
      (replayedGR t s).getNaT i = if t.gr.get i = s.gr.get i then s.gr.getNaT i else false := by
  have hzero : ∀ i : Fin 144, t.gr.get i ≠ s.gr.get i → i.val ≠ 0 := by
    intro i hne h0
    rw [h0, GRFile.get_zero, GRFile.get_zero] at hne
    exact hne rfl
  have hvalue := observe_replay (fun (f : GRFile) (i : Fin 144) v => f.set i v) (fun i => t.gr.get i)
    (fun i => s.gr.get i) (fun f i => f.get i) (fun i => t.gr.get i) (fun f i hne => GRFile.get_set_self (hzero i hne) i.isLt _)
    (fun f i j hij => GRFile.get_set_ne (fun h => hij (Fin.ext h)) _) s.gr ⟨i, hi⟩
  have hnat := observe_replay (fun (f : GRFile) (i : Fin 144) v => f.set i v) (fun i => t.gr.get i)
    (fun i => s.gr.get i) (fun f i => f.getNaT i) (fun _ => false) (fun f i _ => GRFile.getNaT_set_self _)
    (fun f i j hij => GRFile.getNaT_set_ne (fun h => hij (Fin.ext h)) _) s.gr ⟨i, hi⟩
  refine ⟨hvalue.trans ?_, hnat⟩
  split
  · next h => exact h.symm
  · rfl

/-- The predicates come over as they read, each to where the base keeps it. -/
theorem replayedPR_spec (i : Fin 64) : (replayedPR t s).getPhysical (s.mapPR i) = t.getPR i := by
  have hread := observe_replay (fun (f : PRFile) i b => f.setPhysical (s.mapPR i) b) t.getPR s.getPR
    (fun f i => f.getPhysical (s.mapPR i)) t.getPR
    (fun f i hne => by
      have h0 : s.mapPR i ≠ 0 := by
        rw [Ne, CPUState.mapPR_eq_zero]
        rintro rfl
        exact hne rfl
      simp [PRFile.setPhysical, PRFile.getPhysical, h0])
    (fun f i j hij => PRFile.getPhysical_setPhysical_ne (fun h => hij (CPUState.mapPR_injective h)) f _) s.pr i
  refine hread.trans ?_
  split
  · next h => rw [h, CPUState.getPR_eq]
  · rfl

theorem replayed_br :
    replay (fun (v : Vector UInt64 8) i x => v.set i x (fin_lt_8 i)) s.br (changed t.getBR s.getBR) = t.br := by
  refine Vector.ext fun i hi => ?_
  have hread := observe_replay (fun (v : Vector UInt64 8) (i : Fin 8) x => v.set i x) t.getBR s.getBR
    (fun v i => v[i]) t.getBR
    (fun v i _ => Vector.getElem_set_self i.isLt)
    (fun v i j hij => Vector.getElem_set_ne i.isLt j.isLt fun h => hij (Fin.ext h)) s.br ⟨i, hi⟩
  refine Eq.trans hread ?_
  split
  · next h => exact h.symm
  · rfl

/-! The special registers, over a base `s` with the register files already written. -/

theorem setIP_changedTo {ip old : UInt64} (h : s.ip = old) :
    (changedTo ip old).elim s s.setIP = s.setIP ip := by
  subst h
  unfold changedTo
  by_cases heq : ip = s.ip
  · simp only [heq, if_true]
    rfl
  · simp [heq]

theorem setCFM_changedTo (cfm old : UInt64) :
    (changedTo cfm old).elim s s.setCFM = if cfm = old then s else s.setCFM cfm := by
  unfold changedTo
  by_cases heq : cfm = old <;> simp [heq]

theorem setPSR_changedTo {psr old : UInt64} (h : s.psr = old) :
    (changedTo psr old).elim s s.setPSR = s.setPSR psr := by
  subst h
  unfold changedTo
  by_cases heq : psr = s.psr
  · simp only [heq, if_true]
    rfl
  · simp [heq]

/-- **The registers a delta gives** over the base it was computed from. -/
theorem applyRegisters_compute (c p : CPUSnapshotRecord) :
    applyRegisters p.architecturalState (computeCPUStateDelta c p) =
      { p.architecturalState with
        gr := replayedGR c.architecturalState p.architecturalState
        pr := replayedPR c.architecturalState p.architecturalState
        br := c.architecturalState.br
        ip := c.architecturalState.ip
        cfm := c.architecturalState.cfm
        psr := c.architecturalState.psr
        rse := if c.architecturalState.cfm = p.architecturalState.cfm then p.architecturalState.rse
          else (p.architecturalState.setCFM c.architecturalState.cfm).rse } := by
  obtain ⟨t, ht⟩ : ∃ t, t = c.architecturalState := ⟨_, rfl⟩
  obtain ⟨s, hs⟩ : ∃ s, s = p.architecturalState := ⟨_, rfl⟩
  have hfiles : replay CPUState.setBR (replay CPUState.setPR
      (replay (fun (s : CPUState) i v => { s with gr := s.gr.set i v }) s
        (changed (fun i : Fin 144 => t.gr.get i) fun i => s.gr.get i)) (changed t.getPR s.getPR))
      (changed t.getBR s.getBR) =
      { s with gr := replayedGR t s, pr := replayedPR t s, br := t.br } := by
    rw [replay_gr]
    show replay CPUState.setBR (replay CPUState.setPR { s with gr := replayedGR t s } _) _ = _
    rw [replay_pr]
    show replay CPUState.setBR { s with gr := replayedGR t s, pr := replayedPR t s } _ = _
    rw [replay_br]
    show ({ s with gr := _, pr := _, br := replay _ s.br _ } : CPUState) = _
    rw [replayed_br]
  unfold applyRegisters computeCPUStateDelta
  dsimp only
  rw [← ht, ← hs, hfiles]
  obtain ⟨u, hu⟩ : ∃ u : CPUState, u = { s with gr := replayedGR t s, pr := replayedPR t s, br := t.br } := ⟨_, rfl⟩
  have hip : u.ip = s.ip := by rw [hu]
  have hpsr : u.psr = s.psr := by rw [hu]
  rw [← hu, setIP_changedTo hip, setCFM_changedTo]
  by_cases hcfm : t.cfm = s.cfm
  · rw [if_pos hcfm, if_pos hcfm, setPSR_changedTo (s := u.setIP t.ip) hpsr, hu, hcfm]
    rfl
  · rw [if_neg hcfm, if_neg hcfm, setPSR_changedTo (s := (u.setIP t.ip).setCFM t.cfm) hpsr, hu]
    rfl

/-- What a processor's delta leaves behind is the same in both register files. The NaT bit of a register whose
    value changed must be clear, and the predicates must read alike under both frame markers. -/
structure CarriesRegisters (t s : CPUState) : Prop where
  fr : t.fr = s.fr
  rr : t.rr = s.rr
  cr : t.cr = s.cr
  ar : t.ar = s.ar
  cpuid : t.cpuid = s.cpuid
  itr : t.itr = s.itr
  dtr : t.dtr = s.dtr
  itlb : t.itlb = s.itlb
  dtlb : t.dtlb = s.dtlb
  itlbReplacementIndex : t.itlbReplacementIndex = s.itlbReplacementIndex
  dtlbReplacementIndex : t.dtlbReplacementIndex = s.dtlbReplacementIndex
  nat : ∀ i < 144, t.gr.getNaT i = if t.gr.get i = s.gr.get i then s.gr.getNaT i else false
  pr : ∀ i, t.getPR i = t.pr.getPhysical (s.mapPR i)
  rse : t.rse = if t.cfm = s.cfm then s.rse else (s.setCFM t.cfm).rse

theorem applyRegisters_compute_iff :
    applyRegisters p.architecturalState (computeCPUStateDelta c p) = c.architecturalState ↔
      CarriesRegisters c.architecturalState p.architecturalState := by
  rw [applyRegisters_compute]
  obtain ⟨t, ht⟩ : ∃ t, t = c.architecturalState := ⟨_, rfl⟩
  obtain ⟨s, hs⟩ : ∃ s, s = p.architecturalState := ⟨_, rfl⟩
  rw [← ht, ← hs]
  constructor
  · intro h
    have hgr : replayedGR t s = t.gr := congrArg CPUState.gr h
    have hpr : replayedPR t s = t.pr := congrArg CPUState.pr h
    refine
      { fr := (congrArg CPUState.fr h).symm
        rr := (congrArg CPUState.rr h).symm
        cr := (congrArg CPUState.cr h).symm
        ar := (congrArg CPUState.ar h).symm
        cpuid := (congrArg CPUState.cpuid h).symm
        itr := (congrArg CPUState.itr h).symm
        dtr := (congrArg CPUState.dtr h).symm
        itlb := (congrArg CPUState.itlb h).symm
        dtlb := (congrArg CPUState.dtlb h).symm
        itlbReplacementIndex := (congrArg CPUState.itlbReplacementIndex h).symm
        dtlbReplacementIndex := (congrArg CPUState.dtlbReplacementIndex h).symm
        nat := fun i hi => ?_
        pr := fun i => ?_
        rse := (congrArg CPUState.rse h).symm }
    · rw [← (replayedGR_spec hi).2, hgr]
    · rw [← replayedPR_spec (t := t) (s := s) i, hpr]
  · intro h
    have hgr : replayedGR t s = t.gr := GRFile.ext (fun i hi => (replayedGR_spec hi).1) fun i hi => by
      rw [(replayedGR_spec hi).2, h.nat i hi]
    have hpr : replayedPR t s = t.pr := PRFile.ext fun q => by
      obtain ⟨i, rfl⟩ := s.mapPR_surjective q
      rw [replayedPR_spec, h.pr i]
    exact CPUState.ext hgr h.fr.symm hpr rfl h.rr.symm h.cr.symm h.cpuid.symm h.itr.symm h.dtr.symm h.itlb.symm
      h.dtlb.symm h.itlbReplacementIndex.symm h.dtlbReplacementIndex.symm h.ar.symm h.rse.symm rfl rfl rfl

/-- What the delta of a processor's record leaves behind. -/
structure CarriesCpu (c p : CPUSnapshotRecord) : Prop where
  cpuId : c.cpuId = p.cpuId
  registers : CarriesRegisters c.architecturalState p.architecturalState
  enabled : c.enabled = p.enabled
  lastActivationTime : c.lastActivationTime = p.lastActivationTime
  currentBundle : c.currentBundle = p.currentBundle
  currentSlot : c.currentSlot = p.currentSlot
  bundleValid : c.bundleValid = p.bundleValid
  pendingInterrupts : c.pendingInterrupts = p.pendingInterrupts
  interruptVectorBase : c.interruptVectorBase = p.interruptVectorBase

theorem applyCPUStateDelta_compute (c p : CPUSnapshotRecord) : applyCPUStateDelta p (computeCPUStateDelta c p) =
    { p with
      architecturalState := applyRegisters p.architecturalState (computeCPUStateDelta c p)
      executionState := c.executionState
      cyclesExecuted := c.cyclesExecuted
      instructionsExecuted := c.instructionsExecuted
      idleCycles := c.idleCycles } := by
  have hstate : (computeCPUStateDelta c p).newExecutionState.getD p.executionState = c.executionState :=
    changedTo_getD _ _
  have hcounters : (computeCPUStateDelta c p).newCounters.getD (counters p) = counters c := changedTo_getD _ _
  unfold applyCPUStateDelta
  rw [hstate, hcounters]
  rfl

theorem applyCPUStateDelta_iff : applyCPUStateDelta p (computeCPUStateDelta c p) = c ↔ CarriesCpu c p := by
  rw [applyCPUStateDelta_compute]
  constructor
  · intro h
    exact
      { cpuId := (congrArg CPUSnapshotRecord.cpuId h).symm
        registers := applyRegisters_compute_iff.mp (congrArg CPUSnapshotRecord.architecturalState h)
        enabled := (congrArg CPUSnapshotRecord.enabled h).symm
        lastActivationTime := (congrArg CPUSnapshotRecord.lastActivationTime h).symm
        currentBundle := (congrArg CPUSnapshotRecord.currentBundle h).symm
        currentSlot := (congrArg CPUSnapshotRecord.currentSlot h).symm
        bundleValid := (congrArg CPUSnapshotRecord.bundleValid h).symm
        pendingInterrupts := (congrArg CPUSnapshotRecord.pendingInterrupts h).symm
        interruptVectorBase := (congrArg CPUSnapshotRecord.interruptVectorBase h).symm }
  · intro h
    exact CPUSnapshotRecord.ext h.cpuId.symm (applyRegisters_compute_iff.mpr h.registers) rfl rfl rfl rfl
      h.enabled.symm h.lastActivationTime.symm h.currentBundle.symm h.currentSlot.symm h.bundleValid.symm
      h.pendingInterrupts.symm h.interruptVectorBase.symm

/-- A delta that says nothing changes nothing. -/
theorem applyCPUStateDelta_of_unchanged {d : CPUStateDelta} (h : d.anyChange = false) :
    applyCPUStateDelta p d = p := by
  simp only [CPUStateDelta.anyChange, Bool.or_eq_false_iff, Bool.not_eq_false', List.isEmpty_iff,
    Option.isSome_eq_false_iff, Option.isNone_iff_eq_none] at h
  obtain ⟨⟨⟨⟨⟨⟨⟨⟨⟨hgr, -⟩, hpr⟩, hbr⟩, -⟩, hip⟩, hcfm⟩, hpsr⟩, hstate⟩, hcounters⟩ := h
  unfold applyCPUStateDelta applyRegisters
  rw [hgr, hpr, hbr, hip, hcfm, hpsr, hstate, hcounters]
  rfl

end Cpu

/-! ## All processors -/

section Cpus
variable {cs ps : List CPUSnapshotRecord}

theorem modify_behind {α : Type _} (f : α → α) (done rest : List α) (x : α) :
    (done ++ x :: rest).modify done.length f = done ++ f x :: rest := by
  induction done with
  | nil => rfl
  | cons y done ih =>
      rw [List.cons_append, List.length_cons, List.modify_succ_cons, ih]
      rfl

/-- The deltas of the records behind `done` change those records and no others. -/
theorem applyCPUDeltas_behind (done : List CPUSnapshotRecord) (hlen : cs.length = ps.length)
    (hids : ∀ (i : Nat) (c : CPUSnapshotRecord), cs[i]? = some c → c.cpuId.toNat = done.length + i) :
    applyCPUDeltas (done ++ ps) (computeCPUDeltas cs ps) =
      done ++ cs.zipWith (fun c p => applyCPUStateDelta p (computeCPUStateDelta c p)) ps := by
  induction cs generalizing done ps with
  | nil =>
      obtain rfl := List.length_eq_zero_iff.mp hlen.symm
      rfl
  | cons c cs ih =>
      cases ps with
      | nil => cases hlen
      | cons p ps =>
          have hid : (computeCPUStateDelta c p).cpuId.toNat = done.length := hids 0 c rfl
          obtain ⟨p', hp'⟩ : ∃ p', p' = applyCPUStateDelta p (computeCPUStateDelta c p) := ⟨_, rfl⟩
          have hrest : applyCPUDeltas ((done ++ [p']) ++ ps) (computeCPUDeltas cs ps) =
              (done ++ [p']) ++ cs.zipWith (fun c p => applyCPUStateDelta p (computeCPUStateDelta c p)) ps := by
            refine ih (done ++ [p']) (Nat.succ.inj hlen) fun i c' hc' => ?_
            have := hids (i + 1) c' hc'
            rw [List.length_append, List.length_singleton]
            omega
          rw [List.zipWith_cons_cons, ← hp']
          rw [List.append_assoc, List.append_assoc] at hrest
          refine Eq.trans ?_ hrest
          unfold computeCPUDeltas
          rw [List.zip_cons_cons]
          by_cases hany : (computeCPUStateDelta c p).anyChange = true
          · rw [List.filterMap_cons_some (b := computeCPUStateDelta c p) (by simp [hany])]
            unfold applyCPUDeltas
            rw [List.foldl_cons, hid, modify_behind, ← hp']
            rfl
          · have hsame : p' = p := by
              rw [hp']
              exact applyCPUStateDelta_of_unchanged (Bool.not_eq_true _ ▸ hany)
            rw [List.filterMap_cons_none (by simp [hany]), hsame]
            rfl

theorem applyCPUDeltas_compute (hlen : cs.length = ps.length) (hids : Numbered cs) :
    applyCPUDeltas ps (computeCPUDeltas cs ps) =
      cs.zipWith (fun c p => applyCPUStateDelta p (computeCPUStateDelta c p)) ps :=
  applyCPUDeltas_behind [] hlen fun i c hc => (hids i c hc).trans (Nat.zero_add i).symm

theorem length_applyCPUDeltas (ps : List CPUSnapshotRecord) (deltas : List CPUStateDelta) :
    (applyCPUDeltas ps deltas).length = ps.length := by
  induction deltas generalizing ps with
  | nil => rfl
  | cons d deltas ih =>
      refine (ih _).trans ?_
      rw [List.length_modify]

theorem applyCPUDeltas_iff (hids : Numbered cs) :
    applyCPUDeltas ps (computeCPUDeltas cs ps) = cs ↔ List.Forall₂ CarriesCpu cs ps := by
  constructor
  · intro h
    have hlen : cs.length = ps.length := by rw [← length_applyCPUDeltas ps (computeCPUDeltas cs ps), h]
    rw [applyCPUDeltas_compute hlen hids] at h
    clear hids
    induction cs generalizing ps with
    | nil =>
        obtain rfl := List.length_eq_zero_iff.mp hlen.symm
        exact .nil
    | cons c cs ih =>
        cases ps with
        | nil => cases hlen
        | cons p ps =>
            obtain ⟨hc, hcs⟩ := List.cons.inj h
            exact .cons (applyCPUStateDelta_iff.mp hc) (ih hcs (Nat.succ.inj hlen))
  · intro h
    rw [applyCPUDeltas_compute h.length_eq hids]
    clear hids
    induction h with
    | nil => rfl
    | cons hc _ ih => rw [List.zipWith_cons_cons, ih, applyCPUStateDelta_iff.mpr hc]

end Cpus

/-! ## Memory -/

theorem applyMemoryDelta_data (current parent : MemorySnapshot) :
    (applyMemoryDelta parent (computeMemoryDelta current parent)).data =
      if parent.data.length ≤ current.data.length then current.data
      else current.data ++ parent.data.drop current.data.length := by
  have hdifferences := replay_differences 0 current.data parent.data
  unfold applyMemoryDelta computeMemoryDelta
  dsimp only
  by_cases hlonger : parent.data.length < current.data.length
  · rw [if_pos hlonger, if_pos hlonger.le, List.foldl_append, hdifferences, Nat.min_eq_right hlonger.le]
    exact overlay_rest hlonger.le
  · rw [if_neg hlonger, hdifferences, Nat.min_eq_left (Nat.le_of_not_lt hlonger), splice,
      List.take_of_length_le (Nat.le_refl _)]
    split
    · next hle => rw [List.drop_eq_nil_of_le hle, List.append_nil]
    · rfl

/-- What the memory delta leaves behind: it knows no end of memory, no page table and no MMU switch. -/
structure CarriesMemory (current parent : MemorySnapshot) : Prop where
  size : parent.data.length ≤ current.data.length
  pageTable : current.pageTable = parent.pageTable
  mmuEnabled : current.mmuEnabled = parent.mmuEnabled

theorem applyMemoryDelta_iff {current parent : MemorySnapshot} :
    applyMemoryDelta parent (computeMemoryDelta current parent) = current ↔ CarriesMemory current parent := by
  have hdata := applyMemoryDelta_data current parent
  constructor
  · intro h
    refine ⟨?_, (congrArg MemorySnapshot.pageTable h).symm, (congrArg MemorySnapshot.mmuEnabled h).symm⟩
    by_contra hshorter
    rw [if_neg hshorter, h] at hdata
    have hlen := congrArg List.length hdata
    rw [List.length_append, List.length_drop] at hlen
    omega
  · intro h
    rw [if_pos h.size] at hdata
    exact MemorySnapshot.ext hdata h.pageTable.symm h.mmuEnabled.symm

/-! ## The whole snapshot -/

/-- What a delta leaves behind is the same in both snapshots. -/
structure Carries (current parent : VMStateSnapshot) : Prop where
  cpus : List.Forall₂ CarriesCpu current.cpus parent.cpus
  memory : CarriesMemory current.memoryState parent.memoryState
  console : sameConsole current.consoleState parent.consoleState = true → current.consoleState = parent.consoleState
  timer : sameTimer current.timerState parent.timerState = true → current.timerState = parent.timerState
  interruptController : current.interruptControllerState = parent.interruptControllerState
  additionalDevices : current.additionalDevices = parent.additionalDevices

/-- A component that is copied whole when something in it changed. -/
theorem copied_iff {α : Type _} {same : Bool} {x y : α} :
    (if same then none else some x).getD y = x ↔ (same = true → x = y) := by
  cases same
  · simp
  · exact ⟨fun h _ => h.symm, fun h => (h rfl).symm⟩

theorem carries_of_applyDelta {current parent : VMStateSnapshot} (hids : Numbered current.cpus)
    (h : applyDelta parent (computeDelta current parent) = { current with metadata := {} }) :
    Carries current parent where
  cpus := (applyCPUDeltas_iff hids).mp (congrArg VMStateSnapshot.cpus h)
  memory := applyMemoryDelta_iff.mp (congrArg VMStateSnapshot.memoryState h)
  console := copied_iff.mp (congrArg VMStateSnapshot.consoleState h)
  timer := copied_iff.mp (congrArg VMStateSnapshot.timerState h)
  interruptController := (congrArg VMStateSnapshot.interruptControllerState h).symm
  additionalDevices := (congrArg VMStateSnapshot.additionalDevices h).symm

theorem applyDelta_of_carries {current parent : VMStateSnapshot} (hids : Numbered current.cpus)
    (h : Carries current parent) :
    applyDelta parent (computeDelta current parent) = { current with metadata := {} } :=
  VMStateSnapshot.ext rfl ((applyCPUDeltas_iff hids).mpr h.cpus) (changedTo_getD _ _)
    (applyMemoryDelta_iff.mpr h.memory) (copied_iff.mpr h.console) (copied_iff.mpr h.timer)
    h.interruptController.symm h.additionalDevices.symm (changedTo_getD _ _) (changedTo_getD _ _)
    (changedTo_getD _ _)

/-- **The delta round trip.** The parent with the delta of the current snapshot over it is the current snapshot, up
    to its metadata, exactly when the delta carries all that differs. -/
theorem applyDelta_computeDelta_iff (current parent : VMStateSnapshot) (hids : Numbered current.cpus) :
    applyDelta parent (computeDelta current parent) = { current with metadata := {} } ↔ Carries current parent :=
  ⟨carries_of_applyDelta hids, applyDelta_of_carries hids⟩

/-! ## A floating-point register that changes -/

/-- One processor, reset but for its floating-point registers, and no memory. -/
def machineWith (fr : FRFile) : VirtualMachine where
  cpus := [some ⟨{ CPUState.reset with fr := fr }, .RUNNING, 0, 0, 0, true, 0, 0, false, [], 0⟩]
  activeCPUIndex := 0
  memory := none
  consoleBaseAddress := 0
  timerBaseAddress := 0
  state := 0
  quantumSize := 0
  cpus_lt := by
    rw [List.length_singleton]
    decide

/-- The two snapshots differ in `FR2` alone, and the delta between them is empty. -/
theorem applyDelta_loses_fr :
    applyDelta (captureFullSnapshot (machineWith .fill))
        (computeDelta (captureFullSnapshot (machineWith (FRFile.fill.setPhysical 2 FRFile.one)))
          (captureFullSnapshot (machineWith .fill))) ≠
      { captureFullSnapshot (machineWith (FRFile.fill.setPhysical 2 FRFile.one)) with metadata := {} } := by
  intro h
  have hcpus := (applyCPUDeltas_iff (captureFullSnapshot_numbered _)).mp (congrArg VMStateSnapshot.cpus h)
  obtain ⟨hcpu, -⟩ := List.forall₂_cons.mp hcpus
  have hfr : FRFile.fill.setPhysical 2 FRFile.one = FRFile.fill := hcpu.registers.fr
  have hread := congrArg (fun f => f.getPhysical 2) hfr
  exact absurd hread (by decide)

theorem applyDelta_computeDelta_iff_fr :
    applyDelta (captureFullSnapshot (machineWith .fill))
        (computeDelta (captureFullSnapshot (machineWith .fill)) (captureFullSnapshot (machineWith .fill))) =
        { captureFullSnapshot (machineWith .fill) with metadata := {} } ↔
      Carries (captureFullSnapshot (machineWith .fill)) (captureFullSnapshot (machineWith .fill)) :=
  applyDelta_computeDelta_iff _ _ (captureFullSnapshot_numbered (machineWith .fill))

end GuideXOS.Vm
