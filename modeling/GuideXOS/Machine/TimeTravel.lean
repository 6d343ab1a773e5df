import GuideXOS.Machine.Lockstep
import GuideXOS.Machine.Nops

/-!
# `TimeTravel` — the snapshot history and going back in it

Beside a run of calls stand the machines it captured, each with the calls that were still to come (`captures`). The
history of the machine is a final piece of their snapshots (`snapshotHistory_run`), so the `j`-th rewind restores the
snapshot of the `j`-th last of them. What a snapshot does not carry is then as it was before the rewind; `Rewindable`
says where this makes no difference.
-/

namespace GuideXOS.Machine
open Lib Lib.Runs GuideXOS.Core GuideXOS.Isa GuideXOS.Vm

namespace VirtualMachine
variable {I : Type} {engine : Engine I} (vm : VirtualMachine I) {op : StepCall} (i : Nat) (ctx : CPUContext I)
  {snapshot : DebuggerSnapshot I}

/-! ## What is captured -/

/-- The processor a call gets to, if it gets to one. -/
def addressed (op : StepCall) : Option Nat :=
  if vm.state = .CREATED ∨ vm.state = .ERROR then none
  else
    match op with
    | .stepCPU cpuIndex => if vm.isValidCPUIndex cpuIndex then some cpuIndex.toNat else none
    | .step => ((vm.wake.scheduler.selectNextCPU vm.wake.scheduled).filter fun i => vm.wake.isValidCPUIndex i).map
        Int.toNat
    | _ => none

/-- The machine in front of the snapshot that a step of processor `i` asks for. -/
def boundary (i : Nat) : VirtualMachine I := { vm.wake with activeCPUIndex := i }

/-- The machine that a call captures. -/
def captured (op : StepCall) : Option (VirtualMachine I) :=
  ((vm.addressed op).map vm.boundary).filter fun b =>
    b.debuggerAttached && !(b.snapshotHistory.getLast?.map (·.cyclesExecuted) == some b.cyclesExecuted)

/-- The machines that a run captures, with the calls that were still to come. -/
def captures (engine : Engine I) : VirtualMachine I → List StepCall → List (VirtualMachine I × List StepCall)
  | _, [] => []
  | vm, op :: ops => (vm.captured op).toList.map (·, op :: ops) ++ captures engine (vm.call engine op) ops

theorem wake_wake : vm.wake.wake = vm.wake := by
  unfold wake
  by_cases h : vm.state ≠ .RUNNING ∧ vm.state ≠ .PAUSED
  · rw [if_pos h]
    exact if_neg (by simp)
  · rw [if_neg h, if_neg h]

theorem state_wake : vm.wake.state = .RUNNING ∨ vm.wake.state = .PAUSED := by
  unfold wake
  by_cases h : vm.state ≠ .RUNNING ∧ vm.state ≠ .PAUSED
  · rw [if_pos h]
    exact .inl rfl
  · rw [if_neg h]
    by_cases hrunning : vm.state = .RUNNING
    · exact .inl hrunning
    · exact .inr (not_not.mp fun hpaused => h ⟨hrunning, hpaused⟩)

/-- What a waking machine keeps is all but its run state. -/
theorem wake_eq : vm.wake = { vm with state := vm.wake.state } := by
  unfold wake
  split <;> rfl

theorem stepContext_wake : vm.wake.stepContext engine i ctx = vm.stepContext engine i ctx := by
  unfold stepContext
  rw [wake_wake]

theorem wake_boundary : (vm.boundary i).wake = vm.boundary i := by
  unfold boundary
  rcases vm.state_wake with hrunning | hpaused
  · exact if_neg (by simp [hrunning])
  · exact if_neg (by simp [hpaused])

theorem stepContext_boundary : (vm.boundary i).stepContext engine i ctx = vm.stepContext engine i ctx := by
  unfold stepContext
  rw [wake_boundary]
  rfl

section
variable {vm : VirtualMachine I}

theorem stepCPU_of_valid {cpuIndex : Int} (halive : ¬ (vm.state = .CREATED ∨ vm.state = .ERROR))
    (hvalid : vm.isValidCPUIndex cpuIndex) :
    ∃ ctx, vm.cpus[cpuIndex.toNat]? = some ctx ∧ vm.stepCPU engine cpuIndex = vm.stepContext engine cpuIndex.toNat ctx := by
  have hlt : cpuIndex.toNat < vm.cpus.length := by
    obtain ⟨hzero, hlength⟩ := hvalid
    omega
  refine ⟨vm.cpus[cpuIndex.toNat], List.getElem?_eq_getElem hlt, ?_⟩
  unfold stepCPU
  rw [if_neg (by rw [← or_assoc]; exact fun h => h.elim halive fun hnot => hnot hvalid), List.getElem?_eq_getElem hlt]

/-- A call that gets to a processor is a step of it. -/
theorem call_of_addressed {i : Nat} (h : vm.addressed op = some i) :
    ∃ ctx, vm.cpus[i]? = some ctx ∧ vm.call engine op = (vm.stepContext engine i ctx).2 := by
  unfold addressed at h
  by_cases hdead : vm.state = .CREATED ∨ vm.state = .ERROR
  · rw [if_pos hdead] at h
    cases h
  rw [if_neg hdead] at h
  cases op with
  | stepCPU cpuIndex =>
      by_cases hvalid : vm.isValidCPUIndex cpuIndex
      · obtain ⟨ctx, hctx, hstep⟩ := stepCPU_of_valid hdead hvalid
        dsimp only at h
        rw [if_pos hvalid] at h
        cases h
        exact ⟨ctx, hctx, congrArg Prod.snd hstep⟩
      · dsimp only at h
        rw [if_neg hvalid] at h
        cases h
  | step =>
      obtain ⟨cpuIndex, hselected, rfl⟩ := Option.map_eq_some_iff.mp h
      obtain ⟨hselect, hvalid⟩ := Option.filter_eq_some_iff.mp hselected
      have hvalid := of_decide_eq_true hvalid
      have halive : ¬ (vm.wake.state = .CREATED ∨ vm.wake.state = .ERROR) := by
        rcases vm.state_wake with hrunning | hpaused
        · simp [hrunning]
        · simp [hpaused]
      obtain ⟨ctx, hctx, hstep⟩ := stepCPU_of_valid halive hvalid
      rw [cpus_wake] at hctx
      refine ⟨ctx, hctx, ?_⟩
      show (vm.step engine).2 = _
      unfold VirtualMachine.step
      rw [if_neg hdead]
      dsimp only
      rw [hselect]
      dsimp only
      rw [if_pos hvalid, hstep, stepContext_wake]
  | enterRun => cases h
  | stopAtLimit => cases h

/-- The others change nothing but the run state. -/
theorem call_of_idle (h : vm.addressed op = none) : ∃ state, vm.call engine op = { vm with state } := by
  have hset : ∀ state, ∃ state', (if vm.state = .CREATED ∨ vm.state = .ERROR then vm else { vm with state }) =
      { vm with state := state' } := by
    intro state
    split
    · exact ⟨vm.state, rfl⟩
    · exact ⟨state, rfl⟩
  unfold addressed at h
  by_cases hdead : vm.state = .CREATED ∨ vm.state = .ERROR
  · cases op with
    | stepCPU cpuIndex =>
        refine ⟨vm.state, ?_⟩
        show (vm.stepCPU engine cpuIndex).2 = vm
        unfold stepCPU
        rw [if_pos (by rw [← or_assoc]; exact .inl hdead)]
    | step =>
        refine ⟨vm.state, ?_⟩
        show (vm.step engine).2 = vm
        unfold VirtualMachine.step
        rw [if_pos hdead]
    | enterRun => exact hset .RUNNING
    | stopAtLimit => exact hset .STOPPED
  rw [if_neg hdead] at h
  cases op with
  | stepCPU cpuIndex =>
      by_cases hvalid : vm.isValidCPUIndex cpuIndex
      · dsimp only at h
        rw [if_pos hvalid] at h
        cases h
      · refine ⟨vm.state, ?_⟩
        show (vm.stepCPU engine cpuIndex).2 = vm
        unfold stepCPU
        rw [if_pos (.inr (.inr hvalid))]
  | step =>
      have hnone := Option.map_eq_none_iff.mp h
      show ∃ state, (vm.step engine).2 = { vm with state }
      unfold VirtualMachine.step
      rw [if_neg hdead]
      dsimp only
      cases hselect : vm.wake.scheduler.selectNextCPU vm.wake.scheduled with
      | none => exact ⟨vm.wake.state, vm.wake_eq⟩
      | some cpuIndex =>
          rw [hselect] at hnone
          have hvalid : ¬ vm.wake.isValidCPUIndex cpuIndex := by
            intro hvalid
            simp [hvalid] at hnone
          refine ⟨.STOPPED, ?_⟩
          dsimp only
          rw [if_neg hvalid, wake_eq]
  | enterRun => exact hset .RUNNING
  | stopAtLimit => exact hset .STOPPED

/-- They do not reach the debugger. -/
theorem call_of_not_addressed (h : vm.addressed op = none) : SameDebugger vm (vm.call engine op) := by
  obtain ⟨state, hcall⟩ : ∃ state, vm.call engine op = { vm with state } := call_of_idle h
  rw [hcall]
  exact ⟨rfl, rfl, rfl, rfl, rfl, rfl⟩

end

/-- Behind the snapshot, a step does not reach the debugger. -/
theorem sameDebugger_stepContext (hsize : engine.KeepsMemorySize) (vm : VirtualMachine I) (i : Nat)
    (ctx : CPUContext I) :
    SameDebugger (vm.boundary i).captureSnapshotIfBoundary (vm.stepContext engine i ctx).2 := by
  unfold stepContext boundary
  dsimp only
  generalize { vm.wake with activeCPUIndex := (i : Int) }.captureSnapshotIfBoundary = b
  cases b.stopsBefore ctx.cpu with
  | error what => exact ⟨rfl, rfl, rfl, rfl, rfl, rfl⟩
  | ok stops =>
      cases stops with
      | true => exact ⟨rfl, rfl, rfl, rfl, rfl, rfl⟩
      | false =>
          dsimp only
          split
          · have hpassed : SameDebugger b { b with lastBreakReason := "", state := .RUNNING } :=
              ⟨rfl, rfl, rfl, rfl, rfl, rfl⟩
            exact hpassed.trans (sameDebugger_execute hsize _ i ctx)
          · exact sameDebugger_execute hsize b i ctx

/-! ## The history -/

/-- A request for a snapshot appends it, and the oldest ones may go. -/
theorem snapshotHistory_capture (b : VirtualMachine I) :
    b.captureSnapshotIfBoundary.snapshotHistory <:+
      b.snapshotHistory ++ ((some b).filter fun b =>
        b.debuggerAttached && !(b.snapshotHistory.getLast?.map (·.cyclesExecuted) == some b.cyclesExecuted)).toList.map
          createSnapshot := by
  unfold captureSnapshotIfBoundary
  by_cases hasks : ¬ b.debuggerAttached ∨ b.snapshotHistory.getLast?.map (·.cyclesExecuted) = some b.cyclesExecuted
  · rw [if_pos hasks, Option.filter_some, if_neg]
    · simp only [Option.toList_none, List.map_nil, List.append_nil, List.suffix_refl]
    · rcases hasks with hdetached | hsame
      · simp [hdetached]
      · simp [hsame]
  · obtain ⟨hattached, hnew⟩ := not_or.mp hasks
    rw [if_neg hasks, Option.filter_some, if_pos]
    · exact List.drop_suffix _ _
    · simp [not_not.mp hattached, hnew]

theorem snapshotHistory_call (hsize : engine.KeepsMemorySize) (vm : VirtualMachine I) (op : StepCall) :
    (vm.call engine op).snapshotHistory <:+
      vm.snapshotHistory ++ (vm.captured op).toList.map createSnapshot := by
  unfold captured
  cases haddressed : vm.addressed op with
  | none =>
      rw [(call_of_not_addressed haddressed).snapshotHistory]
      simp
  | some i =>
      obtain ⟨ctx, -, hcall⟩ := call_of_addressed haddressed
      have hhistory : (vm.boundary i).snapshotHistory = vm.snapshotHistory := by
        rw [boundary, wake_eq]
      rw [hcall, (sameDebugger_stepContext hsize vm i ctx).snapshotHistory, ← hhistory]
      exact snapshotHistory_capture (vm.boundary i)

/-- **The history of a run** is a final piece of what the run captured, after what was there before. -/
theorem snapshotHistory_run (hsize : engine.KeepsMemorySize) (vm : VirtualMachine I) (ops : List StepCall) :
    (Runs.run (call engine) vm ops).snapshotHistory <:+
      vm.snapshotHistory ++ (captures engine vm ops).map fun e => e.1.createSnapshot := by
  induction ops generalizing vm with
  | nil => simp [captures]
  | cons op ops ih =>
      obtain ⟨dropped, hdropped⟩ := snapshotHistory_call hsize vm op
      have hmore : (vm.call engine op).snapshotHistory ++
          ((captures engine (vm.call engine op) ops).map fun e => e.1.createSnapshot) <:+
          vm.snapshotHistory ++ (captures engine vm (op :: ops)).map fun e => e.1.createSnapshot := by
        refine ⟨dropped, ?_⟩
        rw [← List.append_assoc, hdropped, captures, List.map_append, List.map_map, List.append_assoc]
        rfl
      exact (ih (vm.call engine op)).trans hmore

/-! ## The shape of a machine -/

/-- The same number of processors, as much memory, and the same debugger. -/
structure SameShape (s t : VirtualMachine I) : Prop where
  cpus : t.cpus.length = s.cpus.length
  memorySize : t.world.memory.data.length = s.world.memory.data.length
  debuggerAttached : t.debuggerAttached = s.debuggerAttached
  instructionBreakpoints : t.instructionBreakpoints = s.instructionBreakpoints

theorem SameShape.refl (s : VirtualMachine I) : SameShape s s := ⟨rfl, rfl, rfl, rfl⟩

theorem SameShape.symm {s t : VirtualMachine I} (h : SameShape s t) : SameShape t s :=
  ⟨h.cpus.symm, h.memorySize.symm, h.debuggerAttached.symm, h.instructionBreakpoints.symm⟩

theorem SameShape.trans {s t u : VirtualMachine I} (h : SameShape s t) (h' : SameShape t u) : SameShape s u :=
  ⟨h'.cpus.trans h.cpus, h'.memorySize.trans h.memorySize, h'.debuggerAttached.trans h.debuggerAttached,
    h'.instructionBreakpoints.trans h.instructionBreakpoints⟩

theorem SameDebugger.sameShape {s t : VirtualMachine I} (h : SameDebugger s t) : SameShape s t :=
  ⟨h.cpus, h.memorySize, h.debuggerAttached, h.instructionBreakpoints⟩

theorem sameShape_capture (b : VirtualMachine I) : SameShape b b.captureSnapshotIfBoundary := by
  obtain ⟨history, hhistory⟩ := captureSnapshotIfBoundary_eq b
  rw [hhistory]
  exact ⟨rfl, rfl, rfl, rfl⟩

theorem sameShape_boundary : SameShape vm (vm.boundary i) := by
  unfold boundary
  rw [wake_eq]
  exact ⟨rfl, rfl, rfl, rfl⟩

theorem sameShape_call (hsize : engine.KeepsMemorySize) (vm : VirtualMachine I) (op : StepCall) :
    SameShape vm (vm.call engine op) := by
  cases haddressed : vm.addressed op with
  | none => exact (call_of_not_addressed haddressed).sameShape
  | some i =>
      obtain ⟨ctx, -, hcall⟩ := call_of_addressed haddressed
      rw [hcall]
      exact ((sameShape_boundary vm i).trans (sameShape_capture _)).trans
        (sameDebugger_stepContext hsize vm i ctx).sameShape

theorem sameShape_run (hsize : engine.KeepsMemorySize) (vm : VirtualMachine I) (ops : List StepCall) :
    SameShape vm (Runs.run (call engine) vm ops) := by
  induction ops generalizing vm with
  | nil => exact .refl vm
  | cons op ops ih => exact (sameShape_call hsize vm op).trans (ih (vm.call engine op))

/-- What stands in `captures`: the boundary of a call of the run, with that call and the later ones. -/
theorem captures_spec {vm c : VirtualMachine I} {ops rest : List StepCall} (h : (c, rest) ∈ captures engine vm ops) :
    ∃ pre op post i, ops = pre ++ rest ∧ rest = op :: post ∧ (Runs.run (call engine) vm pre).addressed op = some i ∧
      c = (Runs.run (call engine) vm pre).boundary i ∧ c.debuggerAttached = true := by
  induction ops generalizing vm with
  | nil => cases h
  | cons op ops ih =>
      rcases List.mem_append.mp h with hnow | hlater
      · obtain ⟨b, hb, heq⟩ := List.mem_map.mp hnow
        cases heq
        obtain ⟨hsome, hasks⟩ := Option.filter_eq_some_iff.mp (Option.mem_toList.mp hb)
        obtain ⟨i, haddressed, rfl⟩ := Option.map_eq_some_iff.mp hsome
        exact ⟨[], op, ops, i, rfl, rfl, haddressed, rfl, (Bool.and_eq_true_iff.mp hasks).1⟩
      · obtain ⟨pre, op', post, i, rfl, hrest, haddressed, hc, hattached⟩ := ih hlater
        exact ⟨op :: pre, op', post, i, rfl, hrest, haddressed, hc, hattached⟩

theorem addressed_boundary {vm : VirtualMachine I} {i : Nat} (h : vm.addressed op = some i) :
    (vm.boundary i).addressed op = some i := by
  have halive : ¬ (vm.state = .CREATED ∨ vm.state = .ERROR) := by
    intro hdead
    unfold addressed at h
    rw [if_pos hdead] at h
    cases h
  have hawake : ¬ ((vm.boundary i).state = .CREATED ∨ (vm.boundary i).state = .ERROR) := by
    show ¬ (vm.wake.state = .CREATED ∨ vm.wake.state = .ERROR)
    rcases vm.state_wake with hrunning | hpaused
    · simp [hrunning]
    · simp [hpaused]
  unfold addressed at h ⊢
  rw [if_neg halive] at h
  rw [if_neg hawake, wake_boundary, ← h]
  cases op with
  | step => rfl
  | stepCPU cpuIndex =>
      have hvalid : (vm.boundary i).isValidCPUIndex cpuIndex ↔ vm.isValidCPUIndex cpuIndex := by
        unfold isValidCPUIndex
        rw [(sameShape_boundary vm i).cpus]
      exact if_congr hvalid rfl rfl
  | enterRun => rfl
  | stopAtLimit => rfl

/-- A run goes on from a boundary as it went on. -/
theorem call_boundary {vm : VirtualMachine I} {i : Nat} (h : vm.addressed op = some i) :
    (vm.boundary i).call engine op = vm.call engine op := by
  have hcpus : (vm.boundary i).cpus = vm.cpus := cpus_wake vm
  obtain ⟨ctx, hctx, hcall⟩ := call_of_addressed (addressed_boundary h)
  obtain ⟨ctx', hctx', hcall'⟩ := call_of_addressed h
  rw [hcpus, hctx'] at hctx
  cases hctx
  rw [hcall, hcall', stepContext_boundary]

/-- From a captured machine on, the calls that were to come give the states of the run. -/
theorem runs_as_captured {vm c : VirtualMachine I} {ops rest : List StepCall} (h : (c, rest) ∈ captures engine vm ops) :
    ∃ pre, ops = pre ++ rest ∧ ∀ n, 1 ≤ n →
      Runs.run (call engine) c (rest.take n) = Runs.run (call engine) vm (pre ++ rest.take n) := by
  obtain ⟨pre, op, post, i, rfl, rfl, haddressed, rfl, -⟩ := captures_spec h
  refine ⟨pre, rfl, ?_⟩
  intro n hn
  obtain ⟨m, rfl⟩ := Nat.exists_eq_add_of_le' hn
  rw [run_append, List.take_succ_cons, run_cons, run_cons, call_boundary haddressed]

/-! ## Going back -/

/-- So many rewinds, all of them successful. -/
def rewinds : Nat → VirtualMachine I → Option (VirtualMachine I)
  | 0, vm => some vm
  | j + 1, vm =>
      match vm.rewindToLastSnapshot with
      | some (true, vm) => rewinds j vm
      | _ => none

/-- A machine with a snapshot restored, and that piece of its history left. -/
def rewoundTo (snapshot : DebuggerSnapshot I) (history : List (DebuggerSnapshot I)) : VirtualMachine I :=
  { vm with
    world := { vm.world with memory := { vm.world.memory with
      data := snapshot.memory.data, pageTable := snapshot.memory.pageTable, mmuEnabled := snapshot.memory.mmuEnabled } }
    cpus := vm.cpus.zipWith CPUContext.restore snapshot.cpus
    state := .PAUSED
    activeCPUIndex := snapshot.activeCPUIndex
    snapshotHistory := history
    cyclesExecuted := snapshot.cyclesExecuted
    lastBreakReason := "rewind" }

/-- A snapshot of a machine of this shape. -/
def Fits (snapshot : DebuggerSnapshot I) : Prop :=
  snapshot.cpus.length = vm.cpus.length ∧ snapshot.memory.data.length = vm.world.memory.data.length

theorem rewindToLastSnapshot_eq {vm : VirtualMachine I} {older : List (DebuggerSnapshot I)}
    (hhistory : vm.snapshotHistory = older ++ [snapshot]) (hfits : vm.Fits snapshot) :
    vm.rewindToLastSnapshot = some (true, vm.rewoundTo snapshot older) := by
  have hmemory : vm.world.memory.restoreSnapshot snapshot.memory = some (vm.rewoundTo snapshot older).world.memory :=
    if_neg (not_not.mpr hfits.2)
  unfold rewindToLastSnapshot
  rw [hhistory, List.getLast?_concat, List.dropLast_concat]
  dsimp only
  unfold restoreSnapshot
  rw [if_neg (not_not.mpr hfits.1)]
  dsimp only
  rw [hmemory]
  rfl

/-- Of two restores only the second one is seen. -/
theorem restore_restore (a b : CPURecord I) : (ctx.restore a).restore b = ctx.restore b := by
  obtain ⟨⟨state, isaPlugin, halted, bundle, slot, valid, pending, base, inputs⟩, _, _, _, _, _, _⟩ := ctx
  cases isaPlugin <;> rfl

theorem zipWith_restore_restore (cpus : List (CPUContext I)) {as bs : List (CPURecord I)}
    (h : as.length = cpus.length) :
    (cpus.zipWith CPUContext.restore as).zipWith CPUContext.restore bs = cpus.zipWith CPUContext.restore bs := by
  induction cpus generalizing as bs with
  | nil => simp
  | cons ctx cpus ih =>
      cases as with
      | nil => cases h
      | cons a as =>
          cases bs with
          | nil => simp
          | cons b bs =>
              have hrest : (cpus.zipWith CPUContext.restore as).zipWith CPUContext.restore bs =
                  cpus.zipWith CPUContext.restore bs := ih (Nat.succ.inj h)
              simp [restore_restore, hrest]

theorem rewoundTo_rewoundTo {vm : VirtualMachine I} {a b : DebuggerSnapshot I} {newer older : List (DebuggerSnapshot I)}
    (h : vm.Fits a) : (vm.rewoundTo a newer).rewoundTo b older = vm.rewoundTo b older := by
  unfold rewoundTo
  rw [zipWith_restore_restore vm.cpus h.1]

/-- **So many rewinds restore that snapshot**, counted from the last one. -/
theorem rewinds_eq {vm : VirtualMachine I} {older newer : List (DebuggerSnapshot I)}
    (hhistory : vm.snapshotHistory = older ++ snapshot :: newer) (hfits : ∀ s ∈ vm.snapshotHistory, vm.Fits s) :
    rewinds (newer.length + 1) vm = some (vm.rewoundTo snapshot older) := by
  induction newer using List.reverseRecOn generalizing vm with
  | nil =>
      have hsnapshot : snapshot ∈ vm.snapshotHistory := by rw [hhistory]; simp
      rw [rewinds, rewindToLastSnapshot_eq hhistory (hfits snapshot hsnapshot)]
      rfl
  | append_singleton newer last ih =>
      have hsplit : vm.snapshotHistory = (older ++ snapshot :: newer) ++ [last] := by rw [hhistory]; simp
      have hlast : last ∈ vm.snapshotHistory := by rw [hhistory]; simp
      have hback := rewindToLastSnapshot_eq hsplit (hfits last hlast)
      rw [List.length_append, List.length_singleton, rewinds, hback]
      dsimp only
      have hshape : ∀ s, vm.Fits s → (vm.rewoundTo last (older ++ snapshot :: newer)).Fits s := by
        intro s hs
        refine ⟨hs.1.trans ?_, hs.2.trans (hfits last hlast).2.symm⟩
        show vm.cpus.length = (vm.cpus.zipWith CPUContext.restore last.cpus).length
        rw [List.length_zipWith, (hfits last hlast).1, Nat.min_self]
      rw [ih rfl fun s hs => hshape s (hfits s (by rw [hsplit]; exact List.mem_append_left _ hs)),
        rewoundTo_rewoundTo (hfits last hlast)]

/-! ## What a snapshot does not carry -/

/-- What the snapshot of `c` does not carry is in `now` as it was in `c`. -/
structure Rewindable (c now : VirtualMachine I) : Prop where
  /-- The plugins, but for their register files and for what they have fetched and may not use. -/
  plugins : List.Forall₂ (fun a b : CPUContext I => Option.Rel (SamePlugin True) a.cpu.isaPlugin
    (b.cpu.isaPlugin.map fun plugin => plugin.setCpu a.cpu.getState)) c.cpus now.cpus
  watchpoints : c.world.memory.watchpoints = now.world.memory.watchpoints
  pageSize : c.world.memory.pageSize = now.world.memory.pageSize
  console : c.world.console = now.world.console
  timer : c.world.timer = now.world.timer
  framebuffer : c.world.framebuffer = now.world.framebuffer
  /-- The cursor of the scheduler, where there is a choice. -/
  lastCPUIndex : c.cpus.length ≤ 1 ∨ c.scheduler.lastCPUIndex = now.scheduler.lastCPUIndex
  pendingVectors : c.interruptController.pendingVectors = now.interruptController.pendingVectors
  /-- `c` was not captured on the way past a breakpoint. -/
  atInstructionBreakpoint : c.atInstructionBreakpoint = false

theorem restore_matches {a b : CPUContext I} (h : Option.Rel (SamePlugin True) a.cpu.isaPlugin
    (b.cpu.isaPlugin.map fun plugin => plugin.setCpu a.cpu.getState)) : a.Matches True False (b.restore a.record) := by
  refine ⟨_, ?_, rfl⟩
  exact
    { isaPlugin := h
      state := fun hnone => CPU.state_restored hnone (by
        have hsome := isSome_of_rel h
        rwa [Option.isSome_map, hnone, Option.isSome_none, eq_comm] at hsome)
      halted := rfl
      currentBundle := .inl rfl
      currentSlot := rfl
      bundleValid := rfl
      pendingInterrupts := rfl
      interruptVectorBase := rfl
      pendingCallInputs := fun _ => rfl }

theorem rewoundTo_matches {c now : VirtualMachine I} (hshape : SameShape c now)
    (hstate : c.state = .RUNNING ∨ c.state = .PAUSED)
    (h : Rewindable c now) (history : List (DebuggerSnapshot I)) :
    Matches True False True c (now.rewoundTo c.createSnapshot history) where
  world := by
    have hwatch := h.watchpoints
    have hpage := h.pageSize
    have hconsole := h.console
    have htimer := h.timer
    have hframe := h.framebuffer
    unfold rewoundTo
    dsimp only
    rw [← hwatch, ← hpage, ← hconsole, ← htimer, ← hframe]
    rfl
  cpus := by
    refine List.forall₂_iff_get.mpr ⟨?_, ?_⟩
    · show c.cpus.length = (now.cpus.zipWith CPUContext.restore (c.cpus.map CPUContext.record)).length
      rw [List.length_zipWith, List.length_map, hshape.cpus, Nat.min_self]
    · intro i hi hi'
      have hnow : i < now.cpus.length := hshape.cpus ▸ hi
      have hget := restore_matches (h.plugins.get hi hnow)
      simpa [rewoundTo, createSnapshot] using hget
  lastCPUIndex := h.lastCPUIndex
  pendingVectors := h.pendingVectors
  sameRun := by
    refine ⟨?_, h.atInstructionBreakpoint.trans ?_⟩
    · rcases hstate with hrunning | hpaused
      · exact .inr ⟨trivial, hrunning, rfl⟩
      · exact .inl hpaused
    · rfl
  activeCPUIndex := rfl
  debuggerAttached := hshape.debuggerAttached.symm
  instructionBreakpoints := fun _ => hshape.instructionBreakpoints.symm
  cyclesExecuted := rfl

/-! ## The last ones -/

/-- The `j`-th last of a final piece. -/
theorem split_last {α β : Type} {f : α → β} {as : List α} {bs : List β} (h : bs <:+ as.map f) {j : Nat} (hj : 1 ≤ j)
    (hle : j ≤ bs.length) :
    ∃ front a back older, as = front ++ a :: back ∧ back.length + 1 = j ∧ bs = older ++ f a :: back.map f := by
  obtain ⟨dropped, hdropped⟩ := h
  have hlt : bs.length - j < bs.length := by omega
  have hbs : bs = bs.take (bs.length - j) ++ bs[bs.length - j] :: bs.drop (bs.length - j + 1) := by
    rw [← List.drop_eq_getElem_cons hlt, List.take_append_drop]
  rw [hbs, ← List.append_assoc] at hdropped
  obtain ⟨front, last, rfl, hfront, hlast⟩ := List.append_eq_map_iff.mp hdropped
  obtain ⟨a, back, rfl, ha, hback⟩ := List.map_eq_cons_iff.mp hlast
  refine ⟨front, a, back, bs.take (bs.length - j), rfl, ?_, ?_⟩
  · have hlength := congrArg List.length hback
    rw [List.length_map, List.length_drop] at hlength
    omega
  · rw [ha, hback]
    exact hbs

/-- A captured machine is awake. -/
theorem state_boundary :
    (vm.boundary i).state = .RUNNING ∨ (vm.boundary i).state = .PAUSED := vm.state_wake

/-- **Time travel.** The `j`-th rewind gets to the `j`-th last captured machine, and from there the same calls give what
    they gave, where what the snapshot does not carry is as it was. -/
theorem rewinds_reproduce (hanew : engine.FetchesAnew) (hsize : engine.KeepsMemorySize) {vm : VirtualMachine I}
    (hfresh : vm.snapshotHistory = []) (ops : List StepCall) {j : Nat} (hj : 1 ≤ j)
    (hle : j ≤ (Runs.run (call engine) vm ops).snapshotHistory.length) :
    ∃ front c rest back, captures engine vm ops = front ++ (c, rest) :: back ∧ back.length + 1 = j ∧
      (∃ pre, ops = pre ++ rest ∧ ∀ n, 1 ≤ n →
        Runs.run (call engine) c (rest.take n) = Runs.run (call engine) vm (pre ++ rest.take n)) ∧
      ∃ r, rewinds j (Runs.run (call engine) vm ops) = some r ∧
        (Rewindable c (Runs.run (call engine) vm ops) →
          Matches True False True c r ∧
            ∀ n, Matches True False True (Runs.run (call engine) c (rest.take n))
              (Runs.run (call engine) r (rest.take n))) := by
  have hhistory := snapshotHistory_run hsize vm ops
  rw [hfresh, List.nil_append] at hhistory
  obtain ⟨front, ⟨c, rest⟩, back, older, hcaptures, hback, hsplit⟩ := split_last hhistory hj hle
  have hshape : ∀ e ∈ captures engine vm ops, SameShape e.1 (Runs.run (call engine) vm ops) ∧
      (e.1.state = .RUNNING ∨ e.1.state = .PAUSED) := by
    rintro ⟨c, rest⟩ he
    obtain ⟨pre, op, post, i, rfl, -, -, rfl, -⟩ := captures_spec he
    rw [run_append]
    exact ⟨(sameShape_boundary _ i).symm.trans (sameShape_run hsize _ rest), state_boundary _ i⟩
  have hmem : (c, rest) ∈ captures engine vm ops := by
    rw [hcaptures]
    exact List.mem_append_right _ List.mem_cons_self
  have hc := hshape (c, rest) hmem
  refine ⟨front, c, rest, back, hcaptures, hback, runs_as_captured hmem, (Runs.run (call engine) vm ops).rewoundTo c.createSnapshot older, ?_, ?_⟩
  · rw [← hback, ← List.length_map (f := fun e : VirtualMachine I × List StepCall => e.1.createSnapshot)]
    refine rewinds_eq hsplit ?_
    intro s hs
    obtain ⟨e, he, rfl⟩ := List.mem_map.mp (hhistory.subset hs)
    have hfits := (hshape e he).1
    exact ⟨(List.length_map ..).trans hfits.cpus.symm, hfits.memorySize.symm⟩
  · intro hrewindable
    have hmatches := rewoundTo_matches hc.1 hc.2 hrewindable older
    refine ⟨hmatches, fun n => ?_⟩
    exact hmatches.calls (fun _ => hanew) (everyStep_of_invariant (fun _ => True) (fun _ _ _ _ => trivial)
      (fun _ _ _ _ => False.elim) trivial (everyStep_of_forall (P := fun _ => True) fun _ _ => trivial))

/-! ## In a memory of nops -/

/-- Without a plugin, a rewind in the middle of a bundle gets back to its beginning. -/
theorem rewinds_reproduce_nops :
    let vm := (nopMachine 1 false).attach_debugger.2
    ∃ c r, (c, [.step]) ∈ captures nopEngine vm [.step] ∧
      rewinds 1 (Runs.run (call nopEngine) vm [.step]) = some r ∧ Matches True False True c r := by
  intro vm
  have hfresh : vm.snapshotHistory = [] := rfl
  have hle : 1 ≤ (Runs.run (call nopEngine) vm [.step]).snapshotHistory.length := by decide +kernel
  have hlegacy : ∀ vm : VirtualMachine Unit, vm.cpus.all (fun ctx => ctx.cpu.isaPlugin.isNone) = true →
      ∀ ctx ∈ vm.cpus, ctx.cpu.isaPlugin = none := by
    intro vm hall ctx hctx
    simpa using List.all_eq_true.mp hall ctx hctx
  have hthen := hlegacy vm (by decide +kernel)
  have hnow := hlegacy (Runs.run (call nopEngine) vm [.step]) (by decide +kernel)
  obtain ⟨front, c, rest, back, hcaptures, -, -, r, hr, hreproduces⟩ :=
    rewinds_reproduce fetchesAnew_nopEngine keepsMemorySize_nopEngine hfresh [.step] (le_refl 1) hle
  have hmem : (c, rest) ∈ captures nopEngine vm [.step] := by
    rw [hcaptures]
    exact List.mem_append_right _ List.mem_cons_self
  obtain ⟨pre, op, post, i, hops, rfl, -, rfl, -⟩ := captures_spec hmem
  obtain ⟨rfl, hrest⟩ : pre = [] ∧ op :: post = [.step] := by
    cases pre with
    | nil => exact ⟨rfl, hops.symm⟩
    | cons first pre => simp at hops
  have hcpus : (vm.boundary i).cpus = vm.cpus := cpus_wake vm
  have hlength : vm.cpus.length = (Runs.run (call nopEngine) vm [.step]).cpus.length := by decide +kernel
  have hone : vm.cpus.length ≤ 1 := by decide +kernel
  have hawake : vm.wake.atInstructionBreakpoint = false := by decide +kernel
  have hrewindable : Rewindable (vm.boundary i) (Runs.run (call nopEngine) vm [.step]) :=
    { plugins := by
        rw [hcpus]
        refine List.forall₂_iff_get.mpr ⟨hlength, ?_⟩
        intro k hk hk'
        rw [hthen _ (List.get_mem _ ⟨k, hk⟩), hnow _ (List.get_mem _ ⟨k, hk'⟩)]
        exact .none
      watchpoints := rfl
      pageSize := rfl
      console := rfl
      timer := rfl
      framebuffer := rfl
      lastCPUIndex := .inl (hcpus ▸ hone)
      pendingVectors := rfl
      atInstructionBreakpoint := hawake }
  rw [hrest] at hmem
  exact ⟨_, r, hmem, hr, (hreproduces hrewindable).1⟩

/-- On a plugin the slot is lost: the machine gets back to the second slot, and its plugin to the third one. -/
theorem rewind_loses_slot :
    let vm := (nopMachine 1 true).attach_debugger.2
    let now := Runs.run (call nopEngine) vm [.step, .step]
    (vm.call nopEngine .step).cpus.map (fun ctx => ctx.cpu.isaPlugin.map (·.state.currentSlot)) = [some 1] ∧
      (rewinds 1 now).map (fun r => r.cpus.map fun ctx => ctx.cpu.isaPlugin.map (·.state.currentSlot)) =
        some [some 2] ∧
      now.cpus.map (fun ctx => ctx.cpu.getIP) = [0] ∧
      (rewinds 1 now).map (fun r => (r.call nopEngine .step).cpus.map fun ctx => ctx.cpu.getIP) = some [16] := by
  refine ⟨?_, ?_, ?_, ?_⟩ <;> decide +kernel

end VirtualMachine

end GuideXOS.Machine
