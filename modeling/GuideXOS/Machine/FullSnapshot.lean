import GuideXOS.Machine.Lockstep
import GuideXOS.Machine.Nops

/-!
# `FullSnapshot` — `captureVMSnapshot` and `restoreVMSnapshot`

A full snapshot of a machine `s`, restored into a machine `t` of the same configuration. The machine that comes out has
what the snapshot carries from `s` and everything else from `t`, or as it was initialised. `Reproducible s t` says of
each component that is not carried that this makes no difference; the restored machine then goes on as `s` does.
-/

namespace GuideXOS.Machine
open Lib Lib.Runs GuideXOS.Core GuideXOS.Isa GuideXOS.Vm

variable {I : Type} {engine : Engine I}

/-! ## Run states as numbers -/

namespace VMState

/-- The enumeration, in its order. -/
def all : List VMState :=
  [.CREATED, .CONFIGURING, .INITIALIZING, .STOPPED, .STARTING, .RUNNING, .PAUSING, .PAUSED, .RESUMING, .STOPPING,
    .TERMINATING, .TERMINATED, .ERROR, .CRASHED, .SNAPSHOTTING, .RESTORING]

def toUInt32 (state : VMState) : UInt32 := UInt32.ofNat (all.idxOf state)

def ofUInt32 (value : UInt32) : Option VMState := all[value.toNat]?

@[simp] theorem ofUInt32_toUInt32 (state : VMState) : ofUInt32 state.toUInt32 = some state := by
  cases state <;> rfl

end VMState

/-! ## Processors -/

namespace CPUContext

/-- The record of a processor, with the number of its place. -/
def captureRecord (i : Nat) (ctx : CPUContext I) : CPUSnapshotRecord where
  cpuId := UInt32.ofNat i
  architecturalState := ctx.cpu.getState
  executionState := ctx.state
  cyclesExecuted := ctx.cyclesExecuted
  instructionsExecuted := ctx.instructionsExecuted
  idleCycles := ctx.idleCycles
  enabled := ctx.enabled
  lastActivationTime := ctx.lastActivationTime
  currentBundle := []
  currentSlot := ctx.cpu.createSnapshot.currentSlot
  bundleValid := ctx.cpu.createSnapshot.bundleValid
  pendingInterrupts := ctx.cpu.createSnapshot.pendingInterrupts
  interruptVectorBase := ctx.cpu.createSnapshot.interruptVectorBase

/-- The runtime state a record is turned into; what it does not have is as initialised. -/
def restoreRecord (ctx : CPUContext I) (record : CPUSnapshotRecord) : CPUContext I where
  cpu := ctx.cpu.restoreSnapshot
    { architecturalState := record.architecturalState
      currentSlot := record.currentSlot
      bundleValid := record.bundleValid
      pendingInterrupts := record.pendingInterrupts
      interruptVectorBase := record.interruptVectorBase }
  state := record.executionState
  cyclesExecuted := record.cyclesExecuted
  instructionsExecuted := record.instructionsExecuted
  idleCycles := record.idleCycles
  enabled := record.enabled
  lastActivationTime := record.lastActivationTime

end CPUContext

namespace VirtualMachine

/-! ## The machine -/

/-- **`captureVMSnapshot`.** -/
def captureVMSnapshot (vm : VirtualMachine I) : VMStateSnapshot where
  cpus := vm.cpus.mapIdx CPUContext.captureRecord
  activeCPUIndex := vm.activeCPUIndex
  memoryState := vm.world.memory.createSnapshot
  consoleState := vm.world.console.createSnapshot
  timerState := vm.world.timer.createSnapshot
  interruptControllerState := vm.interruptController.createSnapshot
  vmStateValue := vm.state.toUInt32
  totalCyclesExecuted := vm.cyclesExecuted
  quantumSize := vm.scheduler.quantumSize

/-- **`restoreVMSnapshot`**; `none` where the memory throws, and where the number is not that of a run state. -/
def restoreVMSnapshot (vm : VirtualMachine I) (snapshot : VMStateSnapshot) : Option (Bool × VirtualMachine I) :=
  if snapshot.cpus.length ≠ vm.cpus.length then some (false, vm)
  else do
    let memory ← vm.world.memory.restoreSnapshot snapshot.memoryState
    let state ← VMState.ofUInt32 snapshot.vmStateValue
    some (true, { vm with
      world := { vm.world with
        memory
        console := vm.world.console.restoreSnapshot snapshot.consoleState
        timer := .restoreSnapshot snapshot.timerState }
      cpus := vm.cpus.zipWith CPUContext.restoreRecord snapshot.cpus
      activeCPUIndex := snapshot.activeCPUIndex
      interruptController := vm.interruptController.restoreSnapshot snapshot.interruptControllerState
      state
      cyclesExecuted := snapshot.totalCyclesExecuted
      scheduler := if snapshot.quantumSize > 0 then vm.scheduler.setQuantumSize snapshot.quantumSize else vm.scheduler })

/-- What restoring a snapshot of `s` makes of `t`, of the same configuration. -/
def restoredFrom (s t : VirtualMachine I) : VirtualMachine I :=
  { t with
    world := { t.world with
      memory := { t.world.memory with
        data := s.world.memory.data, pageTable := s.world.memory.pageTable, mmuEnabled := s.world.memory.mmuEnabled }
      console := t.world.console.restoreSnapshot s.world.console.createSnapshot
      timer := s.world.timer }
    cpus := t.cpus.zipWith CPUContext.restoreRecord (s.cpus.mapIdx CPUContext.captureRecord)
    activeCPUIndex := s.activeCPUIndex
    interruptController := t.interruptController.restoreSnapshot s.interruptController.createSnapshot
    state := s.state
    cyclesExecuted := s.cyclesExecuted
    scheduler := if s.scheduler.quantumSize > 0 then t.scheduler.setQuantumSize s.scheduler.quantumSize else t.scheduler }

/-- Two machines of the same configuration. -/
structure SameConfiguration (s t : VirtualMachine I) : Prop where
  cpus : s.cpus.map (·.cpu.isaPlugin.isSome) = t.cpus.map (·.cpu.isaPlugin.isSome)
  memorySize : s.world.memory.data.length = t.world.memory.data.length
  pageSize : s.world.memory.pageSize = t.world.memory.pageSize

theorem restoreVMSnapshot_captureVMSnapshot {s t : VirtualMachine I} (h : SameConfiguration s t) :
    t.restoreVMSnapshot s.captureVMSnapshot = some (true, restoredFrom s t) := by
  have hlength : s.captureVMSnapshot.cpus.length = t.cpus.length := by
    show (s.cpus.mapIdx CPUContext.captureRecord).length = _
    rw [List.length_mapIdx]
    simpa using congrArg List.length h.cpus
  have hmemory : t.world.memory.restoreSnapshot s.captureVMSnapshot.memoryState = some (restoredFrom s t).world.memory :=
    if_neg (not_not.mpr h.memorySize)
  have hstate : VMState.ofUInt32 s.captureVMSnapshot.vmStateValue = some s.state := VMState.ofUInt32_toUInt32 s.state
  unfold restoreVMSnapshot
  rw [if_neg (not_not.mpr hlength), hmemory, hstate]
  rfl

end VirtualMachine

/-- What a record does not carry of a processor `c` is in `d`, or as it is initialised. -/
structure CPU.Reproducible (c d : CPU I) : Prop where
  /-- The plugin, but for its register file and for what it has fetched and may not use. -/
  isaPlugin : Option.Rel (SamePlugin True) c.isaPlugin (d.isaPlugin.map fun plugin => plugin.setCpu c.getState)
  halted : c.halted = false
  /-- It is not within a bundle. -/
  bundleValid : c.bundleValid = false
  pendingCallInputs : c.isaPlugin = none → c.pendingCallInputs = []

namespace VirtualMachine

/-- What a snapshot does not carry of a machine `s` is in `t`, or as it is initialised. -/
structure Reproducible (s t : VirtualMachine I) : Prop where
  cpus : List.Forall₂ (fun a b : CPUContext I => a.cpu.Reproducible b.cpu) s.cpus t.cpus
  watchpoints : s.world.memory.watchpoints = t.world.memory.watchpoints
  framebuffer : s.world.framebuffer = t.world.framebuffer
  /-- The console is as its own operations leave it. -/
  console : s.world.console.Exact
  /-- The cursor of the scheduler, where there is a choice. -/
  lastCPUIndex : s.cpus.length ≤ 1 ∨ s.scheduler.lastCPUIndex = t.scheduler.lastCPUIndex
  /-- Nothing waits for its delivery. -/
  pendingVectors : s.interruptController.pendingVectors = []
  /-- A stop at an instruction breakpoint. -/
  lastBreakReason : s.state = .PAUSED →
    (s.lastBreakReason = "instruction breakpoint" ↔ t.lastBreakReason = "instruction breakpoint")
  debuggerAttached : s.debuggerAttached = t.debuggerAttached
  instructionBreakpoints : s.debuggerAttached = true → s.instructionBreakpoints = t.instructionBreakpoints

theorem restoreSnapshot_createSnapshot_console {c : VirtualConsole} (h : c.Exact) (d : VirtualConsole) :
    d.restoreSnapshot c.createSnapshot = c := by
  obtain ⟨hlimit, hempty⟩ := h
  have hlines : ConsoleOutputBuffer.restoreExactState c.outputBuffer.lines c.outputBuffer.currentLine
      c.outputBuffer.maxLines c.outputBuffer.totalBytesWritten = c.outputBuffer := by
    unfold ConsoleOutputBuffer.restoreExactState ConsoleOutputBuffer.enforceMaxLines
    rcases hlimit with hzero | hle
    · rw [if_pos hzero]
    · rw [Nat.sub_eq_zero_of_le hle, List.drop_zero, ite_self]
  have hexact : c.createSnapshot.completeLines ≠ [] ∨ c.createSnapshot.currentLine ≠ "" ∨
      c.createSnapshot.maxLines ≠ 10000 ∨ c.createSnapshot.totalBytesWritten = 0 := by
    by_cases hnone : c.outputBuffer.lines = []
    · by_cases hline : c.outputBuffer.currentLine = ""
      · exact .inr (.inr (.inr (hempty hnone hline)))
      · exact .inr (.inl hline)
    · exact .inl hnone
  show VirtualConsole.mk _ _ (if _ then _ else _) = c
  rw [if_pos hexact]
  exact congrArg (VirtualConsole.mk c.baseAddress c.buffer) hlines

theorem pendingVectors_restoreSnapshot {c : BasicInterruptController} (h : c.pendingVectors = [])
    (d : BasicInterruptController) : (d.restoreSnapshot c.createSnapshot).pendingVectors = [] := by
  have hflags : ∀ v : Nat, c.createSnapshot.pendingInterrupts[v]? ≠ some true := by
    intro v
    show ((List.range 256).map fun v => c.pendingVectors.contains (UInt8.ofNat v))[v]? ≠ some true
    rw [h, List.getElem?_map]
    cases (List.range 256)[v]? <;> simp
  have hnone : (List.range c.createSnapshot.pendingInterrupts.length).filterMap (fun v =>
      if c.createSnapshot.pendingInterrupts[v]? = some true then some (UInt8.ofNat v) else none) = [] :=
    List.filterMap_eq_nil_iff.mpr fun v _ => if_neg (hflags v)
  unfold BasicInterruptController.restoreSnapshot
  dsimp only
  split
  · exact hnone
  · exact hnone

theorem restoreRecord_matches {a b : CPUContext I} (h : a.cpu.Reproducible b.cpu) (i : Nat) :
    a.Matches True True (b.restoreRecord (a.captureRecord i)) := by
  refine ⟨_, ?_, rfl⟩
  exact
    { isaPlugin := h.isaPlugin
      state := fun hnone => CPU.state_restored hnone (by
        have hsome := isSome_of_rel h.isaPlugin
        rwa [Option.isSome_map, hnone, Option.isSome_none, eq_comm] at hsome)
      halted := h.halted
      currentBundle := .inr ⟨trivial, h.bundleValid, rfl⟩
      currentSlot := rfl
      bundleValid := rfl
      pendingInterrupts := rfl
      interruptVectorBase := rfl
      pendingCallInputs := h.pendingCallInputs }

theorem cpus_restoredFrom {as bs : List (CPUContext I)}
    (h : List.Forall₂ (fun a b : CPUContext I => a.cpu.Reproducible b.cpu) as bs) :
    List.Forall₂ (CPUContext.Matches True True) as
      (bs.zipWith CPUContext.restoreRecord (as.mapIdx CPUContext.captureRecord)) := by
  refine List.forall₂_iff_get.mpr ⟨?_, ?_⟩
  · rw [List.length_zipWith, List.length_mapIdx, h.length_eq, Nat.min_self]
  · intro i hi hi'
    have hb : i < bs.length := h.length_eq ▸ hi
    have hget := restoreRecord_matches (h.get hi hb) i
    simpa using hget

/-- **What comes out of a snapshot goes on as what went in.** -/
theorem restoredFrom_matches {s t : VirtualMachine I} (hconf : SameConfiguration s t) (h : Reproducible s t) :
    Matches True True False s (restoredFrom s t) where
  world := by
    have hpage := hconf.pageSize
    have hwatch := h.watchpoints
    have hframe := h.framebuffer
    have hconsole := restoreSnapshot_createSnapshot_console h.console t.world.console
    unfold restoredFrom
    dsimp only
    rw [hconsole, ← hpage, ← hwatch, ← hframe]
  cpus := cpus_restoredFrom h.cpus
  lastCPUIndex := by
    refine h.lastCPUIndex.imp id fun hcursor => ?_
    unfold restoredFrom SimpleCPUScheduler.setQuantumSize
    dsimp only
    split
    · exact hcursor
    · exact hcursor
  pendingVectors := h.pendingVectors.trans (pendingVectors_restoreSnapshot h.pendingVectors _).symm
  sameRun := by
    refine ⟨.inl rfl, ?_⟩
    show (s.state == .PAUSED && s.lastBreakReason == "instruction breakpoint") =
      (s.state == .PAUSED && t.lastBreakReason == "instruction breakpoint")
    by_cases hpaused : s.state = .PAUSED
    · rw [Bool.eq_iff_iff]
      simp [hpaused, h.lastBreakReason hpaused]
    · rw [beq_false_of_ne hpaused]
      rfl
  activeCPUIndex := rfl
  debuggerAttached := h.debuggerAttached
  instructionBreakpoints := h.instructionBreakpoints
  cyclesExecuted := rfl

/-! ## Futures -/

/-- What is seen of a machine: its processors, memory and devices, and whether it goes on. -/
structure Observation where
  cpus : List (CPUState × CPUExecutionState × Bool)
  world : World
  state : VMState

def observe (vm : VirtualMachine I) : Observation where
  cpus := vm.cpus.map fun ctx => (ctx.cpu.getState, ctx.state, ctx.cpu.halted)
  world := vm.world
  state := vm.state

theorem Matches.observe_eq {stale lost : Prop} {s t : VirtualMachine I} (h : Matches stale lost False s t) :
    s.observe = t.observe := by
  have hcpus : s.observe.cpus = t.observe.cpus := by
    refine map_eq_of_forall₂ ?_ h.cpus
    rintro a b ⟨cpu, hcpu, rfl⟩
    rw [hcpu.getState, hcpu.halted]
  have hstate : s.state = t.state := h.sameRun.state.resolve_right fun hpaused => hpaused.1
  exact (congrArg₂ (fun cpus world => Observation.mk cpus world s.state) hcpus h.world).trans
    (congrArg (Observation.mk _ _) hstate)

/-- **A snapshot reproduces the future**, where it loses nothing that a step reads. -/
theorem restoreVMSnapshot_reproduces {s t : VirtualMachine I} (hconf : SameConfiguration s t) (h : Reproducible s t) :
    ∃ t', t.restoreVMSnapshot s.captureVMSnapshot = some (true, t') ∧
      ∀ (engine : Engine I), engine.FetchesAnew → ∀ calls : List StepCall,
        EveryStep (call engine) (fun vm _ => vm.ReadsBundles engine) s calls →
          (Runs.run (call engine) s calls).observe = (Runs.run (call engine) t' calls).observe := by
  refine ⟨_, restoreVMSnapshot_captureVMSnapshot hconf, ?_⟩
  intro engine hanew calls hreads
  have hslack : EveryStep (call engine) (fun vm _ => True → vm.ReadsBundles engine) s calls :=
    everyStep_of_invariant (fun _ => True) (fun _ _ _ _ => trivial) (fun _ _ _ hread _ => hread) trivial hreads
  exact ((restoredFrom_matches hconf h).calls (fun _ => hanew) hslack).observe_eq

/-! ## In a memory of nops -/

/-- At the end of a bundle the snapshot has all it needs, in a machine without a plugin. -/
theorem restoreVMSnapshot_reproduces_nops :
    let s := Runs.run (call nopEngine) (nopMachine 1 false) [.step, .step, .step]
    ∃ t', (nopMachine 1 false).restoreVMSnapshot s.captureVMSnapshot = some (true, t') ∧
      (Runs.run (call nopEngine) s [.step, .step]).observe = (Runs.run (call nopEngine) t' [.step, .step]).observe := by
  intro s
  have hconf : SameConfiguration s (nopMachine 1 false) :=
    ⟨by decide +kernel, by decide +kernel, by decide +kernel⟩
  have hquiet : ∀ vm : VirtualMachine Unit, vm.cpus.all (fun ctx => ctx.cpu.isaPlugin.isNone && !ctx.cpu.halted &&
      !ctx.cpu.bundleValid && ctx.cpu.pendingCallInputs.isEmpty) = true →
      ∀ ctx ∈ vm.cpus, ctx.cpu.isaPlugin = none ∧ ctx.cpu.halted = false ∧ ctx.cpu.bundleValid = false ∧
        ctx.cpu.pendingCallInputs = [] := by
    intro vm hall ctx hctx
    simpa [and_assoc] using List.all_eq_true.mp hall ctx hctx
  have hs := hquiet s (by decide +kernel)
  have ht := hquiet (nopMachine 1 false) (by decide +kernel)
  have hrep : Reproducible s (nopMachine 1 false) :=
    { cpus := by
        refine List.forall₂_iff_get.mpr ⟨by decide +kernel, ?_⟩
        intro i hi hi'
        obtain ⟨hplugin, hhalted, hvalid, hinputs⟩ := hs _ (List.get_mem s.cpus ⟨i, hi⟩)
        obtain ⟨hplugin', -⟩ := ht _ (List.get_mem (nopMachine 1 false).cpus ⟨i, hi'⟩)
        refine ⟨?_, hhalted, hvalid, fun _ => hinputs⟩
        rw [hplugin, hplugin']
        exact .none
      watchpoints := by decide +kernel
      framebuffer := rfl
      console := ⟨.inr (by decide +kernel), fun _ _ => by decide +kernel⟩
      lastCPUIndex := .inl (by decide +kernel)
      pendingVectors := by decide +kernel
      lastBreakReason := fun hpaused => absurd hpaused (by decide +kernel)
      debuggerAttached := by decide +kernel
      instructionBreakpoints := fun hattached => absurd hattached (by decide +kernel) }
  obtain ⟨t', ht, hfuture⟩ := restoreVMSnapshot_reproduces hconf hrep
  refine ⟨t', ht, hfuture nopEngine fetchesAnew_nopEngine _ ?_⟩
  exact everyStep_of_invariant (fun _ => True) (fun _ _ _ _ => trivial) (fun _ _ _ _ _ _ _ _ => .inl rfl) trivial
    (everyStep_of_forall (P := fun _ => True) fun _ _ => trivial)

/-- In the middle of a bundle the slot is lost: two steps on, the machine is in the next bundle and its copy is not. -/
theorem restoreVMSnapshot_loses_slot :
    let s := (nopMachine 1 true).call nopEngine .step
    let t := restoredFrom s (nopMachine 1 true)
    (nopMachine 1 true).restoreVMSnapshot s.captureVMSnapshot = some (true, t) ∧
      (Runs.run (call nopEngine) s [.step, .step]).cpus.map (fun ctx => ctx.cpu.getIP) = [16] ∧
      (Runs.run (call nopEngine) t [.step, .step]).cpus.map (fun ctx => ctx.cpu.getIP) = [0] := by
  intro s t
  have hconf : SameConfiguration s (nopMachine 1 true) :=
    ⟨by decide +kernel, by decide +kernel, by decide +kernel⟩
  exact ⟨restoreVMSnapshot_captureVMSnapshot hconf, by decide +kernel, by decide +kernel⟩

end VirtualMachine

end GuideXOS.Machine
