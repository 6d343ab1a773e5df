import GuideXOS.Machine.Lockstep
import GuideXOS.Machine.Nops

/-!
# `ResetInit` — a machine that was reset, beside a new one

`reset` against construction and `init`, over the same memory. A machine that was reset stands where a new one stands
(`ResetAs`), but for its boot state machine: `reset` ends in `POWER_ON`, `init` in `FIRMWARE_INIT`. A load and an entry
then move the boot state of the new machine only. The two machines run alike where `reset` had nothing to forget.
-/

namespace GuideXOS.Machine
open Lib GuideXOS.Core GuideXOS.Isa GuideXOS.Vm

variable {I : Type} {engine : Engine I} {stale lost rewound : Prop}

/-! ## Processors -/

@[simp] theorem CPU.isSome_isaPlugin_reset (c : CPU I) : c.reset.isaPlugin.isSome = c.isaPlugin.isSome :=
  Option.isSome_map ..

/-- After a reset only the shadow registers are left of what a processor was. -/
theorem CPU.reset_matches {c d : CPU I} (h : c.isaPlugin.isSome = d.isaPlugin.isSome) :
    c.reset.Matches stale lost d.reset where
  isaPlugin := by
    show Option.Rel _ (c.isaPlugin.map _) (d.isaPlugin.map _)
    cases hc : c.isaPlugin with
    | none =>
        rw [hc] at h
        have hd : d.isaPlugin = none := Option.not_isSome_iff_eq_none.mp (by rw [← h]; exact Bool.false_ne_true)
        rw [hd]
        exact .none
    | some p =>
        rw [hc] at h
        obtain ⟨q, hd⟩ := Option.isSome_iff_exists.mp h.symm
        rw [hd]
        exact .some (.inl rfl)
  state := by
    intro hnone
    have hc : c.isaPlugin.isSome = false := by rw [← isSome_isaPlugin_reset, hnone]; rfl
    show (if c.isaPlugin.isSome then c.state else _) = (if d.isaPlugin.isSome then d.state else _)
    rw [← h, hc]
    rfl
  halted := rfl
  currentBundle := .inl rfl
  currentSlot := rfl
  bundleValid := rfl
  pendingInterrupts := rfl
  interruptVectorBase := rfl
  pendingCallInputs := fun _ => rfl

theorem CPU.isSome_isaPlugin_construct (usePlugin : Bool) :
    (CPU.construct usePlugin : CPU I).isaPlugin.isSome = usePlugin := by
  unfold CPU.construct
  rw [isSome_isaPlugin_reset]
  cases usePlugin <;> rfl

namespace VirtualMachine

/-! ## The two starting lines -/

/-- What an initialised machine keeps of its construction. -/
structure ConfiguredAs (vm : VirtualMachine I) (config : VMConfiguration) : Prop where
  numCPUs_ne : config.numCPUs ≠ 0
  numCPUs : vm.cpus.length = config.numCPUs
  usePlugin : ∀ ctx ∈ vm.cpus, ctx.cpu.isaPlugin.isSome = config.usePlugin
  scheduled : vm.scheduler.numCPUs = config.numCPUs ∧ vm.scheduler.cpuBundleCounters.length = config.numCPUs
  console : vm.world.console.baseAddress = ioBase vm.world.memory.data.length
  maxLines : vm.world.console.outputBuffer.maxLines = 10000
  timer : vm.world.timer.baseAddress = ioBase vm.world.memory.data.length + 0x100
  conditions : vm.bootStateMachine.conditions = config.conditions
  /-- It has been powered on. -/
  powersOn : config.conditions .POWERED_OFF .POWER_ON = true

/-- A machine `r` that was reset, and a machine `f` after construction and `init`. -/
structure ResetAs (r f : VirtualMachine I) : Prop where
  cpus : List.Forall₂ (fun a b : CPUContext I => a.cpu.Matches False False b.cpu ∧ a.state = b.state ∧
    a.cyclesExecuted = b.cyclesExecuted ∧ a.instructionsExecuted = b.instructionsExecuted ∧
    a.idleCycles = b.idleCycles) r.cpus f.cpus
  firstEnabled : r.cpus.head?.map (·.enabled) = f.cpus.head?.map (·.enabled)
  activeCPUIndex : r.activeCPUIndex = f.activeCPUIndex
  scheduler : { r.scheduler with quantumSize := f.scheduler.quantumSize } = f.scheduler
  timer : r.world.timer = f.world.timer
  console : r.world.console = f.world.console
  pendingVectors : r.interruptController.pendingVectors = f.interruptController.pendingVectors
  memoryBreakpoints : r.memoryBreakpoints = f.memoryBreakpoints
  nextMemoryBreakpointId : r.nextMemoryBreakpointId = f.nextMemoryBreakpointId
  cyclesExecuted : r.cyclesExecuted = f.cyclesExecuted
  snapshotHistory : r.snapshotHistory = f.snapshotHistory
  lastBreakReason : r.lastBreakReason = f.lastBreakReason
  state : r.state = f.state

/-- What `reset` does not touch is as it was constructed. -/
structure Untouched (vm : VirtualMachine I) : Prop where
  framebuffer : vm.world.framebuffer = .construct 0xB8000000 640 480
  enabled : ∀ ctx ∈ vm.cpus.tail, ctx.enabled = false
  lastActivationTime : ∀ ctx ∈ vm.cpus, ctx.lastActivationTime = 0

/-- The processor in a new machine. -/
def freshContext (usePlugin : Bool) : CPUContext I := { cpu := (CPU.construct usePlugin).reset }

variable {vm : VirtualMachine I}

theorem startFirstCPU_eq (h : vm.cpus ≠ []) :
    vm.startFirstCPU =
      { vm.modifyCPU 0 (fun ctx => { ctx with state := .RUNNING, enabled := true }) with activeCPUIndex := 0 } :=
  if_neg h

theorem powerOn_of_off {m : VMBootStateMachine} (hoff : m.currentState = .POWERED_OFF)
    (hon : m.conditions .POWERED_OFF .POWER_ON = true) : m.powerOn.1 = true ∧ m.powerOn.2.currentState = .POWER_ON := by
  have hcan : m.canTransition .POWER_ON = true := by
    simp [VMBootStateMachine.canTransition, hoff, hon, VMBootState.validTransitions]
  unfold VMBootStateMachine.powerOn VMBootStateMachine.transition
  rw [if_neg (by simp [hoff]), if_pos hcan]
  exact ⟨rfl, rfl⟩

variable {config : VMConfiguration} (memory : GuestMemory)

/-- Where a reset ends, for a machine that powers on. -/
theorem reset_eq (h : vm.ConfiguredAs config) :
    vm.reset = (true, { vm with
      world := { vm.world with
        timer := vm.world.timer.reset
        console := vm.world.console.reset
        memory := vm.clearMemoryWatchpoints }
      cpus := (vm.cpus.map resetContext).modify 0 fun ctx => { ctx with state := .RUNNING, enabled := true }
      scheduler := vm.scheduler.reset
      interruptController := vm.interruptController.reset
      state := .STOPPED
      bootStateMachine := vm.bootStateMachine.reset.powerOn.2
      activeCPUIndex := 0
      memoryBreakpoints := .empty
      snapshotHistory := []
      nextMemoryBreakpointId := 1
      cyclesExecuted := 0
      lastBreakReason := "" }) := by
  have hne : vm.cpus.map resetContext ≠ [] := by
    intro hnil
    apply h.numCPUs_ne
    rw [← h.numCPUs, List.map_eq_nil_iff.mp hnil, List.length_nil]
  obtain ⟨hon, -⟩ := powerOn_of_off (m := vm.bootStateMachine.reset) rfl (h.conditions ▸ h.powersOn)
  unfold reset
  rw [startFirstCPU_eq hne]
  simp only [hon, if_true]
  rfl

/-- Where `init` ends, for a new machine that powers on. -/
theorem init_constructed (hne : config.numCPUs ≠ 0) (hon : config.conditions .POWERED_OFF .POWER_ON = true) :
    (constructed config memory : VirtualMachine I).init = (true,
      { world := constructWorld memory
        cpus := (List.replicate config.numCPUs (freshContext config.usePlugin)).modify 0 fun ctx =>
          { ctx with state := .RUNNING, enabled := true }
        scheduler := { numCPUs := config.numCPUs, cpuBundleCounters := List.replicate config.numCPUs 0 }
        state := .STOPPED
        bootStateMachine := (VMBootStateMachine.transition
          (VMBootStateMachine.powerOn { conditions := config.conditions }).2
          .FIRMWARE_INIT "Starting firmware initialization").2
        activeCPUIndex := 0 }) := by
  have hreset : (constructed config memory : VirtualMachine I).initializeSubsystems.cpus =
      List.replicate config.numCPUs (freshContext config.usePlugin) := List.map_replicate
  have hscheduled : (constructed config memory : VirtualMachine I).initializeSubsystems.scheduled.length = config.numCPUs := by
    simp [VirtualMachine.scheduled, hreset]
  obtain ⟨hpower, -⟩ := powerOn_of_off (m := { conditions := config.conditions }) rfl hon
  have hstart : { (constructed config memory : VirtualMachine I).initializeSubsystems with
      scheduler := (constructed config memory : VirtualMachine I).initializeSubsystems.scheduler.initializeCPUs
        (constructed config memory : VirtualMachine I).initializeSubsystems.scheduled }.cpus ≠ [] := by
    rw [hreset]
    simpa using hne
  have hon' : (constructed config memory : VirtualMachine I).bootStateMachine.powerOn.1 = true := hpower
  unfold init
  simp only [hon', Bool.not_true, Bool.false_eq_true, if_false]
  rw [startFirstCPU_eq hstart]
  unfold modifyCPU
  simp only [hreset, SimpleCPUScheduler.initializeCPUs, hscheduled]
  have htake : ((constructed config memory : VirtualMachine I).initializeSubsystems.scheduler.cpuBundleCounters ++
      List.replicate config.numCPUs 0).take config.numCPUs = List.replicate config.numCPUs 0 := by
    show (([] : List UInt64) ++ List.replicate config.numCPUs 0).take config.numCPUs = _
    simp
  rw [htake]
  rfl

/-! ## Component by component -/

theorem data_clearMemoryWatchpoints (vm : VirtualMachine I) :
    vm.clearMemoryWatchpoints.data = vm.world.memory.data := by
  unfold clearMemoryWatchpoints
  generalize vm.world.memory = memory
  induction vm.memoryBreakpoints.entries generalizing memory with
  | nil => rfl
  | cons entry entries ih => exact ih _

section Configured
variable {vm : VirtualMachine I} {config : VMConfiguration} (h : vm.ConfiguredAs config)
include h

/-- The processors of a machine that was reset, beside those of a new one. -/
theorem cpus_resetAs :
    List.Forall₂ (fun a b : CPUContext I => a.cpu.Matches False False b.cpu ∧ a.state = b.state ∧
        a.cyclesExecuted = b.cyclesExecuted ∧ a.instructionsExecuted = b.instructionsExecuted ∧
        a.idleCycles = b.idleCycles)
      (vm.cpus.map resetContext) (List.replicate config.numCPUs (freshContext config.usePlugin)) := by
  have huse := h.usePlugin
  rw [← h.numCPUs]
  generalize vm.cpus = cpus at huse ⊢
  induction cpus with
  | nil => exact .nil
  | cons ctx cpus ih =>
      obtain ⟨hctx, hrest⟩ := List.forall_mem_cons.mp huse
      refine .cons ⟨CPU.reset_matches ?_, rfl, rfl, rfl, rfl⟩ (ih hrest)
      rw [hctx, CPU.isSome_isaPlugin_construct]

omit h in
theorem firstEnabled_start {cpus : List (CPUContext I)} (hne : cpus.length ≠ 0) :
    (cpus.modify 0 fun ctx => { ctx with state := .RUNNING, enabled := true }).head?.map (·.enabled) = some true := by
  cases cpus with
  | nil => exact absurd rfl hne
  | cons ctx cpus => rfl

theorem reset_resetAs :
    ResetAs vm.reset.2 (constructed config vm.reset.2.world.memory : VirtualMachine I).init.2 := by
  rw [init_constructed _ h.numCPUs_ne h.powersOn, reset_eq h]
  have hmemory := data_clearMemoryWatchpoints vm
  exact
    { cpus := by
        refine forall₂_modify ?_ (cpus_resetAs h) 0
        rintro a b ⟨hcpu, -, hcycles, hinstructions, hidle⟩
        exact ⟨hcpu, rfl, hcycles, hinstructions, hidle⟩
      firstEnabled := by
        rw [firstEnabled_start, firstEnabled_start]
        · rw [List.length_replicate]
          exact h.numCPUs_ne
        · rw [List.length_map, h.numCPUs]
          exact h.numCPUs_ne
      activeCPUIndex := rfl
      scheduler := by
        unfold SimpleCPUScheduler.reset
        rw [h.scheduled.1, List.map_const', h.scheduled.2]
      timer := by
        unfold VirtualTimer.reset constructWorld
        rw [h.timer, hmemory]
      console := by
        unfold VirtualConsole.reset ConsoleOutputBuffer.clear constructWorld
        rw [h.console, h.maxLines, hmemory]
      pendingVectors := rfl
      memoryBreakpoints := rfl
      nextMemoryBreakpointId := rfl
      cyclesExecuted := rfl
      snapshotHistory := rfl
      lastBreakReason := rfl
      state := rfl }

theorem cpus_matches (hu : vm.Untouched) :
    List.Forall₂ (CPUContext.Matches stale lost)
      ((vm.cpus.map resetContext).modify 0 fun ctx => { ctx with state := .RUNNING, enabled := true })
      ((List.replicate config.numCPUs (freshContext config.usePlugin)).modify 0 fun ctx =>
        { ctx with state := .RUNNING, enabled := true }) := by
  have huse := h.usePlugin
  have henabled := hu.enabled
  have htime := hu.lastActivationTime
  have hmatches : ∀ ctx : CPUContext I, ctx.cpu.isaPlugin.isSome = config.usePlugin →
      ctx.cpu.reset.Matches stale lost (freshContext config.usePlugin : CPUContext I).cpu := fun ctx hctx =>
    CPU.reset_matches (hctx.trans (CPU.isSome_isaPlugin_construct _).symm)
  rw [← h.numCPUs]
  cases hcpus : vm.cpus with
  | nil => exact .nil
  | cons ctx rest =>
      rw [hcpus] at huse henabled htime
      refine .cons ⟨_, hmatches ctx (huse ctx List.mem_cons_self), ?_⟩ ?_
      · simp [resetContext, freshContext, htime ctx List.mem_cons_self]
      -- the processors behind the first one, which are as they were made
      · have hrest : ∀ c ∈ rest, CPUContext.Matches stale lost (resetContext c) (freshContext config.usePlugin) := by
          intro c hc
          refine ⟨_, hmatches c (huse c (List.mem_cons_of_mem _ hc)), ?_⟩
          simp [resetContext, freshContext, htime c (List.mem_cons_of_mem _ hc), henabled c hc]
        show List.Forall₂ _ (rest.map resetContext) (List.replicate rest.length _)
        rw [← List.map_const', List.forall₂_map_left_iff, List.forall₂_map_right_iff]
        exact List.forall₂_same.mpr hrest

/-- A machine that had nothing to forget goes on as a new one under the same debugger. -/
theorem reset_matches (hu : vm.Untouched) :
    Matches stale lost rewound vm.reset.2
      { (constructed config vm.reset.2.world.memory : VirtualMachine I).init.2 with
        debuggerAttached := vm.debuggerAttached
        instructionBreakpoints := vm.instructionBreakpoints } := by
  have hr := reset_resetAs h
  rw [init_constructed _ h.numCPUs_ne h.powersOn, reset_eq h] at hr ⊢
  exact
    { world := by
        have htimer : vm.world.timer.reset = (constructWorld vm.clearMemoryWatchpoints).timer := hr.timer
        have hconsole : vm.world.console.reset = (constructWorld vm.clearMemoryWatchpoints).console := hr.console
        show World.mk _ vm.world.console.reset vm.world.timer.reset vm.world.framebuffer = World.mk _ _ _ _
        rw [htimer, hconsole, hu.framebuffer]
        rfl
      cpus := cpus_matches h hu
      lastCPUIndex := .inr rfl
      pendingVectors := rfl
      sameRun := .of_state .STOPPED rfl rfl (by decide)
      activeCPUIndex := rfl
      debuggerAttached := rfl
      instructionBreakpoints := fun _ => rfl
      cyclesExecuted := rfl }

end Configured

/-! ## Loading and entering -/

/-- A machine that did not come from its firmware keeps its boot state. -/
theorem bootStateMachine_load_enter (hon : vm.bootStateMachine.currentState = .POWER_ON) (data : List UInt8)
    (loadAddress entry : UInt64) (hload : (vm.loadProgram engine data loadAddress).1 = true) :
    ((vm.loadProgram engine data loadAddress).2.setEntryPoint entry).bootStateMachine = vm.bootStateMachine := by
  have henter : ∀ vm : VirtualMachine I, vm.bootStateMachine.currentState = .POWER_ON →
      (vm.setEntryPoint entry).bootStateMachine = vm.bootStateMachine := by
    intro vm hon
    have hkernel : enterKernel vm.bootStateMachine = vm.bootStateMachine := if_neg (by rw [hon]; decide)
    unfold setEntryPoint
    split
    · exact hkernel
    · rfl
  have hkeeps : (vm.loadProgram engine data loadAddress).2.bootStateMachine = vm.bootStateMachine := by
    have hkernel : enterKernelLoad vm.bootStateMachine = vm.bootStateMachine := if_neg (by rw [hon]; decide)
    unfold loadProgram at hload ⊢
    split at hload
    · cases hload
    · rw [if_neg ‹_›]
      dsimp only at hload ⊢
      cases hwrite : engine.write vm.world loadAddress data with
      | none => rw [hwrite] at hload; cases hload
      | some world => exact hkernel
  rw [henter _ (by rw [hkeeps, hon]), hkeeps]

theorem setIP_matches {c d : CPU I} (h : c.Matches stale lost d) (address : UInt64) :
    (c.setIP address).Matches stale lost (d.setIP address) := by
  have hbundle := h.currentBundle.imp id fun ⟨hlost, _, hempty⟩ => (⟨hlost, rfl, hempty⟩ : lost ∧ false = false ∧ _)
  unfold CPU.setIP
  rcases h.plugins with ⟨hc, hd⟩ | ⟨p, q, hc, hd, hpq⟩
  · rw [hc, hd]
    exact { h with
      isaPlugin := .none
      state := fun _ => congrArg (CPUState.setIP · address) (h.state hc)
      pendingCallInputs := fun _ => h.pendingCallInputs hc
      currentBundle := hbundle
      bundleValid := rfl }
  · rw [hc, hd]
    have hset : SamePlugin stale (p.setCpu (p.cpu.setIP address)) (q.setCpu (q.cpu.setIP address)) := by
      rw [hpq.cpu]
      exact hpq.setCpu _
    exact { h.withPlugin hset with currentBundle := hbundle, bundleValid := rfl }

namespace Matches
variable {s t : VirtualMachine I}

theorem loadProgram (h : Matches stale lost rewound s t) (data : List UInt8) (loadAddress : UInt64) :
    (s.loadProgram engine data loadAddress).1 = (t.loadProgram engine data loadAddress).1 ∧
      Matches stale lost rewound (s.loadProgram engine data loadAddress).2 (t.loadProgram engine data loadAddress).2 := by
  unfold VirtualMachine.loadProgram
  by_cases hdata : data = []
  · rw [if_pos hdata, if_pos hdata]
    exact ⟨rfl, h⟩
  rw [if_neg hdata, if_neg hdata, ← h.world]
  cases engine.write s.world loadAddress data with
  | none => exact ⟨rfl, { h with world := rfl, sameRun := ⟨h.sameRun.state, h.sameRun.atInstructionBreakpoint⟩ }⟩
  | some world =>
      exact ⟨rfl, { h with world := rfl, sameRun := ⟨h.sameRun.state, h.sameRun.atInstructionBreakpoint⟩ }⟩

theorem setEntryPoint (h : Matches stale lost rewound s t) (address : UInt64) :
    Matches stale lost rewound (s.setEntryPoint address) (t.setEntryPoint address) := by
  have hset : ∀ a b : CPUContext I, a.Matches stale lost b →
      CPUContext.Matches stale lost { a with cpu := a.cpu.setIP address } { b with cpu := b.cpu.setIP address } := by
    rintro a b ⟨cpu, hcpu, rfl⟩
    exact ⟨_, setIP_matches hcpu address, rfl⟩
  unfold VirtualMachine.setEntryPoint
  rw [← h.targetCPU, ← h.cpus.length_eq]
  split
  · exact { h.modifyCPU _ hset with sameRun := ⟨h.sameRun.state, h.sameRun.atInstructionBreakpoint⟩ }
  · exact h

end Matches

/-! ## The two beside each other -/

/-- A new machine over the memory that a reset leaves, under the same debugger. -/
def renewed (config : VMConfiguration) (vm : VirtualMachine I) : VirtualMachine I :=
  { (constructed config vm.reset.2.world.memory).init.2 with
    debuggerAttached := vm.debuggerAttached
    instructionBreakpoints := vm.instructionBreakpoints }

/-- A machine that was just initialised is configured as it was constructed. -/
theorem configuredAs_init (hne : config.numCPUs ≠ 0) (hon : config.conditions .POWERED_OFF .POWER_ON = true) :
    (constructed config memory : VirtualMachine I).init.2.ConfiguredAs config := by
  rw [init_constructed memory hne hon]
  exact
    { numCPUs_ne := hne
      numCPUs := by rw [List.length_modify, List.length_replicate]
      usePlugin := by
        have hfresh : (freshContext config.usePlugin : CPUContext I).cpu.isaPlugin.isSome = config.usePlugin :=
          (CPU.isSome_isaPlugin_reset _).trans (CPU.isSome_isaPlugin_construct _)
        obtain ⟨n, hn⟩ := Nat.exists_eq_succ_of_ne_zero hne
        rw [hn, List.replicate_succ, List.modify_zero_cons]
        intro ctx hctx
        rcases List.mem_cons.mp hctx with rfl | hrest
        · exact hfresh
        · rw [List.eq_of_mem_replicate hrest]
          exact hfresh
      scheduled := ⟨rfl, List.length_replicate⟩
      console := rfl
      maxLines := rfl
      timer := rfl
      conditions := (VMBootStateMachine.conditions_transition ..).trans (VMBootStateMachine.conditions_powerOn _)
      powersOn := hon }

theorem untouched_init (hne : config.numCPUs ≠ 0) (hon : config.conditions .POWERED_OFF .POWER_ON = true) :
    (constructed config memory : VirtualMachine I).init.2.Untouched := by
  obtain ⟨n, hn⟩ := Nat.exists_eq_succ_of_ne_zero hne
  rw [init_constructed memory hne hon, hn, List.replicate_succ, List.modify_zero_cons]
  refine ⟨rfl, ?_, ?_⟩
  · intro ctx hctx
    rw [List.eq_of_mem_replicate hctx]
    rfl
  · intro ctx hctx
    rcases List.mem_cons.mp hctx with rfl | hrest
    · rfl
    · rw [List.eq_of_mem_replicate hrest]
      rfl

/-! ## One machine -/

end VirtualMachine

end GuideXOS.Machine
