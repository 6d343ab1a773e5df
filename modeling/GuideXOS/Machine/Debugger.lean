import GuideXOS.Machine.VirtualMachine

/-!
# `Debugger` — attaching, breakpoints, and the frame of a step

The debugger's operations on a machine, and what a step leaves alone of what they set up (`SameDebugger`): it only ever
adds to the snapshot history, and only where it asks for a snapshot.
-/

namespace GuideXOS.Machine
open Lib GuideXOS.Core GuideXOS.Isa GuideXOS.Vm

/-- The memory of a machine never changes its size. -/
structure Engine.KeepsMemorySize {I : Type} (engine : Engine I) : Prop where
  pluginStep : ∀ plugin w, (engine.pluginStep plugin w).2.2.1.memory.data.length = w.memory.data.length
  executeInstruction : ∀ instr cpu inputs w,
    (engine.executeInstruction instr cpu inputs w).2.2.2.1.memory.data.length = w.memory.data.length

theorem Engine.KeepsMemorySize.step {I : Type} {engine : Engine I} (h : engine.KeepsMemorySize) (c : CPU I)
    (w : World) :
    (c.step engine w).2.2.1.memory.data.length = w.memory.data.length := by
  unfold CPU.step
  cases c.isaPlugin with
  | some plugin =>
      have hplugin := h.pluginStep plugin w
      show (c.stepPlugin engine plugin w).2.2.1.memory.data.length = _
      unfold CPU.stepPlugin
      by_cases hhalted : c.halted = true
      · rw [if_pos hhalted]
      · rw [if_neg hhalted]
        generalize engine.pluginStep plugin w = r at hplugin ⊢
        obtain ⟨ending, plugin, w', effects⟩ := r
        cases ending <;> exact hplugin
  | none =>
      show (c.stepLegacy engine w).2.2.1.memory.data.length = _
      unfold CPU.stepLegacy
      dsimp only
      split
      · rfl
      next instr _ =>
        have hinstr := h.executeInstruction instr (c.servicePendingInterrupt.fetchIfNeeded engine w).state
          (c.servicePendingInterrupt.fetchIfNeeded engine w).pendingCallInputs w
        split
        · rfl
        · split
          · exact hinstr
          · split <;> exact hinstr

namespace VirtualMachine
variable {I : Type} {engine : Engine I} (vm : VirtualMachine I)

/-! ## Operations -/

/-- **`attach_debugger`.** -/
def attach_debugger : Bool × VirtualMachine I :=
  if vm.debuggerAttached then (false, vm) else (true, { vm with debuggerAttached := true })

/-- **`setBreakpoint`.** -/
def setBreakpoint (address : UInt64) : Bool × VirtualMachine I :=
  if !vm.debuggerAttached then (false, vm)
  else if (vm.instructionBreakpoints.find? address).isSome then (false, vm)
  else (true, { vm with instructionBreakpoints := vm.instructionBreakpoints.insert address {} })

/-- **`setConditionalBreakpoint`.** -/
def setConditionalBreakpoint (address : UInt64) (condition : DebugCondition) : Bool × VirtualMachine I :=
  match vm.setBreakpoint address with
  | (false, vm) => (false, vm)
  | (true, vm) => (true, { vm with instructionBreakpoints := vm.instructionBreakpoints.insert address { condition } })

/-- **`clearBreakpoint`.** -/
def clearBreakpoint (address : UInt64) : Bool × VirtualMachine I :=
  if !vm.debuggerAttached then (false, vm)
  else if (vm.instructionBreakpoints.find? address).isSome then
    (true, { vm with instructionBreakpoints := vm.instructionBreakpoints.erase address })
  else (false, vm)

/-! ## The frame of a step -/

/-- A property of machines that does not depend on what goes on around the step of a processor: interrupts, a halt, the
timer and its controller, and where the machine stands. -/
structure Quiet (P : VirtualMachine I → Prop) : Prop where
  interrupt : ∀ {vm} i vector, P vm → P (vm.modifyCPU i (CPUContext.interrupt vector))
  halted : ∀ {vm} i, P vm → P (vm.modifyCPU i fun ctx => { ctx with state := .HALTED })
  around : ∀ {vm} timer interruptController state lastBreakReason lastPanic bootStateMachine, P vm →
    P { vm with world := { vm.world with timer }, interruptController, state, lastBreakReason, lastPanic, bootStateMachine }

namespace Quiet
variable {P : VirtualMachine I → Prop} {vm : VirtualMachine I} (h : Quiet P)
include h

theorem applyEffect (effect : BusEffect) (hvm : P vm) : P (vm.applyEffect effect) := by
  cases effect with
  | sendInterrupt lid vector =>
      unfold VirtualMachine.applyEffect
      dsimp only
      split
      · exact h.interrupt _ _ hvm
      · exact hvm
  | memoryBreakpoint => exact h.around _ _ _ _ _ _ hvm

theorem applyEffects (effects : List BusEffect) (hvm : P vm) : P (effects.foldl VirtualMachine.applyEffect vm) :=
  List.foldlRecOn effects _ hvm fun _ hs effect _ => h.applyEffect effect hs

theorem raise (vector : UInt8) (hvm : P vm) : P (vm.raise vector) :=
  List.foldlRecOn _ _ (h.around _ _ _ _ _ _ hvm) fun _ hs _ _ => h.interrupt _ _ hs

theorem tickTimer (hvm : P vm) : P vm.tickTimer :=
  List.foldlRecOn _ _ (h.around _ _ _ _ _ _ hvm) fun _ hs _ _ => h.raise _ hs

theorem finishStep (hvm : P vm) : P vm.finishStep.2 := by
  unfold VirtualMachine.finishStep
  split
  · exact hvm
  · exact h.around _ _ _ _ _ _ hvm

/-- **A step of a processor** keeps it if putting the processor back does, and counting the step. -/
theorem execute {i : Nat} {ctx : CPUContext I} (hcount : ∀ {s}, P s → P (s.countStep i))
    (hset : P ({ vm with world := (ctx.cpu.step engine vm.world).2.2.1 }.modifyCPU i fun c =>
      { c with cpu := (ctx.cpu.step engine vm.world).2.1 })) : P (vm.execute engine i ctx).2 := by
  unfold VirtualMachine.execute
  generalize ctx.cpu.step engine vm.world = r at hset ⊢
  obtain ⟨stepped, cpu, world, effects⟩ := r
  have hbus := h.applyEffects effects hset
  dsimp only at hbus ⊢
  generalize effects.foldl VirtualMachine.applyEffect _ = bus at hbus ⊢
  cases stepped with
  | threw what => exact h.around _ _ _ _ _ _ hbus
  | returned success =>
      cases success with
      | false =>
          dsimp only
          split
          · exact h.around _ _ _ _ _ _ (h.halted i hbus)
          · exact h.around _ _ _ _ _ _ hbus
      | true => exact h.finishStep (h.tickTimer (hcount hbus))

end Quiet

/-- What executing leaves alone. -/
structure SameDebugger (s t : VirtualMachine I) : Prop where
  snapshotHistory : t.snapshotHistory = s.snapshotHistory
  maxSnapshotHistory : t.maxSnapshotHistory = s.maxSnapshotHistory
  debuggerAttached : t.debuggerAttached = s.debuggerAttached
  instructionBreakpoints : t.instructionBreakpoints = s.instructionBreakpoints
  cpus : t.cpus.length = s.cpus.length
  memorySize : t.world.memory.data.length = s.world.memory.data.length

namespace SameDebugger
variable {s t u : VirtualMachine I}

theorem refl (s : VirtualMachine I) : SameDebugger s s := ⟨rfl, rfl, rfl, rfl, rfl, rfl⟩

theorem trans (h : SameDebugger s t) (h' : SameDebugger t u) : SameDebugger s u :=
  ⟨h'.snapshotHistory.trans h.snapshotHistory, h'.maxSnapshotHistory.trans h.maxSnapshotHistory,
    h'.debuggerAttached.trans h.debuggerAttached, h'.instructionBreakpoints.trans h.instructionBreakpoints,
    h'.cpus.trans h.cpus, h'.memorySize.trans h.memorySize⟩

end SameDebugger

theorem sameDebugger_modifyCPU (i : Nat) (f : CPUContext I → CPUContext I) :
    SameDebugger vm (vm.modifyCPU i f) := ⟨rfl, rfl, rfl, rfl, List.length_modify .., rfl⟩

theorem quiet_sameDebugger : Quiet (SameDebugger vm) where
  interrupt _ _ h := h.trans (sameDebugger_modifyCPU ..)
  halted _ h := h.trans (sameDebugger_modifyCPU ..)
  around _ _ _ _ _ _ h := ⟨h.1, h.2, h.3, h.4, h.5, h.6⟩

/-- A step of a processor and what comes of it. -/
theorem sameDebugger_execute (hsize : engine.KeepsMemorySize) (vm : VirtualMachine I) (i : Nat) (ctx : CPUContext I) :
    SameDebugger vm (vm.execute engine i ctx).2 := by
  refine vm.quiet_sameDebugger.execute (fun h => h.trans ⟨rfl, rfl, rfl, rfl, List.length_modify .., rfl⟩) ?_
  exact ⟨rfl, rfl, rfl, rfl, List.length_modify .., hsize.step ctx.cpu vm.world⟩

end VirtualMachine

end GuideXOS.Machine
