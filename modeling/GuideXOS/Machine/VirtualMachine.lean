import GuideXOS.Machine.BootStates
import GuideXOS.Machine.Cpu
import GuideXOS.Vm.Scheduler

/-!
# `VirtualMachine` — the machine and its execution

`VirtualMachine` is the record of everything a machine keeps; `stepCPU` is one instruction of one processor with all that
surrounds it: the debugger's snapshot and breakpoints, the step of the processor, counters, scheduler and timer.

* A processor of a machine is never missing, and the subsystems are never null: the constructor makes them or fails.
* The boot trace is not part of the model. A panic is what it was caused by.
-/

namespace GuideXOS.Machine
open Lib GuideXOS.Core GuideXOS.Isa GuideXOS.Vm

inductive VMState
  | CREATED | CONFIGURING | INITIALIZING | STOPPED | STARTING | RUNNING | PAUSING | PAUSED | RESUMING | STOPPING
  | TERMINATING | TERMINATED | ERROR | CRASHED | SNAPSHOTTING | RESTORING
  deriving DecidableEq

/-- A processor with its place in the machine. -/
structure CPUContext (I : Type) where
  cpu : CPU I
  state : CPUExecutionState := .IDLE
  cyclesExecuted : UInt64 := 0
  instructionsExecuted : UInt64 := 0
  idleCycles : UInt64 := 0
  enabled : Bool := false
  lastActivationTime : UInt64 := 0

structure InstructionBreakpoint where
  condition : DebugCondition := {}
  enabled : Bool := true
  deriving DecidableEq

/-- A processor's part of a debugger snapshot. -/
structure CPURecord (I : Type) where
  runtime : CPURuntimeStateSnapshot I
  executionState : CPUExecutionState
  cyclesExecuted : UInt64
  instructionsExecuted : UInt64
  idleCycles : UInt64
  enabled : Bool
  lastActivationTime : UInt64

namespace CPUContext
variable {I : Type}

def record (ctx : CPUContext I) : CPURecord I where
  runtime := ctx.cpu.createSnapshot
  executionState := ctx.state
  cyclesExecuted := ctx.cyclesExecuted
  instructionsExecuted := ctx.instructionsExecuted
  idleCycles := ctx.idleCycles
  enabled := ctx.enabled
  lastActivationTime := ctx.lastActivationTime

def restore (ctx : CPUContext I) (record : CPURecord I) : CPUContext I where
  cpu := ctx.cpu.restoreSnapshot record.runtime
  state := record.executionState
  cyclesExecuted := record.cyclesExecuted
  instructionsExecuted := record.instructionsExecuted
  idleCycles := record.idleCycles
  enabled := record.enabled
  lastActivationTime := record.lastActivationTime

/-- A processor gets an interrupt, and stops waiting. -/
def interrupt (vector : UInt8) (ctx : CPUContext I) : CPUContext I :=
  { ctx with
    cpu := ctx.cpu.queueInterrupt vector
    state := if ctx.state = .WAITING then .RUNNING else ctx.state }

def IA64_CR_LID : Fin 128 := 64

/-- The processor with this local identifier, if it runs on a plugin. -/
def hasLid (lid : UInt16) (ctx : CPUContext I) : Bool :=
  match ctx.cpu.isaPlugin with
  | some plugin => (plugin.cpu.getCR IA64_CR_LID).toUInt16 == lid
  | none => false

end CPUContext

structure DebuggerSnapshot (I : Type) where
  memory : MemorySnapshot
  cpus : List (CPURecord I)
  vmState : VMState
  activeCPUIndex : Int
  cyclesExecuted : UInt64

structure VirtualMachine (I : Type) where
  world : World
  cpus : List (CPUContext I)
  scheduler : SimpleCPUScheduler := {}
  interruptController : BasicInterruptController := {}
  state : VMState := .CREATED
  bootStateMachine : VMBootStateMachine := {}
  lastPanic : Option String := none
  activeCPUIndex : Int := -1
  debuggerAttached : Bool := false
  instructionBreakpoints : OrdMap UInt64 InstructionBreakpoint := .empty
  memoryBreakpoints : OrdMap UInt64 MemoryBreakpoint := .empty
  snapshotHistory : List (DebuggerSnapshot I) := []
  nextMemoryBreakpointId : UInt64 := 1
  /-- The counter of the MMU, which no access reads. -/
  nextWatchpointId : UInt64 := 0
  maxSnapshotHistory : Nat := 256
  cyclesExecuted : UInt64 := 0
  lastBreakReason : String := ""

namespace VirtualMachine
variable {I : Type} (vm : VirtualMachine I) (engine : Engine I)

/-- **`isValidCPUIndex`.** -/
def isValidCPUIndex (cpuIndex : Int) : Prop := 0 ≤ cpuIndex ∧ cpuIndex < vm.cpus.length

instance (vm : VirtualMachine I) (cpuIndex : Int) : Decidable (vm.isValidCPUIndex cpuIndex) :=
  inferInstanceAs (Decidable (_ ∧ _))

/-- The machine with one context changed. -/
def modifyCPU (i : Nat) (f : CPUContext I → CPUContext I) : VirtualMachine I :=
  { vm with cpus := vm.cpus.modify i f }

/-! ## Debugger snapshots -/

/-- **`createSnapshot`.** -/
def createSnapshot (vm : VirtualMachine I) : DebuggerSnapshot I where
  memory := vm.world.memory.createSnapshot
  cpus := vm.cpus.map CPUContext.record
  vmState := vm.state
  activeCPUIndex := vm.activeCPUIndex
  cyclesExecuted := vm.cyclesExecuted

/-- **`restoreSnapshot`**; `none` where the memory throws. -/
def restoreSnapshot (vm : VirtualMachine I) (snapshot : DebuggerSnapshot I) : Option (Bool × VirtualMachine I) :=
  if snapshot.cpus.length ≠ vm.cpus.length then some (false, vm)
  else do
    let memory ← vm.world.memory.restoreSnapshot snapshot.memory
    some (true, { vm with
      world := { vm.world with memory }
      cpus := vm.cpus.zipWith CPUContext.restore snapshot.cpus
      state := .PAUSED
      activeCPUIndex := snapshot.activeCPUIndex
      cyclesExecuted := snapshot.cyclesExecuted
      lastBreakReason := "rewind" })

/-- **`rewindToLastSnapshot`.** -/
def rewindToLastSnapshot : Option (Bool × VirtualMachine I) :=
  match vm.snapshotHistory.getLast? with
  | none => some (false, vm)
  | some snapshot => { vm with snapshotHistory := vm.snapshotHistory.dropLast }.restoreSnapshot snapshot

/-- **`captureSnapshotIfBoundary`**, with `trimSnapshotHistory`. No boundary is asked for, only another cycle count than
    that of the last snapshot. -/
def captureSnapshotIfBoundary : VirtualMachine I :=
  if ¬ vm.debuggerAttached ∨ vm.snapshotHistory.getLast?.map (·.cyclesExecuted) = some vm.cyclesExecuted then vm
  else
    let history := vm.snapshotHistory ++ [vm.createSnapshot]
    { vm with snapshotHistory := history.drop (history.length - vm.maxSnapshotHistory) }

/-! ## Breakpoints -/

/-- The watchpoints of the debugger are unregistered under the numbers of its breakpoints. -/
def clearMemoryWatchpoints : GuestMemory :=
  vm.memoryBreakpoints.entries.foldl (fun memory entry => memory.unregisterWatchpoint entry.1) vm.world.memory

/-- The left-hand side of a condition; a register that does not exist is an exception. -/
def conditionValue (condition : DebugCondition) (cpu : CPUState) : Except String UInt64 :=
  match condition.target with
  | .GENERAL_REGISTER =>
      if h : condition.index < 128 then .ok (cpu.getGR ⟨condition.index, h⟩)
      else .error "General register index out of range"
  | .PREDICATE_REGISTER =>
      if h : condition.index < 64 then .ok (if cpu.getPR ⟨condition.index, h⟩ then 1 else 0)
      else .error "Predicate register index out of range"
  | .INSTRUCTION_POINTER => .ok cpu.ip
  | .NONE => .ok 0

/-- **`evaluateCondition`.** -/
def evaluateCondition (condition : DebugCondition) (cpu : CPUState) : Except String Bool :=
  if condition.target = .NONE ∨ condition.op = .ANY then .ok true
  else (conditionValue condition cpu).map fun lhs =>
    match condition.op with
    | .ANY => true
    | .EQUAL => lhs == condition.value
    | .NOT_EQUAL => lhs != condition.value
    | .GREATER => lhs > condition.value
    | .GREATER_OR_EQUAL => lhs ≥ condition.value
    | .LESS => lhs < condition.value
    | .LESS_OR_EQUAL => lhs ≤ condition.value
    | .IS_TRUE => lhs != 0
    | .IS_FALSE => lhs == 0

/-- **`checkBreakpoint`**, with the breakpoint it found. -/
def checkBreakpoint (address : UInt64) : Option InstructionBreakpoint :=
  (vm.instructionBreakpoints.find? address).filter (·.enabled)

/-- The breakpoint that is stopped at is stepped over. -/
def bypassInstructionBreakpoint (cpu : CPU I) : Bool :=
  vm.state == .PAUSED && vm.lastBreakReason == "instruction breakpoint" && cpu.isAtBundleBoundary

/-- Whether a processor is to stop in front of its instruction. -/
def stopsBefore (cpu : CPU I) : Except String Bool :=
  if vm.debuggerAttached && !vm.bypassInstructionBreakpoint cpu && cpu.isAtBundleBoundary then
    match vm.checkBreakpoint cpu.getIP with
    | none => .ok false
    | some breakpoint => evaluateCondition breakpoint.condition cpu.getState
  else .ok false

/-! ## What happens around a step -/

/-- The `catch` of a step. -/
def failWith (what : String) : VirtualMachine I :=
  { vm with
    lastPanic := some what
    state := .ERROR
    bootStateMachine := (vm.bootStateMachine.transition .KERNEL_PANIC ("Exception: " ++ what)).2 }

/-- The active processor, or the first one. -/
def targetCPU : Nat := if vm.activeCPUIndex ≥ 0 then vm.activeCPUIndex.toNat else 0

/-- The delivery callback of the interrupt controller. -/
def deliver (vector : UInt8) : VirtualMachine I :=
  vm.modifyCPU vm.targetCPU (CPUContext.interrupt vector)

def applyEffect (effect : BusEffect) : VirtualMachine I :=
  match effect with
  | .sendInterrupt lid vector =>
      match vm.cpus.findIdx? (CPUContext.hasLid lid) with
      | some i => vm.modifyCPU i (CPUContext.interrupt vector)
      | none => vm
  | .memoryBreakpoint => { vm with state := .PAUSED, lastBreakReason := "memory breakpoint" }

/-- **`RaiseInterrupt`**, with its deliveries. -/
def raise (vector : UInt8) : VirtualMachine I :=
  (vm.interruptController.raiseInterrupt vector).2.foldl deliver
    { vm with interruptController := (vm.interruptController.raiseInterrupt vector).1 }

/-- **`Tick`** of the timer, and what the interrupt controller makes of it. -/
def tickTimer : VirtualMachine I :=
  (vm.world.timer.tick 1).2.foldl raise { vm with world := { vm.world with timer := (vm.world.timer.tick 1).1 } }

/-- Behind a successful step. -/
def countStep (i : Nat) : VirtualMachine I :=
  let vm := vm.modifyCPU i fun ctx =>
    { ctx with
      cyclesExecuted := ctx.cyclesExecuted + 1
      instructionsExecuted := ctx.instructionsExecuted + 1 }
  { vm with
    cyclesExecuted := vm.cyclesExecuted + 1
    scheduler := vm.scheduler.onCPUExecuted i 1 }

/-- The end of a step: a machine that was paused meanwhile, or before, does not go on. -/
def finishStep : Bool × VirtualMachine I :=
  if vm.state = .PAUSED then (false, vm) else (true, { vm with state := .RUNNING })

/-- From the step of the processor on. -/
def execute (vm : VirtualMachine I) (i : Nat) (ctx : CPUContext I) : Bool × VirtualMachine I :=
  let (stepped, cpu, world, effects) := ctx.cpu.step engine vm.world
  let vm := effects.foldl applyEffect ({ vm with world }.modifyCPU i fun ctx => { ctx with cpu })
  match stepped with
  | .threw what => (false, vm.failWith what)
  | .returned false =>
      if cpu.halted then (false, { vm.modifyCPU i (fun ctx => { ctx with state := .HALTED }) with state := .STOPPED })
      else (false, { vm with
        lastPanic := some "CPU execution failed"
        state := .ERROR
        bootStateMachine := (vm.bootStateMachine.transition .KERNEL_PANIC "CPU execution failed").2 })
  | .returned true => (vm.countStep i).tickTimer.finishStep

/-- What a machine that is neither running nor paused does when it is told to step. -/
def wake : VirtualMachine I :=
  if vm.state ≠ .RUNNING ∧ vm.state ≠ .PAUSED then { vm with state := .RUNNING } else vm

/-! ## Stepping and running -/

/-- The part of **`stepCPU`** behind its checks. -/
def stepContext (vm : VirtualMachine I) (i : Nat) (ctx : CPUContext I) : Bool × VirtualMachine I :=
  let vm := { vm.wake with activeCPUIndex := i }.captureSnapshotIfBoundary
  match vm.stopsBefore ctx.cpu with
  | .error what => (false, vm.failWith what)
  | .ok true => (false, { vm with state := .PAUSED, lastBreakReason := "instruction breakpoint" })
  | .ok false =>
      let vm := if vm.bypassInstructionBreakpoint ctx.cpu then { vm with lastBreakReason := "", state := .RUNNING } else vm
      vm.execute engine i ctx

/-- **`stepCPU`.** -/
def stepCPU (vm : VirtualMachine I) (cpuIndex : Int) : Bool × VirtualMachine I :=
  if vm.state = .CREATED ∨ vm.state = .ERROR ∨ ¬ vm.isValidCPUIndex cpuIndex then (false, vm)
  else
    match vm.cpus[cpuIndex.toNat]? with
    | none => (false, vm)
    | some ctx => vm.stepContext engine cpuIndex.toNat ctx

/-- What the scheduler sees of the processors. -/
def scheduled : CPUList := vm.cpus.map fun ctx => some ⟨ctx.enabled, ctx.state, true⟩

/-- **`step`.** The cursor of the scheduler is never negative enough for a selection to fail. -/
def step (vm : VirtualMachine I) : Bool × VirtualMachine I :=
  if vm.state = .CREATED ∨ vm.state = .ERROR then (false, vm)
  else
    let vm := vm.wake
    match vm.scheduler.selectNextCPU vm.scheduled with
    | none => (false, vm)
    | some cpuIndex =>
        if vm.isValidCPUIndex cpuIndex then vm.stepCPU engine cpuIndex else (false, { vm with state := .STOPPED })

/-- The loop of **`run`**, for at most `fuel` rounds. -/
def runLoop (engine : Engine I) (maxCycles : UInt64) :
    Nat → VirtualMachine I → UInt64 → Option (UInt64 × VirtualMachine I)
  | 0, _, _ => none
  | fuel + 1, vm, cycles =>
      if vm.state ≠ .RUNNING then some (cycles, vm)
      else if maxCycles > 0 ∧ cycles ≥ maxCycles then some (cycles, { vm with state := .STOPPED })
      else
        let (shouldContinue, vm') := vm.step engine
        let cycles := cycles + (vm'.cyclesExecuted - vm.cyclesExecuted)
        if shouldContinue then runLoop engine maxCycles fuel vm' cycles else some (cycles, vm')

/-- **`run`**, with the cycles it executed. -/
def run (fuel : Nat) (vm : VirtualMachine I) (maxCycles : UInt64) : Option (UInt64 × VirtualMachine I) :=
  if vm.state = .CREATED ∨ vm.state = .ERROR then some (0, vm)
  else runLoop engine maxCycles fuel { vm with state := .RUNNING } 0

end VirtualMachine

end GuideXOS.Machine
