import GuideXOS.Core.Mmu
import GuideXOS.Lib.Deltas
import Mathlib.Data.String.Basic

/-!
# `Snapshot` — full snapshots of a virtual machine and the deltas between them

A full snapshot is a record of everything the machine saves; a delta is what `computeDelta` found different
from a parent snapshot, field by field. `applyDelta` lays a delta over a base. A flag of the source and the
value that counts only where the flag is set are one `Option` here.
-/

namespace GuideXOS.Vm
open Lib Lib.Deltas GuideXOS.Core

/-! ## Full snapshots -/

@[ext] structure MemorySnapshot where
  data : List UInt8
  pageTable : OrdMap UInt64 PageEntry
  mmuEnabled : Bool

structure DeviceSnapshot where
  deviceType : String
  baseAddress : UInt64
  registers : OrdMap String UInt64
  internalState : List UInt8

structure ConsoleDeviceState where
  baseAddress : UInt64 := 0
  currentBuffer : String := ""
  outputLines : List String := []
  totalBytesWritten : UInt64 := 0
  completeLines : List String := []
  currentLine : String := ""
  maxLines : UInt64 := 10000

structure TimerDeviceState where
  baseAddress : UInt64 := 0
  intervalCycles : UInt64 := 0
  elapsedCycles : UInt64 := 0
  interruptVector : UInt8 := 0
  enabled : Bool := false
  periodic : Bool := false
  interruptPending : Bool := false

structure InterruptSource where
  id : UInt64
  name : String
  vector : UInt8
  enabled : Bool

structure InterruptControllerState where
  pendingInterrupts : List Bool := []
  maskedInterrupts : List Bool := []
  vectorBase : UInt64 := 0
  enabled : Bool := false
  sources : List InterruptSource := []
  nextSourceId : UInt64 := 1

inductive CPUExecutionState where
  | IDLE | RUNNING | HALTED | WAITING | ERROR
  deriving DecidableEq

@[ext] structure CPUSnapshotRecord where
  cpuId : UInt32
  architecturalState : CPUState
  executionState : CPUExecutionState
  cyclesExecuted : UInt64
  instructionsExecuted : UInt64
  idleCycles : UInt64
  enabled : Bool
  lastActivationTime : UInt64
  currentBundle : List UInt8
  currentSlot : UInt64
  bundleValid : Bool
  pendingInterrupts : List UInt8
  interruptVectorBase : UInt64

structure VMSnapshotMetadata where
  snapshotId : String := ""
  snapshotName : String := ""
  description : String := ""
  timestamp : UInt64 := 0
  parentSnapshotId : String := ""
  isDelta : Bool := false
  fullSnapshotSize : Nat := 0
  deltaSize : Nat := 0

@[ext] structure VMStateSnapshot where
  metadata : VMSnapshotMetadata := {}
  cpus : List CPUSnapshotRecord := []
  activeCPUIndex : Int := -1
  memoryState : MemorySnapshot := ⟨[], .empty, true⟩
  consoleState : ConsoleDeviceState := {}
  timerState : TimerDeviceState := {}
  interruptControllerState : InterruptControllerState := {}
  additionalDevices : List DeviceSnapshot := []
  vmStateValue : UInt32 := 0
  totalCyclesExecuted : UInt64 := 0
  quantumSize : UInt64 := 0

/-! ## Capturing -/

/-- What a snapshot reads of a processor and its context. -/
structure CPUContext where
  architecturalState : CPUState
  state : CPUExecutionState
  cyclesExecuted : UInt64
  instructionsExecuted : UInt64
  idleCycles : UInt64
  enabled : Bool
  lastActivationTime : UInt64
  currentSlot : UInt64
  bundleValid : Bool
  pendingInterrupts : List UInt8
  interruptVectorBase : UInt64

/-- What a snapshot reads of a machine. A context without a processor is `none`, and so is memory that is not the
    implementation with page tables. -/
structure VirtualMachine where
  cpus : List (Option CPUContext)
  activeCPUIndex : Int
  memory : Option MemorySnapshot
  consoleBaseAddress : UInt64
  timerBaseAddress : UInt64
  state : UInt32
  quantumSize : UInt64
  cpus_lt : cpus.length < 2 ^ 32

/-- A record of a context; the bundle is saved as sixteen zeros, not as it is. -/
def captureCPU (i : Nat) : Option CPUContext → CPUSnapshotRecord
  | none => ⟨UInt32.ofNat i, .reset, .IDLE, 0, 0, 0, false, 0, [], 0, false, [], 0⟩
  | some ctx =>
      { cpuId := UInt32.ofNat i
        architecturalState := ctx.architecturalState
        executionState := ctx.state
        cyclesExecuted := ctx.cyclesExecuted
        instructionsExecuted := ctx.instructionsExecuted
        idleCycles := ctx.idleCycles
        enabled := ctx.enabled
        lastActivationTime := ctx.lastActivationTime
        currentBundle := List.replicate 16 0
        currentSlot := ctx.currentSlot
        bundleValid := ctx.bundleValid
        pendingInterrupts := ctx.pendingInterrupts
        interruptVectorBase := ctx.interruptVectorBase }

/-- **`captureFullSnapshot`.** -/
def captureFullSnapshot (vm : VirtualMachine) : VMStateSnapshot :=
  let empty : VMStateSnapshot := {}
  { empty with
    cpus := vm.cpus.mapIdx captureCPU
    activeCPUIndex := vm.activeCPUIndex
    memoryState := vm.memory.getD empty.memoryState
    consoleState := { empty.consoleState with baseAddress := vm.consoleBaseAddress }
    timerState := { empty.timerState with baseAddress := vm.timerBaseAddress }
    vmStateValue := vm.state
    quantumSize := vm.quantumSize }

/-- Every record is the one of the processor it is the place of. -/
def Numbered (cpus : List CPUSnapshotRecord) : Prop :=
  ∀ (i : Nat) (c : CPUSnapshotRecord), cpus[i]? = some c → c.cpuId.toNat = i

theorem captureFullSnapshot_numbered (vm : VirtualMachine) : Numbered (captureFullSnapshot vm).cpus := by
  intro i c hc
  change (vm.cpus.mapIdx captureCPU)[i]? = some c at hc
  rw [List.getElem?_mapIdx] at hc
  obtain ⟨ctx, hctx, rfl⟩ := Option.map_eq_some_iff.mp hc
  have hi : i < vm.cpus.length := (List.getElem?_eq_some_iff.mp hctx).1
  have hfits := vm.cpus_lt
  have hid : (UInt32.ofNat i).toNat = i := by
    rw [UInt32.toNat_ofNat']
    exact Nat.mod_eq_of_lt (by omega)
  cases ctx <;> exact hid

/-! ## Deltas -/

structure MemoryDelta where
  changes : List (Change UInt8) := []
  totalChangedBytes : Nat := 0

structure CPUStateDelta where
  cpuId : UInt32
  changedGR : List (Fin 144 × UInt64)
  changedFR : List (Fin 128 × List UInt8)
  changedPR : List (Fin 64 × Bool)
  changedBR : List (Fin 8 × UInt64)
  changedAR : List (Fin 128 × UInt64)
  newIP : Option UInt64
  newCFM : Option UInt64
  newPSR : Option UInt64
  newExecutionState : Option CPUExecutionState
  /-- Executed cycles, executed instructions, idle cycles. -/
  newCounters : Option (UInt64 × UInt64 × UInt64)

structure VMStateSnapshotDelta where
  metadata : VMSnapshotMetadata := {}
  cpuDeltas : List CPUStateDelta := []
  newActiveCPUIndex : Option Int := none
  memoryDelta : MemoryDelta := {}
  newConsoleState : Option ConsoleDeviceState := none
  newTimerState : Option TimerDeviceState := none
  newVMStateValue : Option UInt32 := none
  newTotalCyclesExecuted : Option UInt64 := none
  newQuantumSize : Option UInt64 := none

/-! ## Computing a delta -/

/-- **`computeMemoryDelta`.** The stretches that differ as far as both memories reach, and what is new beyond. -/
def computeMemoryDelta (current parent : MemorySnapshot) : MemoryDelta :=
  let changes := scan current.data (current.data.zip parent.data) 0 none
  let changes := if parent.data.length < current.data.length then
      changes ++ [⟨parent.data.length, current.data.drop parent.data.length⟩]
    else changes
  ⟨changes, (changes.map (·.data.length)).sum⟩

def counters (cpu : CPUSnapshotRecord) : UInt64 × UInt64 × UInt64 :=
  (cpu.cyclesExecuted, cpu.instructionsExecuted, cpu.idleCycles)

/-- **`computeCPUStateDelta`.** The maps for floating-point and application registers stay empty. -/
def computeCPUStateDelta (current parent : CPUSnapshotRecord) : CPUStateDelta where
  cpuId := current.cpuId
  changedGR := changed (fun i => current.architecturalState.gr.get i) fun i => parent.architecturalState.gr.get i
  changedFR := []
  changedPR := changed current.architecturalState.getPR parent.architecturalState.getPR
  changedBR := changed current.architecturalState.getBR parent.architecturalState.getBR
  changedAR := []
  newIP := changedTo current.architecturalState.ip parent.architecturalState.ip
  newCFM := changedTo current.architecturalState.cfm parent.architecturalState.cfm
  newPSR := changedTo current.architecturalState.psr parent.architecturalState.psr
  newExecutionState := changedTo current.executionState parent.executionState
  newCounters := changedTo (counters current) (counters parent)

def CPUStateDelta.anyChange (d : CPUStateDelta) : Bool :=
  !d.changedGR.isEmpty || !d.changedFR.isEmpty || !d.changedPR.isEmpty || !d.changedBR.isEmpty ||
    !d.changedAR.isEmpty || d.newIP.isSome || d.newCFM.isSome || d.newPSR.isSome || d.newExecutionState.isSome ||
    d.newCounters.isSome

def sameConsole (current parent : ConsoleDeviceState) : Bool :=
  current.currentBuffer == parent.currentBuffer && current.totalBytesWritten == parent.totalBytesWritten

def sameTimer (current parent : TimerDeviceState) : Bool :=
  current.intervalCycles == parent.intervalCycles && current.elapsedCycles == parent.elapsedCycles &&
    current.enabled == parent.enabled && current.periodic == parent.periodic &&
    current.interruptPending == parent.interruptPending

def computeCPUDeltas (current parent : List CPUSnapshotRecord) : List CPUStateDelta :=
  (current.zip parent).filterMap fun (c, p) =>
    let d := computeCPUStateDelta c p
    if d.anyChange then some d else none

/-- **`computeDelta`.** -/
def computeDelta (current parent : VMStateSnapshot) : VMStateSnapshotDelta where
  memoryDelta := computeMemoryDelta current.memoryState parent.memoryState
  cpuDeltas := computeCPUDeltas current.cpus parent.cpus
  newActiveCPUIndex := changedTo current.activeCPUIndex parent.activeCPUIndex
  newConsoleState := if sameConsole current.consoleState parent.consoleState then none else some current.consoleState
  newTimerState := if sameTimer current.timerState parent.timerState then none else some current.timerState
  newVMStateValue := changedTo current.vmStateValue parent.vmStateValue
  newTotalCyclesExecuted := changedTo current.totalCyclesExecuted parent.totalCyclesExecuted
  newQuantumSize := changedTo current.quantumSize parent.quantumSize

/-! ## Applying a delta -/

/-- **`applyMemoryDelta`.** -/
def applyMemoryDelta (base : MemorySnapshot) (delta : MemoryDelta) : MemorySnapshot :=
  { base with data := delta.changes.foldl (overlay 0) base.data }

/-- **`applyCPUStateDelta`**, the register part. Predicates are written under the base's frame marker. -/
def applyRegisters (base : CPUState) (delta : CPUStateDelta) : CPUState :=
  let s := replay (fun (s : CPUState) i v => { s with gr := s.gr.set i v }) base delta.changedGR
  let s := replay CPUState.setPR s delta.changedPR
  let s := replay CPUState.setBR s delta.changedBR
  let s := delta.newIP.elim s s.setIP
  let s := delta.newCFM.elim s s.setCFM
  delta.newPSR.elim s s.setPSR

/-- **`applyCPUStateDelta`.** -/
def applyCPUStateDelta (base : CPUSnapshotRecord) (delta : CPUStateDelta) : CPUSnapshotRecord :=
  { base with
    architecturalState := applyRegisters base.architecturalState delta
    executionState := delta.newExecutionState.getD base.executionState
    cyclesExecuted := (delta.newCounters.getD (counters base)).1
    instructionsExecuted := (delta.newCounters.getD (counters base)).2.1
    idleCycles := (delta.newCounters.getD (counters base)).2.2 }

/-- Each delta changes the record its `cpuId` is the index of, if there is one. -/
def applyCPUDeltas (cpus : List CPUSnapshotRecord) (deltas : List CPUStateDelta) : List CPUSnapshotRecord :=
  deltas.foldl (fun cpus d => cpus.modify d.cpuId.toNat (applyCPUStateDelta · d)) cpus

/-- **`applyDelta`.** -/
def applyDelta (base : VMStateSnapshot) (delta : VMStateSnapshotDelta) : VMStateSnapshot :=
  { base with
    memoryState := applyMemoryDelta base.memoryState delta.memoryDelta
    cpus := applyCPUDeltas base.cpus delta.cpuDeltas
    activeCPUIndex := delta.newActiveCPUIndex.getD base.activeCPUIndex
    consoleState := delta.newConsoleState.getD base.consoleState
    timerState := delta.newTimerState.getD base.timerState
    vmStateValue := delta.newVMStateValue.getD base.vmStateValue
    totalCyclesExecuted := delta.newTotalCyclesExecuted.getD base.totalCyclesExecuted
    quantumSize := delta.newQuantumSize.getD base.quantumSize
    metadata := { delta.metadata with isDelta := false } }

end GuideXOS.Vm
