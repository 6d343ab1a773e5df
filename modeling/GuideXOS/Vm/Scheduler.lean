import GuideXOS.Vm.Snapshot

/-!
# `Scheduler` — the round-robin scheduler

`SimpleCPUScheduler` keeps the index last reported to it and looks for the next runnable CPU behind it. The CPUs are
handed to it with every call, so the list may be another one each time.

* A C++ `int` is an `Int`; what overflows it, or reads the list outside its bounds, is undefined and modelled by `none`.
* What the CPUs and the preemption callbacks answer during a quantum is an input, one `Answer` for each instruction.
-/

namespace GuideXOS.Vm

open Lib.Runs

/-- What the scheduler reads of a CPU context. -/
structure ScheduledCPU where
  enabled : Bool
  state : CPUExecutionState
  hasCpu : Bool := true
  deriving DecidableEq

/-- The list of CPU contexts; an entry may be null. -/
abbrev CPUList := List (Option ScheduledCPU)

/-- `ctx && ctx->enabled && ctx->isRunning()`. -/
def isRunnable (ctx : Option ScheduledCPU) : Bool :=
  match ctx with
  | some ctx => ctx.enabled && ctx.state == .RUNNING
  | none => false

def INT_MAX : Int := 2 ^ 31 - 1

structure SimpleCPUScheduler where
  lastCPUIndex : Int := -1
  numCPUs : Int := 0
  quantumSize : UInt64 := 10
  cpuBundleCounters : List UInt64 := []
  deriving DecidableEq

/-- The answers to one instruction of a quantum: of the callbacks before and after it, and of the CPU. -/
structure Answer where
  beforeSchedule : Bool := true
  stepped : Bool := true
  afterInstruction : Bool := true
  running : Bool := true

namespace SimpleCPUScheduler

variable (s : SimpleCPUScheduler) (cpus : CPUList) (cpuIndex : Int)

/-- **`initialize`** of the CPUs. Counters that exist are kept. -/
def initializeCPUs : SimpleCPUScheduler :=
  { s with
    numCPUs := cpus.length
    lastCPUIndex := -1
    cpuBundleCounters := (s.cpuBundleCounters ++ List.replicate cpus.length 0).take cpus.length }

/-- The loop of `findNextRunnableCPU`, from the entry with index `i` on. -/
def findFrom : CPUList → Nat → Int
  | [], _ => -1
  | ctx :: rest, i => if isRunnable ctx then i else findFrom rest (i + 1)

/-- **`findNextRunnableCPU`.** A negative start reads in front of the list. -/
def findNextRunnableCPU (startIndex : Int) : Option Int :=
  if startIndex < 0 then none else some (findFrom (cpus.drop startIndex.toNat) startIndex.toNat)

/-- `(lastCPUIndex_ + 1) % size`, with the remainder of C++. -/
def startIndex : Option Int :=
  if s.lastCPUIndex < INT_MAX then some ((s.lastCPUIndex + 1).tmod cpus.length) else none

/-- **`selectNextCPU`.** -/
def selectNextCPU : Option Int :=
  match cpus with
  | [] => some (-1)
  | [ctx] => some (if isRunnable ctx then 0 else -1)
  | _ => do
      let start ← s.startIndex cpus
      let nextCPU ← findNextRunnableCPU cpus start
      if nextCPU ≠ -1 then some nextCPU
      else if start ≠ 0 then findNextRunnableCPU cpus 0
      else some nextCPU

/-- **`onCPUExecuted`.** The cycles are not used. -/
def onCPUExecuted (_cyclesTaken : UInt64) : SimpleCPUScheduler :=
  { s with lastCPUIndex := cpuIndex }

/-- **`reset`.** -/
def reset : SimpleCPUScheduler :=
  { s with lastCPUIndex := -1, cpuBundleCounters := s.cpuBundleCounters.map fun _ => 0 }

/-- **`setQuantumSize`.** -/
def setQuantumSize (bundleCount : UInt64) : SimpleCPUScheduler :=
  { s with quantumSize := bundleCount }

/-- **`restoreSnapshot`**, of a snapshot with these four members. -/
def restoreSnapshot (snapshot : SimpleCPUScheduler) : SimpleCPUScheduler :=
  if snapshot.numCPUs < 0 ∨ snapshot.lastCPUIndex < -1 ∨ snapshot.lastCPUIndex ≥ snapshot.numCPUs ∨
      snapshot.cpuBundleCounters.length ≠ snapshot.numCPUs ∨ snapshot.quantumSize = 0 then s
  else snapshot

/-! ## Stepping -/

/-- **`executeSingleInstruction`.** The index is reported only where there is a CPU to step. -/
def executeSingleInstruction (ctx : ScheduledCPU) (cpuIndex : Int) (answer : Answer) : SimpleCPUScheduler × Bool :=
  if ctx.hasCpu then (s.onCPUExecuted cpuIndex 1, answer.stepped) else (s, false)

/-- The context a stepping call may execute on. -/
def runnableContext : Option ScheduledCPU :=
  if cpuIndex < 0 ∨ cpuIndex ≥ cpus.length then none
  else ((cpus[cpuIndex.toNat]?).join).filter fun ctx => isRunnable (some ctx)

/-- **`stepCPU`.** -/
def stepCPU (answer : Answer) : SimpleCPUScheduler × Bool :=
  match runnableContext cpus cpuIndex with
  | none => (s, false)
  | some ctx => s.executeSingleInstruction ctx cpuIndex answer

/-- **`stepAllCPUs`**, from the entry with index `i` on. -/
def stepAllCPUs (answers : Nat → Answer) : SimpleCPUScheduler → CPUList → Nat → SimpleCPUScheduler
  | s, [], _ => s
  | s, ctx :: rest, i =>
      let s := match ctx.filter fun ctx => isRunnable (some ctx) with
        | some ctx => (s.executeSingleInstruction ctx i (answers i)).1
        | none => s
      stepAllCPUs answers s rest (i + 1)

/-- The instructions of one bundle that are left; `k` counts the instructions of the quantum. The flag says that the
    quantum goes on. -/
def stepInstructions (ctx : ScheduledCPU) (cpuIndex : Int) (answers : Nat → Answer) :
    SimpleCPUScheduler → Nat → Nat → SimpleCPUScheduler × Bool
  | s, _, 0 => (s, true)
  | s, k, left + 1 =>
      if ¬ (answers k).beforeSchedule then (s, false)
      else
        let (s, executed) := s.executeSingleInstruction ctx cpuIndex (answers k)
        if ¬ executed ∨ ¬ (answers k).afterInstruction ∨ ¬ (answers k).running then (s, false)
        else stepInstructions ctx cpuIndex answers s (k + 1) left

/-- `cpuBundleCounters_[cpuIndex]++`, where there is such a counter. -/
def countBundle : SimpleCPUScheduler :=
  { s with cpuBundleCounters := s.cpuBundleCounters.modify cpuIndex.toNat (· + 1) }

/-- The bundles of a quantum that are left. -/
def stepBundles (ctx : ScheduledCPU) (cpuIndex : Int) (answers : Nat → Answer) :
    SimpleCPUScheduler → Nat → Nat → SimpleCPUScheduler × Nat
  | s, executed, 0 => (s, executed)
  | s, executed, left + 1 =>
      let (s, goesOn) := stepInstructions ctx cpuIndex answers s (executed * 3) 3
      if goesOn then stepBundles ctx cpuIndex answers (s.countBundle cpuIndex) (executed + 1) left
      else (s, executed)

/-- **`stepQuantum`**, with the number of bundles it executed. -/
def stepQuantum (bundleCount : UInt64) (answers : Nat → Answer) : SimpleCPUScheduler × Nat :=
  match runnableContext cpus cpuIndex with
  | none => (s, 0)
  | some ctx => stepBundles ctx cpuIndex answers s 0 bundleCount.toNat

/-! ## Histories -/

/-- The calls that change a scheduler. -/
inductive Op
  | initializeCPUs (cpus : CPUList)
  | onCPUExecuted (cpuIndex : Int) (cyclesTaken : UInt64)
  | reset
  | setQuantumSize (bundleCount : UInt64)
  | restoreSnapshot (snapshot : SimpleCPUScheduler)
  | stepCPU (cpus : CPUList) (cpuIndex : Int) (answer : Answer)
  | stepAllCPUs (cpus : CPUList) (answers : Nat → Answer)
  | stepQuantum (cpus : CPUList) (cpuIndex : Int) (bundleCount : UInt64) (answers : Nat → Answer)

def step (op : Op) : SimpleCPUScheduler :=
  match op with
  | .initializeCPUs cpus => s.initializeCPUs cpus
  | .onCPUExecuted cpuIndex cyclesTaken => s.onCPUExecuted cpuIndex cyclesTaken
  | .reset => s.reset
  | .setQuantumSize bundleCount => s.setQuantumSize bundleCount
  | .restoreSnapshot snapshot => s.restoreSnapshot snapshot
  | .stepCPU cpus cpuIndex answer => (s.stepCPU cpus cpuIndex answer).1
  | .stepAllCPUs cpus answers => stepAllCPUs answers s cpus 0
  | .stepQuantum cpus cpuIndex bundleCount answers => (s.stepQuantum cpus cpuIndex bundleCount answers).1

/-- What the caller does with the CPU it was given: a quantum, or one instruction that it reports itself. -/
inductive Slice
  | quantum (bundleCount : UInt64) (answers : Nat → Answer)
  | instruction (cyclesTaken : UInt64)

/-- One turn: what is called before it, a selection from the CPUs as they are then, and the slice of the CPU selected. -/
structure Turn where
  between : List Op := []
  cpus : CPUList
  slice : Slice

/-- The state a selection of the turn is made in. -/
def beforeSelection (t : Turn) : SimpleCPUScheduler := run step s t.between

/-- The CPU a turn selects. -/
def selected (t : Turn) : Option Int := (s.beforeSelection t).selectNextCPU t.cpus

def runSlice (slice : Slice) : SimpleCPUScheduler :=
  match slice with
  | .quantum bundleCount answers => (s.stepQuantum cpus cpuIndex bundleCount answers).1
  | .instruction cyclesTaken => if cpuIndex < 0 then s else s.onCPUExecuted cpuIndex cyclesTaken

/-- The scheduler when the slice of a turn has expired. -/
def turn (t : Turn) : SimpleCPUScheduler :=
  match s.selected t with
  | none => s.beforeSelection t
  | some cpuIndex => (s.beforeSelection t).runSlice t.cpus cpuIndex t.slice

end SimpleCPUScheduler

end GuideXOS.Vm
