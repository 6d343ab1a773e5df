import GuideXOS.Isa.Step
import GuideXOS.Machine.Devices

/-!
# `Cpu` — one processor, on either engine

A `CPU` runs on its own decoder (the legacy path) or on a plugin. It keeps a bundle, a slot, an interrupt queue and a
halt flag of its own in both cases; with a plugin most of these are shadows that execution does not touch.

* What executes an instruction is a parameter, the `Engine`. It works on the memory and the memory-mapped devices, the
  `World`, and says what went over the bus besides: interrupt messages to other processors, and watchpoints that hit.
-/

namespace GuideXOS.Machine
open Lib GuideXOS.Core GuideXOS.Isa GuideXOS.Vm

/-- The memory and the devices an instruction can reach. -/
structure World where
  memory : GuestMemory
  console : VirtualConsole
  timer : VirtualTimer
  framebuffer : FramebufferDevice

/-- What an instruction does outside of its processor and the `World`. -/
inductive BusEffect
  /-- A write to the processor interrupt block, for the processor with this `LID`. -/
  | sendInterrupt (lid : UInt16) (vector : UInt8)
  /-- The hook of a memory breakpoint whose condition was true. -/
  | memoryBreakpoint

/-- How a step of a plugin ends. -/
inductive Ending
  | result (r : ISAExecutionResult)
  | threw (what : String)

/-- What executes instructions. -/
structure Engine (I : Type) where
  /-- `step` of the plugin. -/
  pluginStep : IA64ISAPlugin I → World → Ending × IA64ISAPlugin I × World × List BusEffect
  /-- The bundle at an address; `none` when it cannot be read. -/
  fetchBundle : World → UInt64 → Option (Bundle I)
  isUnknown : I → Bool
  /-- `executeInstruction`, which lets no exception out. The flag says that a branch was taken. -/
  executeInstruction : I → CPUState → List UInt64 → World → CPUState × List UInt64 × Bool × World × List BusEffect
  /-- `Write` of the memory; `none` is an exception. -/
  write : World → UInt64 → List UInt8 → Option World

structure CPU (I : Type) where
  state : CPUState := .reset
  isaPlugin : Option (IA64ISAPlugin I)
  halted : Bool := false
  currentBundle : Bundle I := {}
  currentSlot : UInt64 := 0
  bundleValid : Bool := false
  pendingInterrupts : List UInt8 := []
  interruptVectorBase : UInt64 := 0
  pendingCallInputs : List UInt64 := []

/-- A processor's own part of a debugger snapshot. -/
structure CPURuntimeStateSnapshot (I : Type) where
  architecturalState : CPUState := .reset
  currentBundle : Bundle I := {}
  currentSlot : UInt64 := 0
  bundleValid : Bool := false
  pendingInterrupts : List UInt8 := []
  interruptVectorBase : UInt64 := 0
  halted : Bool := false
  pendingCallInputs : List UInt64 := []

namespace CPU
variable {I : Type} (c : CPU I) (engine : Engine I)

/-- **`getState`.** -/
def getState : CPUState :=
  match c.isaPlugin with
  | some plugin => plugin.cpu
  | none => c.state

def getIP : UInt64 := c.getState.ip

/-- **`setIP`** also gives up the bundle, of the processor but not of the plugin. -/
def setIP (c : CPU I) (address : UInt64) : CPU I :=
  match c.isaPlugin with
  | some plugin => { c with isaPlugin := some (plugin.setCpu (plugin.cpu.setIP address)), bundleValid := false }
  | none => { c with state := c.state.setIP address, bundleValid := false }

/-- **`reset`.** With a plugin the shadow of the register file stays as it is. -/
def reset (c : CPU I) : CPU I :=
  { c with
    state := if c.isaPlugin.isSome then c.state else CPUState.reset.setPSR 0
    isaPlugin := c.isaPlugin.map fun _ => (IA64ISAPlugin.reset).2
    halted := false
    currentBundle := {}
    currentSlot := 0
    bundleValid := false
    pendingInterrupts := []
    interruptVectorBase := 0
    pendingCallInputs := [] }

/-- The constructors, which end in a reset. -/
def construct (usePlugin : Bool) : CPU I :=
  reset { isaPlugin := if usePlugin then some (IA64ISAPlugin.construct resetEfiHandoffLayoutGlobals) else none }

/-- **`isAtBundleBoundary`.** -/
def isAtBundleBoundary : Bool :=
  !c.bundleValid || c.currentSlot == 0 || c.currentBundle.instructions.length ≤ c.currentSlot.toNat

/-- **`queueInterrupt`.** -/
def queueInterrupt (c : CPU I) (vector : UInt8) : CPU I :=
  match c.isaPlugin with
  | some plugin => { c with isaPlugin := some (plugin.queueInterrupt vector) }
  | none => { c with pendingInterrupts := c.pendingInterrupts ++ [vector] }

/-- **`areInterruptsEnabled`.** The legacy engine looks at the lowest bit of `PSR`. -/
def areInterruptsEnabled (c : CPU I) : Bool :=
  match c.isaPlugin with
  | some plugin => plugin.areInterruptsEnabled
  | none => c.state.psr &&& 1 != 0

/-- **`servicePendingInterrupt`**, of the processor's own queue. -/
def servicePendingInterrupt : CPU I :=
  match c.areInterruptsEnabled, c.pendingInterrupts with
  | true, vector :: pending =>
      { c with
        pendingInterrupts := pending
        state := ((c.state.setAR 0 vector.toUInt64).setAR 1 c.state.ip).setIP
          (c.interruptVectorBase + vector.toUInt64 * 16)
        bundleValid := false
        currentSlot := 0 }
  | _, _ => c

/-! ## Snapshots -/

/-- **`createSnapshot`.** -/
def createSnapshot : CPURuntimeStateSnapshot I where
  architecturalState := c.getState
  currentBundle := c.currentBundle
  currentSlot := c.currentSlot
  bundleValid := c.bundleValid
  pendingInterrupts := c.pendingInterrupts
  interruptVectorBase := c.interruptVectorBase
  halted := c.halted
  pendingCallInputs := c.pendingCallInputs

/-- **`restoreSnapshot`.** Of a plugin only the register file is put back. -/
def restoreSnapshot (snapshot : CPURuntimeStateSnapshot I) : CPU I where
  state := if c.isaPlugin.isSome then c.state else snapshot.architecturalState
  isaPlugin := c.isaPlugin.map fun plugin => plugin.setCpu snapshot.architecturalState
  halted := snapshot.halted
  currentBundle := snapshot.currentBundle
  currentSlot := snapshot.currentSlot
  bundleValid := snapshot.bundleValid
  pendingInterrupts := snapshot.pendingInterrupts
  interruptVectorBase := snapshot.interruptVectorBase
  pendingCallInputs := snapshot.pendingCallInputs

/-! ## Stepping -/

/-- How a step of a processor ends: whether to go on, or with an exception. -/
inductive Stepped
  | returned (success : Bool)
  | threw (what : String)
  deriving DecidableEq

/-- `advanceITC` of the plugin. -/
def advanceITC (c : CPU I) : CPU I := { c with isaPlugin := c.isaPlugin.map fun plugin => plugin.advanceITC 1 }

/-- What the processor makes of the result of its plugin. -/
def finish (r : ISAExecutionResult) : Stepped × CPU I :=
  match r with
  | .CONTINUE | .INTERRUPT | .SYSCALL => (.returned true, c.advanceITC)
  | .HALT => (.returned false, { c with halted := true })
  | .EXCEPTION | .BREAKPOINT => (.returned false, c)

def stepPlugin (c : CPU I) (plugin : IA64ISAPlugin I) (w : World) : Stepped × CPU I × World × List BusEffect :=
  if c.halted then (.returned false, c, w, [])
  else
    let c := c.servicePendingInterrupt
    match engine.pluginStep plugin w with
    | (.threw what, plugin, w, effects) => (.threw what, { c with isaPlugin := some plugin }, w, effects)
    | (.result r, plugin, w, effects) =>
        let (stepped, c) := finish { c with isaPlugin := some plugin } r
        (stepped, c, w, effects)

/-- **`fetchBundle`** where one is needed. -/
def fetchIfNeeded (c : CPU I) (w : World) : CPU I :=
  if !c.bundleValid || c.currentBundle.instructions.length ≤ c.currentSlot.toNat then
    match engine.fetchBundle w c.state.ip with
    | some bundle => { c with currentBundle := bundle, bundleValid := true, currentSlot := 0 }
    | none => { c with bundleValid := false, currentSlot := 0 }
  else c

/-- Behind an instruction; a bundle that is used up gives way to the next one. -/
def nextSlot (resetSlot : Bool) : CPU I :=
  let c := { c with currentSlot := c.currentSlot + 1 }
  if c.currentBundle.instructions.length ≤ c.currentSlot.toNat then
    { c with
      state := c.state.setIP (c.state.ip + 16)
      bundleValid := false
      currentSlot := if resetSlot then 0 else c.currentSlot }
  else c

def stepLegacy (c : CPU I) (w : World) : Stepped × CPU I × World × List BusEffect :=
  let c := c.servicePendingInterrupt.fetchIfNeeded engine w
  match c.currentBundle.instructions[c.currentSlot.toNat]? with
  | none => (.returned false, c, w, [])
  | some instr =>
      if engine.isUnknown instr then (.returned true, c.nextSlot true, w, [])
      else
        let (state, pendingCallInputs, branched, w, effects) :=
          engine.executeInstruction instr c.state c.pendingCallInputs w
        let c := { c with state := state.advanceITC 1, pendingCallInputs }
        if branched then (.returned true, { c with bundleValid := false, currentSlot := 0 }, w, effects)
        -- a bundle that could not be read again is executed from what is left of the one before
        else if !c.bundleValid then (.returned true, c, w, effects)
        else (.returned true, c.nextSlot false, w, effects)

/-- **`step`.** -/
def step (c : CPU I) (w : World) : Stepped × CPU I × World × List BusEffect :=
  match c.isaPlugin with
  | some plugin => c.stepPlugin engine plugin w
  | none => c.stepLegacy engine w

end CPU

end GuideXOS.Machine
