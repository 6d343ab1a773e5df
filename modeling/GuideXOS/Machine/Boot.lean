import GuideXOS.Machine.VirtualMachine

/-!
# `Boot` — construction, `init`, `reset` and loading

The two ways a machine gets to its starting line: `construct` and `init` for a new one, `reset` for one that has been
used. Both are written out component by component in the source, and so they are here.
-/

namespace GuideXOS.Machine
open Lib GuideXOS.Core GuideXOS.Isa GuideXOS.Vm

/-- What a machine is constructed from besides its memory. -/
structure VMConfiguration where
  numCPUs : Nat
  usePlugin : Bool
  /-- What the host's boot conditions answer. -/
  conditions : VMBootState → VMBootState → Bool := fun _ _ => true

namespace VirtualMachine
variable {I : Type} (vm : VirtualMachine I)

/-! ## Construction -/

/-- Where the devices are: at the end of the memory. -/
def ioBase (memorySize : Nat) : UInt64 := if memorySize ≥ 0x200 then UInt64.ofNat (memorySize - 0x200) else 0

/-- The devices, as they are made. -/
def constructWorld (memory : GuestMemory) : World where
  memory := memory
  console := { baseAddress := ioBase memory.data.length }
  timer := { baseAddress := ioBase memory.data.length + 0x100 }
  framebuffer := .construct 0xB8000000 640 480

/-- The machine the constructor makes. -/
def constructed (config : VMConfiguration) (memory : GuestMemory) : VirtualMachine I where
  world := constructWorld memory
  cpus := List.replicate config.numCPUs { cpu := CPU.construct config.usePlugin }
  bootStateMachine := { conditions := config.conditions }

/-- The constructor; a machine without processors is an exception. -/
def construct (config : VMConfiguration) (memory : GuestMemory) : Option (VirtualMachine I) :=
  if config.numCPUs = 0 then none else some (constructed config memory)

/-! ## `init` and `reset` -/

/-- The first processor is the one that runs. -/
def startFirstCPU : VirtualMachine I :=
  if vm.cpus = [] then vm
  else { vm.modifyCPU 0 (fun ctx => { ctx with state := .RUNNING, enabled := true }) with activeCPUIndex := 0 }

/-- **`initializeSubsystems`.** -/
def initializeSubsystems : VirtualMachine I :=
  { vm with cpus := vm.cpus.map fun ctx => { ctx with cpu := ctx.cpu.reset } }

/-- **`init`.** A refused `FIRMWARE_INIT` is not noticed. -/
def init : Bool × VirtualMachine I :=
  let (on, bootStateMachine) := vm.bootStateMachine.powerOn
  if !on then (false, { vm with bootStateMachine })
  else
    let vm := vm.initializeSubsystems
    let vm := { vm with scheduler := vm.scheduler.initializeCPUs vm.scheduled }.startFirstCPU
    (true, { vm with
      bootStateMachine := (bootStateMachine.transition .FIRMWARE_INIT "Starting firmware initialization").2
      cyclesExecuted := 0
      instructionBreakpoints := .empty
      memoryBreakpoints := .empty
      snapshotHistory := []
      nextMemoryBreakpointId := 1
      lastBreakReason := ""
      debuggerAttached := false
      state := .STOPPED })

/-- What `reset` makes of a processor and its place. -/
def resetContext (ctx : CPUContext I) : CPUContext I :=
  { ctx with
    cpu := ctx.cpu.reset
    state := .IDLE
    cyclesExecuted := 0
    instructionsExecuted := 0
    idleCycles := 0 }

/-- **`reset`.** -/
def reset (vm : VirtualMachine I) : Bool × VirtualMachine I :=
  let (on, bootStateMachine) := vm.bootStateMachine.reset.powerOn
  let memory := vm.clearMemoryWatchpoints
  let vm := { vm with cpus := vm.cpus.map resetContext }.startFirstCPU
  (on, { vm with
    scheduler := vm.scheduler.reset
    world := { vm.world with
      timer := vm.world.timer.reset
      console := vm.world.console.reset
      memory }
    interruptController := vm.interruptController.reset
    memoryBreakpoints := .empty
    nextMemoryBreakpointId := 1
    cyclesExecuted := 0
    snapshotHistory := []
    lastBreakReason := ""
    bootStateMachine
    state := if on then .STOPPED else .ERROR })

/-! ## Loading -/

/-- The transitions of a load, for a machine that comes from its firmware. -/
def enterKernelLoad (m : VMBootStateMachine) : VMBootStateMachine :=
  if m.currentState = .FIRMWARE_INIT then
    ((m.transition .BOOTLOADER_EXEC "Bootloader starting").2.transition .KERNEL_LOAD "Loading kernel into memory").2
  else m

/-- **`loadProgram`.** -/
def loadProgram (engine : Engine I) (vm : VirtualMachine I) (data : List UInt8) (loadAddress : UInt64) :
    Bool × VirtualMachine I :=
  if data = [] then (false, vm)
  else
    let bootStateMachine := enterKernelLoad vm.bootStateMachine
    match engine.write vm.world loadAddress data with
    | some world => (true, { vm with bootStateMachine, world })
    | none => (false, { vm with
        bootStateMachine := (bootStateMachine.transition .BOOT_FAILED "Kernel load failed").2 })

/-- The transition of an entry, for a machine that has loaded its kernel. -/
def enterKernel (m : VMBootStateMachine) : VMBootStateMachine :=
  if m.currentState = .KERNEL_LOAD then (m.transition .KERNEL_ENTRY "Jumping to kernel entry point").2 else m

/-- **`setEntryPoint`**, of the active processor. -/
def setEntryPoint (address : UInt64) : VirtualMachine I :=
  if vm.targetCPU < vm.cpus.length then
    { vm.modifyCPU vm.targetCPU (fun ctx => { ctx with cpu := ctx.cpu.setIP address }) with
      bootStateMachine := enterKernel vm.bootStateMachine }
  else vm

end VirtualMachine

end GuideXOS.Machine
