import GuideXOS.Lib.Registry
import GuideXOS.Machine.Boot
import GuideXOS.Manager.Metadata

/-!
# `VMManager` — the machines under their identifiers

The operations of the manager. Most of them work on one instance (`onInstance`); a snapshot is a copy of the metadata,
and restoring it resets the machine.

* What a start loads is found by the boot loader of the host, which may write the memory, the processors and the boot
  states of the machine, and fail in five ways that are recorded, with an exception, or unrecorded (`BootLoad`).
* A `runVM` that has not returned when its fuel is used up leaves everything as it was.
-/

namespace GuideXOS.Machine.VirtualMachine
variable {I : Type}

/-- **`halt`.** -/
def halt (vm : VirtualMachine I) : VirtualMachine I :=
  if vm.state = .RUNNING then
    { vm with
      state := .STOPPED
      cpus := vm.cpus.map fun ctx => if ctx.state = .RUNNING then { ctx with state := .HALTED } else ctx }
  else vm

/-- **`getIP`**, of the active processor. -/
def getIP (vm : VirtualMachine I) : UInt64 :=
  if vm.isValidCPUIndex vm.activeCPUIndex then
    match vm.cpus[vm.activeCPUIndex.toNat]? with
    | some ctx => ctx.cpu.getIP
    | none => 0
  else 0

end GuideXOS.Machine.VirtualMachine

namespace GuideXOS.Manager
open Lib GuideXOS.Machine

/-- A machine with what is recorded of it. -/
structure VMInstance (I : Type) where
  vm : VirtualMachine I
  metadata : VMMetadata

/-! ## What is outside -/

/-- A failure of a start that is recorded. -/
inductive LoadError
  | kernelFileNotFound | kernelNotRead | testKernelFailed | noFramebuffer | kernelNotLoaded

def LoadError.message : LoadError → String
  | .kernelFileNotFound => "Kernel file not found"
  | .kernelNotRead => "Failed to read kernel"
  | .testKernelFailed => "Test kernel execution failed"
  | .noFramebuffer => "Framebuffer not available"
  | .kernelNotLoaded => "Failed to load kernel"

inductive LoadOutcome
  /-- Loaded, or nothing was found to load. -/
  | loaded
  | failed (error : LoadError)
  | threw (what : String)
  /-- The EFI image of the boot device could not be loaded. -/
  | abandoned

/-- What the boot loader leaves behind. -/
structure BootLoad (I : Type) where
  outcome : LoadOutcome
  world : World
  cpus : List (CPUContext I)
  bootStateMachine : VMBootStateMachine

/-- The host of a manager: its ISA registry, boot conditions, files, boot loader, and the status screen. -/
structure Host (I : Type) where
  isRegistered : String → Bool
  conditions : VMBootState → VMBootState → Bool
  createStorageDevices : List StorageConfiguration → Bool
  load : VMConfiguration → VirtualMachine I → BootLoad I
  drawBootStatus : Bool → UInt64 → UInt64 → FramebufferDevice → FramebufferDevice

/-! ## Operations on one instance -/

namespace VMInstance
variable {I : Type}

def setState (inst : VMInstance I) (newState : VMState) (message : String) : VMInstance I :=
  { inst with metadata := inst.metadata.setState newState message }

def setError (inst : VMInstance I) (errorMessage : String) : VMInstance I :=
  { inst with metadata := inst.metadata.setError errorMessage }

variable (inst : VMInstance I)

/-- **`updateResourceUsage`.** -/
def updateResourceUsage : VMInstance I :=
  { inst with metadata := { inst.metadata with
      resourceUsage := { inst.metadata.resourceUsage with
        memoryUsedBytes := inst.metadata.configuration.memorySize } } }

/-- **`startVM`** from its boot loader on. -/
def boot (host : Host I) (inst : VMInstance I) : Bool × VMInstance I :=
  let load := host.load inst.metadata.configuration inst.vm
  let inst := { inst with vm := { inst.vm with
    world := load.world, cpus := load.cpus, bootStateMachine := load.bootStateMachine } }
  match load.outcome with
  | .loaded => (true, inst.setState .RUNNING "VM running")
  | .failed error => (false, inst.setError error.message)
  | .threw what => (false, inst.setError ("Exception starting VM: " ++ what))
  | .abandoned => (false, inst)

/-- **`startVM`.** -/
def start (host : Host I) (inst : VMInstance I) : Bool × VMInstance I :=
  if !inst.metadata.canStart then (false, inst)
  else
    let starting := inst.setState .STARTING "Starting VM"
    if starting.metadata.previousState = .TERMINATED then
      match starting.vm.reset with
      | (false, vm) => (false, { starting with vm }.setError "Failed to reset VM")
      | (true, vm) => { starting with vm }.boot host
    else starting.boot host

/-- **`stopVM`.** -/
def stop : Bool × VMInstance I :=
  if !inst.metadata.canStop then (false, inst)
  else
    let stopping := inst.setState .STOPPING "Stopping VM"
    (true, ({ stopping with vm := stopping.vm.halt }.updateResourceUsage).setState .STOPPED "VM stopped")

/-- **`pauseVM`.** -/
def pause : Bool × VMInstance I :=
  if !inst.metadata.canPause then (false, inst)
  else (true, ((inst.setState .PAUSING "Pausing VM").updateResourceUsage).setState .PAUSED "VM paused")

/-- **`resumeVM`.** -/
def resume : Bool × VMInstance I :=
  if !inst.metadata.canResume then (false, inst)
  else (true, (inst.setState .RESUMING "Resuming VM").setState .RUNNING "VM running")

/-- **`resetVM`.** -/
def reset (inst : VMInstance I) : Bool × VMInstance I :=
  match inst.vm.reset with
  | (false, vm) => (false, { inst with vm }.setError "Failed to reset VM")
  | (true, vm) =>
      let cleared : VMInstance I := ⟨vm, { inst.metadata with resourceUsage := {} }.clearError⟩
      (true, if inst.metadata.currentState = .RUNNING then cleared.setState .RUNNING "VM reset and running"
        else cleared.setState .STOPPED "VM reset")

/-- **`terminateVM`.** -/
def terminate : Bool × VMInstance I :=
  let terminating := inst.setState .TERMINATING "Terminating VM"
  (true, ({ terminating with vm := terminating.vm.halt }.updateResourceUsage).setState .TERMINATED "VM terminated")

/-- What **`runVM`** does after the run. -/
def afterRun (host : Host I) (metadata : VMMetadata) (cycles : UInt64) (vm : VirtualMachine I) : VMInstance I :=
  let failed := cycles == 0 || vm.state == .ERROR
  let usage := metadata.resourceUsage
  let metadata := if vm.state = .ERROR then
    metadata.setError "VM execution stopped; see native log for [SKIP] warnings" else metadata
  { vm := { vm with world := { vm.world with
      framebuffer := host.drawBootStatus failed (usage.cyclesExecuted + cycles) vm.getIP vm.world.framebuffer } }
    metadata := { metadata with resourceUsage := { usage with cyclesExecuted := usage.cyclesExecuted + cycles } } }

/-- **`runVM`**, with the cycles executed. -/
def run (engine : Engine I) (host : Host I) (fuel : Nat) (maxCycles : UInt64) (inst : VMInstance I) :
    UInt64 × VMInstance I :=
  if inst.metadata.currentState ≠ .RUNNING then (0, inst)
  else
    match inst.vm.run engine fuel maxCycles with
    | none => (0, inst)
    | some (cycles, vm) => (cycles, afterRun host inst.metadata cycles vm)

/-- **`stepVM`.** -/
def step (engine : Engine I) (inst : VMInstance I) : Bool × VMInstance I :=
  if inst.metadata.currentState ≠ .RUNNING then (false, inst)
  else
    let (result, vm) := inst.vm.step engine
    let usage := inst.metadata.resourceUsage
    (result, ⟨vm, { inst.metadata with
      resourceUsage := { usage with instructionsExecuted := usage.instructionsExecuted + 1 } }⟩)

/-- **`updateVMConfiguration`.** -/
def updateConfiguration (config : VMConfiguration) (inst : VMInstance I) : Bool × VMInstance I :=
  if inst.metadata.currentState ≠ .STOPPED then (false, inst)
  else
    match config.validate with
    | .error _ => (false, inst)
    | .ok () => (true, { inst with metadata := { inst.metadata with configuration := config } })

/-- **`restoreSnapshot`** from the snapshot on. -/
def restore (snapshot : VMSnapshot) (inst : VMInstance I) : Bool × VMInstance I :=
  let metadata := { snapshot.vmMetadata with activeSnapshot := snapshot.snapshotId }
  match inst.vm.reset with
  | (false, vm) => (false, ⟨vm, metadata.setError "Failed to reset VM during restore"⟩)
  | (true, vm) => (true, ⟨vm, metadata.setState .STOPPED "Snapshot restored"⟩)

/-- What **`deleteSnapshot`** does to the instance. -/
def countSnapshots (snapshotCount : Nat) (inst : VMInstance I) : Unit × VMInstance I :=
  ((), { inst with metadata := { inst.metadata with snapshotCount } })

end VMInstance

/-! ## The manager -/

structure VMManager (I : Type) where
  vms : OrdMap String (VMInstance I) := .empty
  snapshots : OrdMap String (List VMSnapshot) := .empty
  vmCounter : UInt64 := 0
  snapshotCounter : UInt64 := 0

namespace VMManager
variable {I : Type}

variable (m : VMManager I)

/-- **`generateVMId`**, but for the counter. -/
def generateVMId (vmName : String) : String := numbered vmName 6 m.vmCounter.toNat

/-- **`generateSnapshotId`**, but for the counter. -/
def generateSnapshotId (snapshotName : String) : String := numbered snapshotName 6 m.snapshotCounter.toNat

/-- The machine that a configuration asks for. -/
def newMachine (host : Host I) (config : VMConfiguration) : Option (VirtualMachine I) :=
  VirtualMachine.construct ⟨config.cpuCount.toNat, host.isRegistered config.isaType, host.conditions⟩
    { data := List.replicate config.memorySize.toNat 0 }

/-- **`createVM`**, with the identifier, or nothing. -/
def createVM (host : Host I) (m : VMManager I) (config : VMConfiguration) : String × VMManager I :=
  match config.validate with
  | .error _ => ("", m)
  | .ok () =>
      let vmId := m.generateVMId config.name
      let m := { m with vmCounter := m.vmCounter + 1 }
      let uuid := if config.uuid = "" then vmId else config.uuid
      let metadata : VMMetadata := { vmId, name := config.name, uuid, configuration := config }
      let metadata := metadata.setState .CREATED "VM created"
      match newMachine host config with
      | none => ("", m)
      | some vm =>
          if !host.createStorageDevices config.storageDevices then ("", m)
          else
            match vm.init with
            | (false, _) => ("", m)
            | (true, vm) =>
                (vmId, { m with vms := m.vms.insert vmId ⟨vm, metadata.setState .STOPPED "VM ready to start"⟩ })

/-- **`deleteVM`.** -/
def deleteVM (vmId : String) : Bool × VMManager I :=
  match m.vms.find? vmId with
  | none => (false, m)
  | some inst =>
      if inst.metadata.currentState = .RUNNING ∨ inst.metadata.currentState = .PAUSED then (false, m)
      else (true, { m with snapshots := m.snapshots.erase vmId, vms := m.vms.erase vmId })

/-- An operation on the instance with an identifier, if there is one. -/
def onInstance {α : Type} (vmId : String) (refused : α) (f : VMInstance I → α × VMInstance I) : α × VMManager I :=
  match m.vms.find? vmId with
  | none => (refused, m)
  | some inst => ((f inst).1, { m with vms := m.vms.insert vmId (f inst).2 })

def updateVMConfiguration (vmId : String) (config : VMConfiguration) : Bool × VMManager I :=
  m.onInstance vmId false (VMInstance.updateConfiguration config)

def startVM (host : Host I) (m : VMManager I) (vmId : String) : Bool × VMManager I :=
  m.onInstance vmId false (VMInstance.start host)

def stopVM (vmId : String) : Bool × VMManager I := m.onInstance vmId false VMInstance.stop

def pauseVM (vmId : String) : Bool × VMManager I := m.onInstance vmId false VMInstance.pause

def resumeVM (vmId : String) : Bool × VMManager I := m.onInstance vmId false VMInstance.resume

def resetVM (vmId : String) : Bool × VMManager I := m.onInstance vmId false VMInstance.reset

def terminateVM (vmId : String) : Bool × VMManager I := m.onInstance vmId false VMInstance.terminate

def runVM (engine : Engine I) (host : Host I) (fuel : Nat) (m : VMManager I) (vmId : String) (maxCycles : UInt64) :
    UInt64 × VMManager I := m.onInstance vmId 0 (VMInstance.run engine host fuel maxCycles)

def stepVM (engine : Engine I) (m : VMManager I) (vmId : String) : Bool × VMManager I :=
  m.onInstance vmId false (VMInstance.step engine)

/-! ## Snapshots -/

/-- The snapshots of a machine. -/
def snapshotsOf (vmId : String) : List VMSnapshot := (m.snapshots.find? vmId).getD []

/-- **`snapshotVM`**, with the identifier, or nothing. -/
def snapshotVM (vmId snapshotName description : String) : String × VMManager I :=
  match m.vms.find? vmId with
  | none => ("", m)
  | some inst =>
      if !inst.metadata.canSnapshot then ("", m)
      else
        let previousState := inst.metadata.currentState
        let metadata := inst.metadata.setState .SNAPSHOTTING "Creating snapshot"
        let snapshotId := m.generateSnapshotId snapshotName
        let snapshot : VMSnapshot :=
          { snapshotId
            name := snapshotName
            description
            vmState := previousState
            memorySize := metadata.configuration.memorySize
            vmMetadata := metadata }
        let snapshots := m.snapshotsOf vmId ++ [snapshot]
        let metadata := { metadata with snapshotCount := snapshots.length }.setState previousState "Snapshot created"
        (snapshotId, { m with
          snapshotCounter := m.snapshotCounter + 1
          snapshots := m.snapshots.insert vmId snapshots
          vms := m.vms.insert vmId { inst with metadata } })

/-- The snapshot of a machine that an identifier finds. -/
def findSnapshot (vmId snapshotId : String) : Option VMSnapshot :=
  (m.snapshotsOf vmId).find? fun snapshot => snapshot.snapshotId == snapshotId

/-- **`restoreSnapshot`.** -/
def restoreSnapshot (vmId snapshotId : String) : Bool × VMManager I :=
  match m.vms.find? vmId, m.findSnapshot vmId snapshotId with
  | some _, some snapshot => m.onInstance vmId false (VMInstance.restore snapshot)
  | _, _ => (false, m)

/-- **`deleteSnapshot`.** -/
def deleteSnapshot (vmId snapshotId : String) : Bool × VMManager I :=
  match m.findSnapshot vmId snapshotId with
  | none => (false, m)
  | some _ =>
      let snapshots := (m.snapshotsOf vmId).eraseP fun snapshot => snapshot.snapshotId == snapshotId
      let m := (m.onInstance vmId () (VMInstance.countSnapshots snapshots.length)).2
      (true, { m with snapshots := m.snapshots.insert vmId snapshots })

end VMManager

/-! ## Histories -/

inductive ManagerOp
  | createVM (config : VMConfiguration)
  | deleteVM (vmId : String)
  | updateVMConfiguration (vmId : String) (config : VMConfiguration)
  | startVM (vmId : String)
  | stopVM (vmId : String)
  | pauseVM (vmId : String)
  | resumeVM (vmId : String)
  | resetVM (vmId : String)
  | terminateVM (vmId : String)
  | runVM (vmId : String) (maxCycles : UInt64) (fuel : Nat)
  | stepVM (vmId : String)
  | snapshotVM (vmId snapshotName description : String)
  | restoreSnapshot (vmId snapshotId : String)
  | deleteSnapshot (vmId snapshotId : String)

namespace VMManager
variable {I : Type}

/-- An operation, and whether it returned success: `true`, an identifier, or a number of cycles that is not zero. -/
def perform (engine : Engine I) (host : Host I) (m : VMManager I) (op : ManagerOp) : Bool × VMManager I :=
  match op with
  | .createVM config => ((m.createVM host config).1 != "", (m.createVM host config).2)
  | .deleteVM vmId => m.deleteVM vmId
  | .updateVMConfiguration vmId config => m.updateVMConfiguration vmId config
  | .startVM vmId => m.startVM host vmId
  | .stopVM vmId => m.stopVM vmId
  | .pauseVM vmId => m.pauseVM vmId
  | .resumeVM vmId => m.resumeVM vmId
  | .resetVM vmId => m.resetVM vmId
  | .terminateVM vmId => m.terminateVM vmId
  | .runVM vmId maxCycles fuel =>
      ((m.runVM engine host fuel vmId maxCycles).1 != 0, (m.runVM engine host fuel vmId maxCycles).2)
  | .stepVM vmId => m.stepVM engine vmId
  | .snapshotVM vmId snapshotName description =>
      ((m.snapshotVM vmId snapshotName description).1 != "", (m.snapshotVM vmId snapshotName description).2)
  | .restoreSnapshot vmId snapshotId => m.restoreSnapshot vmId snapshotId
  | .deleteSnapshot vmId snapshotId => m.deleteSnapshot vmId snapshotId

/-- The manager after an operation. -/
def after (engine : Engine I) (host : Host I) (m : VMManager I) (op : ManagerOp) : VMManager I :=
  (m.perform engine host op).2

end VMManager

end GuideXOS.Manager
