import GuideXOS.Machine.VirtualMachine

/-!
# `Metadata` — what the manager records of a machine

`VMConfiguration` with its validation, and `VMMetadata` with the recorded lifecycle state. The recorded state is the
manager's own: it is set with `setState`, and nothing ties it to the state of the machine.

* Timestamps are not part of the model. No operation reads them.
* Of a configuration there is what is validated, what a machine is made from, and what a start hands to the boot loader.
-/

namespace GuideXOS.Manager
open GuideXOS.Machine

/-! ## Configurations -/

structure StorageConfiguration where
  deviceId : String
  deviceType : String
  imagePath : String
  sizeBytes : UInt64
  readOnly : Bool

structure BootConfiguration where
  bootDevice : String := "disk0"
  kernelPath : String := ""
  initrdPath : String := ""
  bootArgs : String := ""
  entryPoint : UInt64 := 0
  directBoot : Bool := false

structure VMConfiguration where
  name : String := "vm"
  uuid : String := ""
  isaType : String := "IA-64"
  cpuCount : UInt64 := 1
  memorySize : UInt64 := 16 * 1024 * 1024
  storageDevices : List StorageConfiguration := []
  boot : BootConfiguration := {}

/-- The first device that has the identifier of a later one. -/
def firstDuplicate : List StorageConfiguration → Option StorageConfiguration
  | [] => none
  | device :: rest => if rest.any (·.deviceId == device.deviceId) then some device else firstDuplicate rest

/-- **`validate`**, with the message where it refuses. -/
def VMConfiguration.validate (config : VMConfiguration) : Except String Unit :=
  if config.name = "" then .error "VM name cannot be empty"
  else if config.cpuCount = 0 then .error "CPU count must be at least 1"
  else if config.cpuCount > 256 then .error "CPU count exceeds maximum (256)"
  else if config.memorySize = 0 then .error "Memory size must be greater than 0"
  else if config.memorySize < 1024 * 1024 then .error "Memory size must be at least 1 MB"
  else match firstDuplicate config.storageDevices with
    | some device => .error ("Duplicate storage device ID: " ++ device.deviceId)
    | none => .ok ()

/-! ## Metadata -/

structure VMResourceUsage where
  cpuTimeMs : UInt64 := 0
  cyclesExecuted : UInt64 := 0
  instructionsExecuted : UInt64 := 0
  memoryUsedBytes : UInt64 := 0
  diskReadBytes : UInt64 := 0
  diskWriteBytes : UInt64 := 0
  networkRxBytes : UInt64 := 0
  networkTxBytes : UInt64 := 0

def vmStateToString : VMState → String
  | .CREATED => "CREATED"
  | .CONFIGURING => "CONFIGURING"
  | .INITIALIZING => "INITIALIZING"
  | .STOPPED => "STOPPED"
  | .STARTING => "STARTING"
  | .RUNNING => "RUNNING"
  | .PAUSING => "PAUSING"
  | .PAUSED => "PAUSED"
  | .RESUMING => "RESUMING"
  | .STOPPING => "STOPPING"
  | .TERMINATING => "TERMINATING"
  | .TERMINATED => "TERMINATED"
  | .ERROR => "ERROR"
  | .CRASHED => "CRASHED"
  | .SNAPSHOTTING => "SNAPSHOTTING"
  | .RESTORING => "RESTORING"

structure VMMetadata where
  vmId : String := ""
  name : String := ""
  uuid : String := ""
  currentState : VMState := .CREATED
  previousState : VMState := .CREATED
  stateMessage : String := "Created"
  resourceUsage : VMResourceUsage := {}
  configuration : VMConfiguration := {}
  snapshotCount : Nat := 0
  activeSnapshot : String := ""
  hasError : Bool := false
  lastError : String := ""

namespace VMMetadata

variable (m : VMMetadata)

/-- **`setState`.** -/
def setState (newState : VMState) (message : String) : VMMetadata :=
  { m with
    previousState := m.currentState
    currentState := newState
    stateMessage := if message = "" then vmStateToString newState else message }

/-- **`setError`.** -/
def setError (errorMessage : String) : VMMetadata :=
  { m with hasError := true, lastError := errorMessage }.setState .ERROR errorMessage

/-- **`clearError`.** -/
def clearError : VMMetadata := { m with hasError := false, lastError := "" }

def canStart : Bool :=
  m.currentState == .STOPPED || m.currentState == .CREATED || m.currentState == .TERMINATED

def canStop : Bool := m.currentState == .RUNNING || m.currentState == .PAUSED

def canPause : Bool := m.currentState == .RUNNING

def canResume : Bool := m.currentState == .PAUSED

def canSnapshot : Bool :=
  m.currentState == .RUNNING || m.currentState == .PAUSED || m.currentState == .STOPPED

/-- The state is `ERROR`, and there is a message that says why. -/
structure Failed (m : VMMetadata) : Prop where
  currentState : m.currentState = .ERROR
  hasError : m.hasError = true
  lastError : m.lastError ≠ ""

theorem failed_setError {errorMessage : String} (h : errorMessage ≠ "") :
    (m.setError errorMessage).Failed := ⟨rfl, rfl, h⟩

end VMMetadata

/-- A snapshot of the manager. It holds no memory and no processor. -/
structure VMSnapshot where
  snapshotId : String
  name : String
  description : String
  vmState : VMState
  memorySize : UInt64
  vmMetadata : VMMetadata

/-- **`canTransition`.** No operation asks it. -/
def canTransition (fromState toState : VMState) : Bool :=
  match fromState with
  | .CREATED | .STOPPED => toState == .STARTING || toState == .TERMINATED
  | .RUNNING => toState == .PAUSING || toState == .STOPPING || toState == .SNAPSHOTTING || toState == .ERROR
  | .PAUSED => toState == .RESUMING || toState == .STOPPING || toState == .SNAPSHOTTING
  | _ => true

end GuideXOS.Manager
