import GuideXOS.Lib.OrdMap
import GuideXOS.Core.CpuState

/-!
# `Plugin` — the state of an IA-64 ISA plugin

`IA64ISAPlugin` is everything one emulated IA-64 machine owns besides its guest memory: the processor, the
bundle being executed, the local interrupt controller, the call and interruption frames, and the firmware
(EFI) state. The fields are grouped by the component that uses them; names are the source's.

* A host `size_t` that is stored or compared as data is a `UInt64`; a container length is a `Nat`.
* Strings are byte strings. Ordered and hashed maps are `OrdMap`, since only their contents are observed.
* The type `I` of decoded instructions is a parameter: decoding belongs to the decoder.
* Diagnostics that nothing reads back (interrupt telemetry, the last interrupt transaction) are left out.
-/

namespace GuideXOS.Isa
open Lib Lib.Words GuideXOS.Core

abbrev ByteString := List UInt8

def IA64_SPURIOUS_INT_VECTOR : UInt8 := 0x0F

/-! ## Execution state -/

/-- A decoded bundle: its instructions, and after which of them an instruction group ends. -/
structure Bundle (I : Type _) where
  instructions : List I := []
  stopAfterSlot : List Bool := []

/-- The architectural state together with the bundle execution and interrupt state. -/
structure IA64ISAState (I : Type _) where
  cpu : CPUState
  currentBundle : Bundle I
  currentSlot : Nat
  bundleValid : Bool
  predicateGroupSnapshot : Vector Bool 64
  pendingInterrupts : List UInt8
  interruptVectorBase : UInt64

/-- **`CallFrameSnapshot`.** The stacked registers of a frame, as the logical registers `GR32`–`GR127`
    showed them, with its frame marker. -/
structure CallFrameSnapshot where
  stackedRegisters : Vector UInt64 96
  cfm : UInt64
  returnAddress : UInt64
  deriving DecidableEq

/-- The register stack substitute: frames of calls, of completed calls and of interruptions, innermost
    last, and the outputs a call leaves for the next `alloc`. -/
structure RegisterFrames where
  pendingCallInputs : List UInt64 := []
  callFrameStack : List CallFrameSnapshot := []
  completedCallFrames : OrdMap UInt64 CallFrameSnapshot := .empty
  interruptFrameStack : List CallFrameSnapshot := []

/-- The local interrupt controller and interval timer. -/
structure LocalInterrupts where
  interruptInService : Bool := false
  inServiceVector : UInt8 := IA64_SPURIOUS_INT_VECTOR
  timerCompareLatched : Bool := false
  intervalTimerConfigured : Bool := false
  deriving DecidableEq

/-! ## Firmware state -/

structure EfiProtocolAttachment where
  handle : UInt64
  protocol : Vector UInt8 16
  interfaceAddress : UInt64
  deriving DecidableEq

structure FATFileInfo where
  name : ByteString
  isDirectory : Bool
  size : UInt32
  firstCluster : UInt32
  attributes : UInt8
  deriving DecidableEq

structure EfiFileHandle where
  protocolAddress : UInt64 := 0
  path : ByteString := []
  isDirectory : Bool := false
  data : List UInt8 := []
  directoryEntries : List FATFileInfo := []
  directoryIndex : UInt64 := 0
  position : UInt64 := 0
  deriving DecidableEq

structure EfiInputKey where
  scanCode : UInt16
  unicodeChar : UInt16
  shiftState : UInt32
  toggleState : UInt8
  deriving DecidableEq

structure EfiLoadedImage where
  handle : UInt64
  protocolAddress : UInt64
  parentHandle : UInt64
  deviceHandle : UInt64
  imageBase : UInt64
  imageSize : UInt64
  entryPoint : UInt64
  globalPointer : UInt64
  filePath : UInt64
  deriving DecidableEq

structure EfiMemoryDescriptor where
  type : UInt32
  physicalStart : UInt64
  numberOfPages : UInt64
  attributes : UInt64
  deriving DecidableEq

structure EfiMemoryReservation where
  type : UInt32
  physicalStart : UInt64
  numberOfPages : UInt64
  deriving DecidableEq

/-- A live page, image or pool allocation. -/
structure EfiAllocation where
  physicalStart : UInt64
  numberOfPages : UInt64
  type : UInt32
  deriving DecidableEq

/-- The EFI memory map and the allocations drawn from it. -/
structure EfiMemoryState where
  efiMemoryMap : List EfiMemoryDescriptor := []
  efiMemoryReservations : List EfiMemoryReservation := []
  efiPageAllocations : List EfiAllocation := []
  efiPoolAllocations : List EfiAllocation := []
  efiMemoryMapKey : UInt64 := 1
  efiMemoryMapMemorySize : UInt64 := 0
  efiMemoryMapInitialized : Bool := false

/-- The boundary of the firmware-to-kernel handoff at which a checkpoint may be taken. -/
structure EfiHandoffCheckpointBoundary where
  valid : Bool := false
  callerIP : UInt64 := 0
  callerSlot : UInt64 := 0
  rawTarget : UInt64 := 0
  targetIP : UInt64 := 0
  targetSlot : UInt64 := 0
  deriving DecidableEq

/-- Where the handoff region lies, as this instance decided it, and how far the handoff has come. -/
structure EfiHandoffState where
  efiHandoffLayoutMemorySize : UInt64 := 0
  efiHandoffLayoutInitialized : Bool := false
  efiHandoffBoundaryPending : Bool := false
  efiHandoffBoundary : EfiHandoffCheckpointBoundary := {}
  efiHandoffCheckpointConsumed : Bool := false
  deriving DecidableEq

/-- The boot image behind the file protocol. Of the FAT parser that file access builds over it, `efiBootFat`
    keeps which image it was built from. -/
structure EfiBootVolume where
  efiBootImage : List UInt8 := []
  efiBootImageFromVmManager : Bool := false
  efiBootFat : Option (List UInt8) := none
  deriving DecidableEq

/-- Protocols, files, images and console input. -/
structure EfiServices where
  efiCurrentTpl : UInt64 := 4
  lastEfiDescriptorFieldAddress : UInt64 := 0
  efiProtocolAttachments : List EfiProtocolAttachment := []
  efiNextSyntheticHandle : UInt64 := 0x42
  efiFileHandles : OrdMap UInt64 EfiFileHandle := .empty
  efiInputQueue : List EfiInputKey := []
  efiLoadedImages : OrdMap UInt64 EfiLoadedImage := .empty
  boot : EfiBootVolume := {}

/-- Call counters of the firmware services, in the order the source keeps them. -/
structure EfiCounters where
  efiTextOutputCalls : UInt64 := 0
  efiTextOutputMirrored : UInt64 := 0
  efiTextOutputFramebuffer : UInt64 := 0
  efiOpenVolumeCalls : UInt64 := 0
  efiSimpleFsProtocolReturns : UInt64 := 0
  efiGenericSuccessCalls : UInt64 := 0
  efiGenericUnsupportedCalls : UInt64 := 0
  efiZeroGuidProtocolCalls : UInt64 := 0
  efiHandleProtocolCalls : UInt64 := 0
  efiLocateHandleCalls : UInt64 := 0
  efiLocateProtocolCalls : UInt64 := 0
  efiGetMemoryMapCalls : UInt64 := 0
  efiExitBootServicesCalls : UInt64 := 0
  efiAllocatePoolCalls : UInt64 := 0
  efiAllocatePagesCalls : UInt64 := 0
  efiFreePagesCalls : UInt64 := 0
  efiFreePoolCalls : UInt64 := 0
  efiCopyMemCalls : UInt64 := 0
  efiLoadImageCalls : UInt64 := 0
  efiStartImageCalls : UInt64 := 0
  efiSetMemCalls : UInt64 := 0
  efiFileOpenCalls : UInt64 := 0
  efiFileReadCalls : UInt64 := 0
  efiFileGetInfoCalls : UInt64 := 0
  efiFileCloseCalls : UInt64 := 0
  efiFileSetPositionCalls : UInt64 := 0
  efiFileGetPositionCalls : UInt64 := 0
  efiReadKeyStrokeCalls : UInt64 := 0
  efiReadKeyStrokeExCalls : UInt64 := 0
  efiReadKeyStrokeNotReadyCalls : UInt64 := 0
  efiReadKeyStrokeSuccessCalls : UInt64 := 0
  efiReadKeyStrokeExNotReadyCalls : UInt64 := 0
  efiReadKeyStrokeExSuccessCalls : UInt64 := 0
  efiWaitForEventCalls : UInt64 := 0
  efiCheckEventCalls : UInt64 := 0
  efiFirstSuccessfulFileOpen : UInt64 := 0

structure RecentInstructionTrace where
  ip : UInt64
  slot : UInt64
  disasm : ByteString
  deriving DecidableEq

structure RecentRegisterWriteTrace where
  reg : UInt64
  value : UInt64
  ip : UInt64
  slot : UInt64
  disasm : ByteString
  deriving DecidableEq

structure PlacementEvent where
  step : UInt64
  destination : UInt64
  source : UInt64
  length : UInt64
  cumulativeFileBackedBytes : UInt64
  elfOffset : UInt64
  segmentIndex : Int32
  deriving DecidableEq

/-- Bookkeeping of the firmware and of the guest's control flow. -/
structure EfiTrace where
  efiTotalFileBytesRead : UInt64 := 0
  descriptorCallCount : UInt64 := 0
  gpSwitchCount : UInt64 := 0
  suspiciousGpCount : UInt64 := 0
  unknownRegionCallCount : UInt64 := 0
  recoveredLoadStoreCount : UInt64 := 0
  postSimpleFsTraceBudget : UInt64 := 0
  postSimpleFsTraceActive : Bool := false
  postSimpleFsProtocolAddress : UInt64 := 0
  lastEfiCallName : ByteString := []
  lastEfiCallIP : UInt64 := 0
  lastDescriptorAddress : UInt64 := 0
  lastDescriptorCode : UInt64 := 0
  lastDescriptorGp : UInt64 := 0
  lastBranchTargets : List UInt64 := []
  recentInstructions : List RecentInstructionTrace := []
  recentTrackedRegisterWrites : List RecentRegisterWriteTrace := []
  recentInstructionSequenceRepeatCount : UInt64 := 0
  placementStepCount : UInt64 := 0
  placementFileBackedBytes : UInt64 := 0
  placementEvents : List PlacementEvent := []
  pendingRegisterConfigEntryTarget : UInt64 := 0
  pendingRegisterConfigEntryCallsite : UInt64 := 0
  pendingRegisterConfigEntryArmed : Bool := false

/-! ## The plugin -/

structure IA64ISAPlugin (I : Type _) where
  state : IA64ISAState I
  cachedInstruction : Option I
  frames : RegisterFrames
  interrupts : LocalInterrupts
  memoryMap : EfiMemoryState
  handoff : EfiHandoffState
  services : EfiServices
  counters : EfiCounters
  trace : EfiTrace

namespace IA64ISAPlugin
variable {I : Type _} (p : IA64ISAPlugin I)

/-- The processor of a plugin. -/
abbrev cpu (p : IA64ISAPlugin I) : CPUState := p.state.cpu

/-- A plugin with another processor state. -/
def setCpu (cpu : CPUState) : IA64ISAPlugin I :=
  { p with state := { p.state with cpu := cpu } }

def hasCachedInstruction : Bool := p.cachedInstruction.isSome

@[simp] theorem cpu_setCpu (c : CPUState) : (p.setCpu c).cpu = c := rfl
@[simp] theorem frames_setCpu (c : CPUState) : (p.setCpu c).frames = p.frames := rfl

end IA64ISAPlugin

/-- **`IA64ISAState::reset`** and construction. -/
def IA64ISAState.initial {I : Type _} : IA64ISAState I where
  cpu := .reset
  currentBundle := {}
  currentSlot := 0
  bundleValid := false
  predicateGroupSnapshot := (Vector.replicate 64 false).set 0 true zero_lt_64
  pendingInterrupts := []
  interruptVectorBase := 0

end GuideXOS.Isa
