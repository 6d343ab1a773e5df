import GuideXOS.Isa.CheckpointCpu
import GuideXOS.Isa.Plugin

/-!
# `CheckpointState` — the sections of a plugin checkpoint

After the processor a checkpoint holds the execution state, the register frames, and the firmware: console
input, counters, traces, protocols, files, memory map, images, and the handoff. Each section is written by a
`put` function and read by a `read` function, in the order of the source.

* A section's `Fits` predicate collects what its reader demands of it: at most a million entries in a
  sequence, a megabyte in a string. The writer asks for none of this.
* Some fields are written twice. Both copies are read; the later one is kept.
-/

namespace GuideXOS.Isa
open Lib Lib.Words Lib.Reader GuideXOS.Core

section Plain
variable {α : Type} {put : α → List UInt8} {r : Reader α}

/-- Sequences whose elements are always readable. -/
theorem decodes_entries (hpos : ∀ x, 0 < (put x).length) (h : ∀ x, Decodes r (put x) True x) (xs : List α) :
    Decodes (readEntries r) (putList put xs) (xs.length ≤ kMaxCheckpointVectorEntries) xs :=
  (decodes_readEntries hpos h xs).congr (by simp)

end Plain

theorem decodes_string (v : ByteString) :
    Decodes (bytes kMaxCheckpointStringBytes) (putBytes v) (v.length ≤ kMaxCheckpointStringBytes) v :=
  .bytes _ v

/-! ## Execution state -/

/-- What a checkpoint says about the bundle in progress and the pending interrupts. -/
structure RestoredExecution where
  currentSlot : UInt64
  bundleValid : Bool
  predicateGroupSnapshot : Vector Bool 64
  interruptVectorBase : UInt64
  pendingInterrupts : List UInt8

def readExecution : Reader RestoredExecution := do
  let currentSlot ← u64
  let bundleValid ← u8Bool
  let predicateGroupSnapshot ← array u8Bool 64
  let interruptVectorBase ← u64
  let pendingInterrupts ← bytes kMaxCheckpointVectorEntries
  return { currentSlot, bundleValid, predicateGroupSnapshot, interruptVectorBase, pendingInterrupts }

def putExecution {I : Type _} (s : IA64ISAState I) : List UInt8 :=
  [putSize s.currentSlot, putBool s.bundleValid, putArray putBool s.predicateGroupSnapshot,
    putU64 s.interruptVectorBase, putBytes s.pendingInterrupts].flatten

theorem decodes_execution {I : Type _} (s : IA64ISAState I) :
    Decodes readExecution (putExecution s) (s.pendingInterrupts.length ≤ kMaxCheckpointVectorEntries)
      ⟨UInt64.ofNat s.currentSlot, s.bundleValid, s.predicateGroupSnapshot, s.interruptVectorBase,
        s.pendingInterrupts⟩ :=
  (Decodes.u64 _).then <| (Decodes.u8Bool _).then <| (decodes_array Decodes.u8Bool _).then <|
    (Decodes.u64 _).then <| (Decodes.bytes _ _).last

/-! ## Register frames -/

def readFrame : Reader CallFrameSnapshot := do
  let stackedRegisters ← array u64 96
  let cfm ← u64
  let returnAddress ← u64
  return { stackedRegisters, cfm, returnAddress }

def putFrame (f : CallFrameSnapshot) : List UInt8 :=
  [putArray putU64 f.stackedRegisters, putU64 f.cfm, putU64 f.returnAddress].flatten

def readKeyedFrame : Reader (UInt64 × CallFrameSnapshot) := do
  let key ← u64
  let frame ← readFrame
  return (key, frame)

def putKeyedFrame (e : UInt64 × CallFrameSnapshot) : List UInt8 := [putU64 e.1, putFrame e.2].flatten

/-- The frames of interruptions are not in a checkpoint. -/
def readFrames : Reader RegisterFrames := do
  let pendingCallInputs ← readEntries u64
  let callFrameStack ← readEntries readFrame
  let completedCallFrames ← readMap readKeyedFrame fun m e => some (m.emplace e.1 e.2)
  return { pendingCallInputs, callFrameStack, completedCallFrames }

def putFrames (f : RegisterFrames) : List UInt8 :=
  [putList putU64 f.pendingCallInputs, putList putFrame f.callFrameStack,
    putList putKeyedFrame f.completedCallFrames.entries].flatten

structure FramesFit (f : RegisterFrames) : Prop where
  inputs : f.pendingCallInputs.length ≤ kMaxCheckpointVectorEntries
  active : f.callFrameStack.length ≤ kMaxCheckpointVectorEntries
  completed : f.completedCallFrames.size ≤ kMaxCheckpointVectorEntries

theorem decodes_frame (f : CallFrameSnapshot) : Decodes readFrame (putFrame f) True f :=
  (decodes_array Decodes.u64 _).then <| (Decodes.u64 _).then <| (Decodes.u64 _).last

theorem decodes_keyedFrame (e : UInt64 × CallFrameSnapshot) : Decodes readKeyedFrame (putKeyedFrame e) True e :=
  (Decodes.u64 _).then (decodes_frame _).last

theorem decodes_frames (f : RegisterFrames) :
    Decodes readFrames (putFrames f) (FramesFit f) { f with interruptFrameStack := [] } := by
  have hmap := decodes_readMap (by simp [putKeyedFrame]) decodes_keyedFrame f.completedCallFrames
    (OrdMap.foldlM_entries (fun _ _ _ h => congrArg some (OrdMap.emplace_of_emplace? h)) _)
  refine Decodes.congr ((decodes_entries (by simp) Decodes.u64 _).cons <|
    (decodes_entries (by simp [putFrame]) decodes_frame _).cons hmap.last) ?_
  constructor
  · rintro ⟨hinputs, hactive, hcompleted, _⟩
    exact ⟨hinputs, hactive, hcompleted⟩
  · rintro ⟨hinputs, hactive, hcompleted⟩
    exact ⟨hinputs, hactive, hcompleted, fun _ _ => trivial⟩

/-! ## Console input, counters -/

/-- A key; the narrow fields are written as 32-bit words. -/
def readInputKey : Reader EfiInputKey := do
  let scanCode ← u32
  let unicodeChar ← u32
  let shiftState ← u32
  let toggleState ← u32
  return ⟨scanCode.toUInt16, unicodeChar.toUInt16, shiftState, toggleState.toUInt8⟩

def putInputKey (key : EfiInputKey) : List UInt8 :=
  [putU32 key.scanCode.toUInt32, putU32 key.unicodeChar.toUInt32, putU32 key.shiftState,
    putU32 key.toggleState.toUInt32].flatten

/-- The task priority level and the input queue; the rest of this section is written again later on. -/
def readConsoleInput : Reader (UInt64 × List EfiInputKey) := do
  let efiCurrentTpl ← u64
  let _efiExitBootServicesCalls ← u64
  let _efiTotalFileBytesRead ← u64
  let _lastEfiCallName ← bytes kMaxCheckpointStringBytes
  let _lastEfiCallIP ← u64
  let _lastDescriptorAddress ← u64
  let _lastDescriptorCode ← u64
  let _lastDescriptorGp ← u64
  let _efiHandoffLayoutMemorySize ← u64
  let _efiHandoffLayoutInitialized ← u8Bool
  let efiInputQueue ← readEntries readInputKey
  return (efiCurrentTpl, efiInputQueue)

def putConsoleInput (s : EfiServices) (c : EfiCounters) (t : EfiTrace) (h : EfiHandoffState) : List UInt8 :=
  [putU64 s.efiCurrentTpl, putU64 c.efiExitBootServicesCalls, putU64 t.efiTotalFileBytesRead,
    putBytes t.lastEfiCallName, putU64 t.lastEfiCallIP, putU64 t.lastDescriptorAddress, putU64 t.lastDescriptorCode,
    putU64 t.lastDescriptorGp, putU64 h.efiHandoffLayoutMemorySize, putBool h.efiHandoffLayoutInitialized,
    putList putInputKey s.efiInputQueue].flatten

namespace EfiCounters

/-- The counters in the order they are written. -/
def toVector (c : EfiCounters) : Vector UInt64 36 :=
  #v[c.efiTextOutputCalls, c.efiTextOutputMirrored, c.efiTextOutputFramebuffer, c.efiOpenVolumeCalls,
    c.efiSimpleFsProtocolReturns, c.efiGenericSuccessCalls, c.efiGenericUnsupportedCalls,
    c.efiZeroGuidProtocolCalls, c.efiHandleProtocolCalls, c.efiLocateHandleCalls, c.efiLocateProtocolCalls,
    c.efiGetMemoryMapCalls, c.efiExitBootServicesCalls, c.efiAllocatePoolCalls, c.efiAllocatePagesCalls,
    c.efiFreePagesCalls, c.efiFreePoolCalls, c.efiCopyMemCalls, c.efiLoadImageCalls, c.efiStartImageCalls,
    c.efiSetMemCalls, c.efiFileOpenCalls, c.efiFileReadCalls, c.efiFileGetInfoCalls, c.efiFileCloseCalls,
    c.efiFileSetPositionCalls, c.efiFileGetPositionCalls, c.efiReadKeyStrokeCalls, c.efiReadKeyStrokeExCalls,
    c.efiReadKeyStrokeNotReadyCalls, c.efiReadKeyStrokeSuccessCalls, c.efiReadKeyStrokeExNotReadyCalls,
    c.efiReadKeyStrokeExSuccessCalls, c.efiWaitForEventCalls, c.efiCheckEventCalls, c.efiFirstSuccessfulFileOpen]

/-- The counters assigned from `restoredCounters`, one index after the other. -/
def ofVector (v : Vector UInt64 36) : EfiCounters :=
  ⟨v[0], v[1], v[2], v[3], v[4], v[5], v[6], v[7], v[8], v[9], v[10], v[11], v[12], v[13], v[14], v[15], v[16],
    v[17], v[18], v[19], v[20], v[21], v[22], v[23], v[24], v[25], v[26], v[27], v[28], v[29], v[30], v[31],
    v[32], v[33], v[34], v[35]⟩

end EfiCounters

/-- The service counters, after two numbers of the firmware. -/
def readCounters : Reader (UInt64 × UInt64 × EfiCounters) := do
  let lastEfiDescriptorFieldAddress ← u64
  let efiNextSyntheticHandle ← u64
  let restoredCounters ← array readSize 36
  return (lastEfiDescriptorFieldAddress, efiNextSyntheticHandle, .ofVector restoredCounters)

def putCounters (s : EfiServices) (c : EfiCounters) : List UInt8 :=
  [putU64 s.lastEfiDescriptorFieldAddress, putU64 s.efiNextSyntheticHandle, putArray putU64 c.toVector].flatten

theorem decodes_inputKey (key : EfiInputKey) : Decodes readInputKey (putInputKey key) True key := by
  have h : Decodes readInputKey (putInputKey key) True ⟨key.scanCode.toUInt32.toUInt16,
      key.unicodeChar.toUInt32.toUInt16, key.shiftState, key.toggleState.toUInt32.toUInt8⟩ :=
    (Decodes.u32 _).then <| (Decodes.u32 _).then <| (Decodes.u32 _).then <| (Decodes.u32 _).last
  rw [UInt16.toUInt16_toUInt32, UInt16.toUInt16_toUInt32, UInt8.toUInt8_toUInt32] at h
  exact h

variable (s : EfiServices)

theorem decodes_consoleInput (c : EfiCounters) (t : EfiTrace) (h : EfiHandoffState) :
    Decodes readConsoleInput (putConsoleInput s c t h)
      (t.lastEfiCallName.length ≤ kMaxCheckpointStringBytes ∧
        s.efiInputQueue.length ≤ kMaxCheckpointVectorEntries)
      (s.efiCurrentTpl, s.efiInputQueue) :=
  (Decodes.u64 _).then <| (Decodes.u64 _).then <| (Decodes.u64 _).then <| (decodes_string _).cons <|
    (Decodes.u64 _).then <| (Decodes.u64 _).then <| (Decodes.u64 _).then <| (Decodes.u64 _).then <|
    (Decodes.u64 _).then <| (Decodes.u8Bool _).then <|
    (decodes_entries (by simp [putInputKey]) decodes_inputKey _).last

theorem decodes_counters (c : EfiCounters) :
    Decodes readCounters (putCounters s c) True
      (s.lastEfiDescriptorFieldAddress, s.efiNextSyntheticHandle, c) :=
  (Decodes.u64 _).then <| (Decodes.u64 _).then <| (decodes_array decodes_readSize c.toVector).last

/-! ## Traces -/

def readRecentInstruction : Reader RecentInstructionTrace := do
  let ip ← u64
  let slot ← readSize
  let disasm ← bytes kMaxCheckpointStringBytes
  return { ip, slot, disasm }

def putRecentInstruction (e : RecentInstructionTrace) : List UInt8 :=
  [putU64 e.ip, putU64 e.slot, putBytes e.disasm].flatten

def readRecentWrite : Reader RecentRegisterWriteTrace := do
  let reg ← readSize
  let value ← u64
  let ip ← u64
  let slot ← readSize
  let disasm ← bytes kMaxCheckpointStringBytes
  return { reg, value, ip, slot, disasm }

def putRecentWrite (e : RecentRegisterWriteTrace) : List UInt8 :=
  [putU64 e.reg, putU64 e.value, putU64 e.ip, putU64 e.slot, putBytes e.disasm].flatten

/-- A segment index is written sign-extended; a word that is no sign-extended `int` is refused. -/
def readPlacementEvent : Reader PlacementEvent := do
  let step ← u64
  let destination ← u64
  let source ← u64
  let length ← u64
  let cumulativeFileBackedBytes ← u64
  let elfOffset ← u64
  let segment ← u64
  require (¬ (segment > 0x7FFFFFFF ∧ segment < 0xFFFFFFFF80000000))
  return { step, destination, source, length, cumulativeFileBackedBytes, elfOffset,
           segmentIndex := segment.toInt64.toInt32 }

def putPlacementEvent (e : PlacementEvent) : List UInt8 :=
  [putU64 e.step, putU64 e.destination, putU64 e.source, putU64 e.length, putU64 e.cumulativeFileBackedBytes,
    putU64 e.elfOffset, putU64 e.segmentIndex.toInt64.toUInt64].flatten

/-- All of the trace but the pending register configuration entry, which comes last in a checkpoint. -/
def readTrace : Reader EfiTrace := do
  let efiTotalFileBytesRead ← u64
  let descriptorCallCount ← readSize
  let gpSwitchCount ← readSize
  let suspiciousGpCount ← readSize
  let unknownRegionCallCount ← readSize
  let recoveredLoadStoreCount ← readSize
  let postSimpleFsTraceBudget ← readSize
  let postSimpleFsTraceActive ← readFlag
  let postSimpleFsProtocolAddress ← u64
  let lastEfiCallName ← bytes kMaxCheckpointStringBytes
  let lastEfiCallIP ← u64
  let lastDescriptorAddress ← u64
  let lastDescriptorCode ← u64
  let lastDescriptorGp ← u64
  let lastBranchTargets ← readEntries u64
  let recentInstructions ← readEntries readRecentInstruction
  let recentTrackedRegisterWrites ← readEntries readRecentWrite
  let recentInstructionSequenceRepeatCount ← readSize
  let placementStepCount ← u64
  let placementFileBackedBytes ← u64
  let placementEvents ← readEntries readPlacementEvent
  return {
    efiTotalFileBytesRead, descriptorCallCount, gpSwitchCount, suspiciousGpCount, unknownRegionCallCount,
    recoveredLoadStoreCount, postSimpleFsTraceBudget, postSimpleFsTraceActive, postSimpleFsProtocolAddress,
    lastEfiCallName, lastEfiCallIP, lastDescriptorAddress, lastDescriptorCode, lastDescriptorGp,
    lastBranchTargets, recentInstructions, recentTrackedRegisterWrites, recentInstructionSequenceRepeatCount,
    placementStepCount, placementFileBackedBytes, placementEvents }

def putTrace (t : EfiTrace) : List UInt8 :=
  [putU64 t.efiTotalFileBytesRead, putU64 t.descriptorCallCount, putU64 t.gpSwitchCount,
    putU64 t.suspiciousGpCount, putU64 t.unknownRegionCallCount, putU64 t.recoveredLoadStoreCount,
    putU64 t.postSimpleFsTraceBudget, putBool t.postSimpleFsTraceActive, putU64 t.postSimpleFsProtocolAddress,
    putBytes t.lastEfiCallName, putU64 t.lastEfiCallIP, putU64 t.lastDescriptorAddress,
    putU64 t.lastDescriptorCode, putU64 t.lastDescriptorGp, putList putU64 t.lastBranchTargets,
    putList putRecentInstruction t.recentInstructions, putList putRecentWrite t.recentTrackedRegisterWrites,
    putU64 t.recentInstructionSequenceRepeatCount, putU64 t.placementStepCount,
    putU64 t.placementFileBackedBytes, putList putPlacementEvent t.placementEvents].flatten

structure TraceFits (t : EfiTrace) : Prop where
  callName : t.lastEfiCallName.length ≤ kMaxCheckpointStringBytes
  branchTargets : t.lastBranchTargets.length ≤ kMaxCheckpointVectorEntries
  instructions : t.recentInstructions.length ≤ kMaxCheckpointVectorEntries ∧
    ∀ e ∈ t.recentInstructions, e.disasm.length ≤ kMaxCheckpointStringBytes
  writes : t.recentTrackedRegisterWrites.length ≤ kMaxCheckpointVectorEntries ∧
    ∀ e ∈ t.recentTrackedRegisterWrites, e.disasm.length ≤ kMaxCheckpointStringBytes
  events : t.placementEvents.length ≤ kMaxCheckpointVectorEntries

theorem decodes_recentInstruction (e : RecentInstructionTrace) :
    Decodes readRecentInstruction (putRecentInstruction e) (e.disasm.length ≤ kMaxCheckpointStringBytes) e :=
  (Decodes.u64 _).then <| (decodes_readSize _).then <| (decodes_string _).last

theorem decodes_recentWrite (e : RecentRegisterWriteTrace) :
    Decodes readRecentWrite (putRecentWrite e) (e.disasm.length ≤ kMaxCheckpointStringBytes) e :=
  (decodes_readSize _).then <| (Decodes.u64 _).then <| (Decodes.u64 _).then <| (decodes_readSize _).then <|
    (decodes_string _).last

/-- Sign extension is undone, and leaves the range that is refused alone. -/
theorem segmentIndex_roundTrip (i : Int32) :
    ¬ (i.toInt64.toUInt64 > 0x7FFFFFFF ∧ i.toInt64.toUInt64 < 0xFFFFFFFF80000000) ∧
      i.toInt64.toUInt64.toInt64.toInt32 = i := by
  refine ⟨?_, Int32.toInt32_toInt64 i⟩
  rintro ⟨hgt, hlt⟩
  have hword : i.toInt64.toUInt64.toBitVec.toInt = i.toInt := Int32.toInt_toInt64 i
  rw [BitVec.toInt_eq_toNat_cond] at hword
  have hlow := i.le_toInt
  have hhigh := i.toInt_lt
  have hgt' : 0x7FFFFFFF < i.toInt64.toUInt64.toBitVec.toNat := UInt64.lt_iff_toNat_lt.mp hgt
  have hlt' : i.toInt64.toUInt64.toBitVec.toNat < 0xFFFFFFFF80000000 := UInt64.lt_iff_toNat_lt.mp hlt
  split at hword <;> omega

theorem decodes_placementEvent (e : PlacementEvent) : Decodes readPlacementEvent (putPlacementEvent e) True e := by
  obtain ⟨hrange, hindex⟩ := segmentIndex_roundTrip e.segmentIndex
  have h : Decodes readPlacementEvent (putPlacementEvent e) True
      { e with segmentIndex := e.segmentIndex.toInt64.toUInt64.toInt64.toInt32 } :=
    (Decodes.u64 _).then <| (Decodes.u64 _).then <| (Decodes.u64 _).then <| (Decodes.u64 _).then <|
      (Decodes.u64 _).then <| (Decodes.u64 _).then <| (Decodes.u64 _).then <| .require_of hrange .pure
  rw [hindex] at h
  exact h

theorem decodes_trace (t : EfiTrace) :
    Decodes readTrace (putTrace t) (TraceFits t)
      { t with
        pendingRegisterConfigEntryTarget := 0
        pendingRegisterConfigEntryCallsite := 0
        pendingRegisterConfigEntryArmed := false } := by
  refine Decodes.congr ((Decodes.u64 _).then <| (decodes_readSize _).then <| (decodes_readSize _).then <|
    (decodes_readSize _).then <| (decodes_readSize _).then <| (decodes_readSize _).then <|
    (decodes_readSize _).then <| (decodes_readFlag _).then <| (Decodes.u64 _).then <| (decodes_string _).cons <|
    (Decodes.u64 _).then <| (Decodes.u64 _).then <| (Decodes.u64 _).then <| (Decodes.u64 _).then <|
    (decodes_entries (by simp) Decodes.u64 _).cons <|
    (decodes_readEntries (by simp [putRecentInstruction]) decodes_recentInstruction _).cons <|
    (decodes_readEntries (by simp [putRecentWrite]) decodes_recentWrite _).cons <|
    (decodes_readSize _).then <| (Decodes.u64 _).then <| (Decodes.u64 _).then
    (decodes_entries (by simp [putPlacementEvent]) decodes_placementEvent _).last) ?_
  constructor
  · rintro ⟨hname, htargets, hinstructions, hwrites, hevents⟩
    exact ⟨hname, htargets, hinstructions, hwrites, hevents⟩
  · rintro ⟨hname, htargets, hinstructions, hwrites, hevents⟩
    exact ⟨hname, htargets, hinstructions, hwrites, hevents⟩

/-! ## Protocols and files -/

def readAttachment : Reader EfiProtocolAttachment := do
  let handle ← u64
  let protocol ← array u8 16
  let interfaceAddress ← u64
  return { handle, protocol, interfaceAddress }

def putAttachment (a : EfiProtocolAttachment) : List UInt8 :=
  [putU64 a.handle, putArray putU8 a.protocol, putU64 a.interfaceAddress].flatten

def readDirectoryEntry : Reader FATFileInfo := do
  let name ← bytes kMaxCheckpointStringBytes
  let isDirectory ← readFlag
  let size ← u32
  let firstCluster ← u32
  let attributes ← u8
  return { name, isDirectory, size, firstCluster, attributes }

def putDirectoryEntry (e : FATFileInfo) : List UInt8 :=
  [putBytes e.name, putBool e.isDirectory, putU32 e.size, putU32 e.firstCluster, putU8 e.attributes].flatten

def readFileHandle : Reader (UInt64 × EfiFileHandle) := do
  let key ← u64
  let protocolAddress ← u64
  let path ← bytes kMaxCheckpointStringBytes
  let isDirectory ← readFlag
  let data ← bytes kMaxCheckpointBlobBytes
  let directoryEntries ← readEntries readDirectoryEntry
  let directoryIndex ← readSize
  let position ← u64
  requireValid
  return (key, { protocolAddress, path, isDirectory, data, directoryEntries, directoryIndex, position })

def putFileHandle (e : UInt64 × EfiFileHandle) : List UInt8 :=
  [putU64 e.1, putU64 e.2.protocolAddress, putBytes e.2.path, putBool e.2.isDirectory, putBytes e.2.data,
    putList putDirectoryEntry e.2.directoryEntries, putU64 e.2.directoryIndex, putU64 e.2.position].flatten

/-- Protocol attachments and open files. A file handle must not come twice. -/
def readProtocols : Reader (List EfiProtocolAttachment × OrdMap UInt64 EfiFileHandle) := do
  let attachments ← readEntries readAttachment
  let fileHandles ← readMap readFileHandle fun m e => m.emplace? e.1 e.2
  return (attachments, fileHandles)

def putProtocols (s : EfiServices) : List UInt8 :=
  [putList putAttachment s.efiProtocolAttachments, putList putFileHandle s.efiFileHandles.entries].flatten

structure FileFits (f : EfiFileHandle) : Prop where
  path : f.path.length ≤ kMaxCheckpointStringBytes
  data : f.data.length ≤ kMaxCheckpointBlobBytes
  entries : f.directoryEntries.length ≤ kMaxCheckpointVectorEntries ∧
    ∀ e ∈ f.directoryEntries, e.name.length ≤ kMaxCheckpointStringBytes

structure ProtocolsFit (s : EfiServices) : Prop where
  attachments : s.efiProtocolAttachments.length ≤ kMaxCheckpointVectorEntries
  files : s.efiFileHandles.size ≤ kMaxCheckpointVectorEntries ∧
    ∀ e ∈ s.efiFileHandles.entries, FileFits e.2

theorem decodes_attachment (a : EfiProtocolAttachment) : Decodes readAttachment (putAttachment a) True a :=
  (Decodes.u64 _).then <| (decodes_array Decodes.u8 _).then <| (Decodes.u64 _).last

theorem decodes_directoryEntry (e : FATFileInfo) :
    Decodes readDirectoryEntry (putDirectoryEntry e) (e.name.length ≤ kMaxCheckpointStringBytes) e := by
  refine Decodes.congr ((decodes_string _).cons <| (decodes_readFlag _).then <| (Decodes.u32 _).then <|
    (Decodes.u32 _).then (Decodes.u8 _).last) ?_
  rw [and_true]

theorem decodes_fileHandle (e : UInt64 × EfiFileHandle) :
    Decodes readFileHandle (putFileHandle e) (FileFits e.2) e := by
  refine Decodes.congr ((Decodes.u64 _).then <| (Decodes.u64 _).then <| (decodes_string _).cons <|
    (decodes_readFlag _).then <| (Decodes.bytes _ _).cons <|
    (decodes_readEntries (by simp [putDirectoryEntry]) decodes_directoryEntry _).cons <|
    (decodes_readSize _).then <| (Decodes.u64 _).then <| .requireValid .pure) ?_
  constructor
  · rintro ⟨hpath, hdata, hentries, _⟩
    exact ⟨hpath, hdata, hentries⟩
  · rintro ⟨hpath, hdata, hentries⟩
    exact ⟨hpath, hdata, hentries, trivial⟩

theorem decodes_protocols :
    Decodes readProtocols (putProtocols s) (ProtocolsFit s) (s.efiProtocolAttachments, s.efiFileHandles) := by
  have hmap := decodes_readMap (by simp [putFileHandle]) decodes_fileHandle s.efiFileHandles
    (OrdMap.foldlM_entries (fun _ _ _ h => h) _)
  refine Decodes.congr ((decodes_entries (by simp [putAttachment]) decodes_attachment _).cons hmap.last) ?_
  constructor
  · rintro ⟨hattachments, hfiles⟩
    exact ⟨hattachments, hfiles⟩
  · rintro ⟨hattachments, hfiles⟩
    exact ⟨hattachments, hfiles⟩

/-! ## Memory map and images -/

def readDescriptor : Reader EfiMemoryDescriptor := do
  let type ← u32
  let physicalStart ← u64
  let numberOfPages ← u64
  let attributes ← u64
  return { type, physicalStart, numberOfPages, attributes }

def putDescriptor (d : EfiMemoryDescriptor) : List UInt8 :=
  [putU32 d.type, putU64 d.physicalStart, putU64 d.numberOfPages, putU64 d.attributes].flatten

def readReservation : Reader EfiMemoryReservation := do
  let type ← u32
  let physicalStart ← u64
  let numberOfPages ← u64
  return { type, physicalStart, numberOfPages }

def putReservation (r : EfiMemoryReservation) : List UInt8 :=
  [putU32 r.type, putU64 r.physicalStart, putU64 r.numberOfPages].flatten

/-- Page and pool allocations have one format. -/
def readAllocation : Reader EfiAllocation := do
  let physicalStart ← u64
  let numberOfPages ← u64
  let type ← u32
  return { physicalStart, numberOfPages, type }

def putAllocation (a : EfiAllocation) : List UInt8 :=
  [putU64 a.physicalStart, putU64 a.numberOfPages, putU32 a.type].flatten

def readLoadedImage : Reader (UInt64 × EfiLoadedImage) := do
  let key ← u64
  let handle ← u64
  let protocolAddress ← u64
  let parentHandle ← u64
  let deviceHandle ← u64
  let imageBase ← u64
  let imageSize ← u64
  let entryPoint ← u64
  let globalPointer ← u64
  let filePath ← u64
  requireValid
  return (key, { handle, protocolAddress, parentHandle, deviceHandle, imageBase, imageSize, entryPoint,
                 globalPointer, filePath })

def putLoadedImage (e : UInt64 × EfiLoadedImage) : List UInt8 :=
  [putU64 e.1, putU64 e.2.handle, putU64 e.2.protocolAddress, putU64 e.2.parentHandle, putU64 e.2.deviceHandle,
    putU64 e.2.imageBase, putU64 e.2.imageSize, putU64 e.2.entryPoint, putU64 e.2.globalPointer,
    putU64 e.2.filePath].flatten

def readMemoryState : Reader (EfiMemoryState × OrdMap UInt64 EfiLoadedImage) := do
  let efiMemoryMap ← readEntries readDescriptor
  let efiMemoryReservations ← readEntries readReservation
  let efiPageAllocations ← readEntries readAllocation
  let efiPoolAllocations ← readEntries readAllocation
  let efiLoadedImages ← readMap readLoadedImage fun m e => m.emplace? e.1 e.2
  let efiMemoryMapKey ← u64
  let efiMemoryMapMemorySize ← u64
  let efiMemoryMapInitialized ← readFlag
  return ({ efiMemoryMap, efiMemoryReservations, efiPageAllocations, efiPoolAllocations, efiMemoryMapKey,
            efiMemoryMapMemorySize, efiMemoryMapInitialized }, efiLoadedImages)

def putMemoryState (m : EfiMemoryState) (images : OrdMap UInt64 EfiLoadedImage) : List UInt8 :=
  [putList putDescriptor m.efiMemoryMap, putList putReservation m.efiMemoryReservations,
    putList putAllocation m.efiPageAllocations, putList putAllocation m.efiPoolAllocations,
    putList putLoadedImage images.entries, putU64 m.efiMemoryMapKey, putU64 m.efiMemoryMapMemorySize,
    putBool m.efiMemoryMapInitialized].flatten

structure MemoryStateFits (m : EfiMemoryState) (images : OrdMap UInt64 EfiLoadedImage) : Prop where
  memoryMap : m.efiMemoryMap.length ≤ kMaxCheckpointVectorEntries
  reservations : m.efiMemoryReservations.length ≤ kMaxCheckpointVectorEntries
  pages : m.efiPageAllocations.length ≤ kMaxCheckpointVectorEntries
  pools : m.efiPoolAllocations.length ≤ kMaxCheckpointVectorEntries
  images : images.size ≤ kMaxCheckpointVectorEntries

theorem decodes_descriptor (d : EfiMemoryDescriptor) : Decodes readDescriptor (putDescriptor d) True d :=
  (Decodes.u32 _).then <| (Decodes.u64 _).then <| (Decodes.u64 _).then <| (Decodes.u64 _).last

theorem decodes_reservation (r : EfiMemoryReservation) : Decodes readReservation (putReservation r) True r :=
  (Decodes.u32 _).then <| (Decodes.u64 _).then <| (Decodes.u64 _).last

theorem decodes_allocation (a : EfiAllocation) : Decodes readAllocation (putAllocation a) True a :=
  (Decodes.u64 _).then <| (Decodes.u64 _).then <| (Decodes.u32 _).last

theorem decodes_loadedImage (e : UInt64 × EfiLoadedImage) : Decodes readLoadedImage (putLoadedImage e) True e :=
  (Decodes.u64 _).then <| (Decodes.u64 _).then <| (Decodes.u64 _).then <| (Decodes.u64 _).then <|
    (Decodes.u64 _).then <| (Decodes.u64 _).then <| (Decodes.u64 _).then <| (Decodes.u64 _).then <|
    (Decodes.u64 _).then <| (Decodes.u64 _).then <| .requireValid .pure

theorem decodes_memoryState (m : EfiMemoryState) (images : OrdMap UInt64 EfiLoadedImage) :
    Decodes readMemoryState (putMemoryState m images) (MemoryStateFits m images) (m, images) := by
  have hmap := decodes_readMap (by simp [putLoadedImage]) decodes_loadedImage images
    (OrdMap.foldlM_entries (fun _ _ _ h => h) _)
  refine Decodes.congr ((decodes_entries (by simp [putDescriptor]) decodes_descriptor _).cons <|
    (decodes_entries (by simp [putReservation]) decodes_reservation _).cons <|
    (decodes_entries (by simp [putAllocation]) decodes_allocation _).cons <|
    (decodes_entries (by simp [putAllocation]) decodes_allocation _).cons <| hmap.cons <|
    (Decodes.u64 _).then <| (Decodes.u64 _).then (decodes_readFlag _).last) ?_
  constructor
  · rintro ⟨hmemoryMap, hreservations, hpages, hpools, ⟨himages, _⟩, _⟩
    exact ⟨hmemoryMap, hreservations, hpages, hpools, himages⟩
  · rintro ⟨hmemoryMap, hreservations, hpages, hpools, himages⟩
    exact ⟨hmemoryMap, hreservations, hpages, hpools, ⟨himages, fun _ _ => trivial⟩, trivial⟩

/-! ## Boot image and handoff -/

/-- What a checkpoint says about the boot image, the handoff, and the pending register configuration. -/
structure RestoredHandoff where
  efiBootImage : List UInt8
  efiBootImageFromVmManager : Bool
  handoff : EfiHandoffState
  pendingRegisterConfigEntryTarget : UInt64
  pendingRegisterConfigEntryCallsite : UInt64
  pendingRegisterConfigEntryArmed : Bool
  hasCachedInstruction : Bool

def readHandoff : Reader RestoredHandoff := do
  let efiBootImage ← bytes kMaxCheckpointBlobBytes
  let efiBootImageFromVmManager ← readFlag
  let efiHandoffLayoutMemorySize ← u64
  let efiHandoffLayoutInitialized ← readFlag
  let pendingRegisterConfigEntryTarget ← u64
  let pendingRegisterConfigEntryCallsite ← u64
  let pendingRegisterConfigEntryArmed ← readFlag
  let efiHandoffBoundaryPending ← readFlag
  let valid ← readFlag
  let callerIP ← u64
  let callerSlot ← readSize
  let rawTarget ← u64
  let targetIP ← u64
  let targetSlot ← readSize
  let efiHandoffCheckpointConsumed ← readFlag
  let hasCachedInstruction ← readFlag
  return {
    efiBootImage, efiBootImageFromVmManager, pendingRegisterConfigEntryTarget,
    pendingRegisterConfigEntryCallsite, pendingRegisterConfigEntryArmed, hasCachedInstruction
    handoff := {
      efiHandoffLayoutMemorySize, efiHandoffLayoutInitialized, efiHandoffBoundaryPending,
      efiHandoffCheckpointConsumed
      efiHandoffBoundary := { valid, callerIP, callerSlot, rawTarget, targetIP, targetSlot } } }

def putHandoff (s : EfiServices) (h : EfiHandoffState) (t : EfiTrace) (hasCachedInstruction : Bool) : List UInt8 :=
  [putBytes s.boot.efiBootImage, putBool s.boot.efiBootImageFromVmManager, putU64 h.efiHandoffLayoutMemorySize,
    putBool h.efiHandoffLayoutInitialized, putU64 t.pendingRegisterConfigEntryTarget,
    putU64 t.pendingRegisterConfigEntryCallsite, putBool t.pendingRegisterConfigEntryArmed,
    putBool h.efiHandoffBoundaryPending, putBool h.efiHandoffBoundary.valid, putU64 h.efiHandoffBoundary.callerIP,
    putU64 h.efiHandoffBoundary.callerSlot, putU64 h.efiHandoffBoundary.rawTarget,
    putU64 h.efiHandoffBoundary.targetIP, putU64 h.efiHandoffBoundary.targetSlot,
    putBool h.efiHandoffCheckpointConsumed, putBool hasCachedInstruction].flatten

theorem decodes_handoff (h : EfiHandoffState) (t : EfiTrace) (hasCachedInstruction : Bool) :
    Decodes readHandoff (putHandoff s h t hasCachedInstruction) (s.boot.efiBootImage.length ≤ kMaxCheckpointBlobBytes)
      ⟨s.boot.efiBootImage, s.boot.efiBootImageFromVmManager, h, t.pendingRegisterConfigEntryTarget,
        t.pendingRegisterConfigEntryCallsite, t.pendingRegisterConfigEntryArmed, hasCachedInstruction⟩ := by
  refine Decodes.congr ((Decodes.bytes _ _).cons <| (decodes_readFlag _).then <| (Decodes.u64 _).then <|
    (decodes_readFlag _).then <| (Decodes.u64 _).then <| (Decodes.u64 _).then <| (decodes_readFlag _).then <|
    (decodes_readFlag _).then <| (decodes_readFlag _).then <| (Decodes.u64 _).then <| (decodes_readSize _).then <|
    (Decodes.u64 _).then <| (Decodes.u64 _).then <| (decodes_readSize _).then <| (decodes_readFlag _).then
    (decodes_readFlag _).last) ?_
  rw [and_true]

/-! ## Interrupts -/

/-- The local interrupt controller. The first checkpoints have none of it, later ones no `configured` flag. -/
def readLocalInterrupts : Reader LocalInterrupts := do
  let left ← remaining
  if left = 0 then return {}
  else
    let interruptInService ← readFlag
    let inServiceVector ← u8
    let timerCompareLatched ← readFlag
    let left ← remaining
    let intervalTimerConfigured ← if left = 0 then pure false else readFlag
    return { interruptInService, inServiceVector, timerCompareLatched, intervalTimerConfigured }

def putLocalInterrupts (i : LocalInterrupts) : List UInt8 :=
  [putBool i.interruptInService, putU8 i.inServiceVector, putBool i.timerCompareLatched,
    putBool i.intervalTimerConfigured].flatten

theorem decodes_localInterrupts (i : LocalInterrupts) :
    Decodes readLocalInterrupts (putLocalInterrupts i) True i := by
  refine Decodes.remaining fun left hleft => ?_
  have hsome : left ≠ 0 := Nat.ne_of_gt (Nat.lt_of_lt_of_le (by simp [putLocalInterrupts]) hleft)
  rw [if_neg hsome]
  refine (decodes_readFlag _).then <| (Decodes.u8 _).then <| (decodes_readFlag _).then <|
    Decodes.remaining fun left hleft => ?_
  have hlast : left ≠ 0 := Nat.ne_of_gt (Nat.lt_of_lt_of_le (by simp) hleft)
  rw [if_neg hlast]
  exact (decodes_readFlag _).last

end GuideXOS.Isa
